/-
  Log lines: how severe, what happened, and the values that go with it.

  The values are kept as texts under names.  A line about an instance always carries the same three:
  its service, its address and its port.
-/
import Muster.Json.Basic
import Muster.Instance

namespace Muster.Logging

/-- How severe a line is. -/
inductive Severity where
  | error | warn | info | debug
deriving DecidableEq, Repr, Inhabited

/-- The name of a severity. -/
def Severity.text : Severity → String
  | error => "ERROR"
  | warn => "WARN"
  | info => "INFO"
  | debug => "DEBUG"

/-- **A log line.** -/
structure Line where
  severity : Severity
  message : String
  /-- Values under their names. -/
  fields : List (String × String)
deriving DecidableEq, Repr, Inhabited

namespace Line

/-- A line as JSON: severity, message, and the values with their names in order. -/
def toJson (l : Line) : Json :=
  (Json.array [.string l.severity.text, .string l.message,
    .object (l.fields.map fun f => (f.1, .string f.2))]).sortMembers

/-- A line about an instance of the named service. -/
def about (service message : String) (i : Instance) : Line where
  severity := .info
  message := message
  fields := [("service", service), ("address", i.address), ("port", Decimal.ofInt i.port.toNat)]

end Line

end Muster.Logging
