/-
  The registration that a probed process submits.

  It names the instance by its endpoint, tags it, and asks for a check: an HTTP probe of the instance
  itself at the configured path.
-/
import Muster.Config.Discovery

namespace Muster.Probed

/-- The check that is asked for. -/
structure ProbeCheck where
  /-- The URL that is probed. -/
  http : String
  interval : String
  timeout : String
  deregisterCriticalAfter : String
deriving DecidableEq, Repr

/-- **A registration.** -/
structure Registration where
  id : String
  name : String
  address : String
  port : UInt16
  scope : String
  tags : List String
  /-- Values under names. -/
  attributes : List (String × String)
  check : ProbeCheck
deriving DecidableEq, Repr

namespace Registration

/-- The path of the check, which starts with a slash. -/
def probePath (path : String) : String := if Text.startsWith "/" path then path else "/" ++ path

/-- **The registration of a process** in a namespace, with the configured check. -/
def ofRegistrant (r : Registrant) (scope : String) (check : Config.Check) : Registration where
  id := r.endpoint
  name := r.name
  address := r.address
  port := r.port
  scope := scope
  tags := [r.name, r.address, r.appType.text]
  attributes := [("appType", Decimal.ofInt r.appType.number)]
  check :=
    { http := "http://" ++ r.endpoint ++ probePath check.path
      interval := check.interval
      timeout := check.timeout
      deregisterCriticalAfter := check.deregisterCriticalAfter }

/-- A registration as JSON; an empty namespace is left out. -/
def toJson (r : Registration) : Json :=
  .object <|
    [("ID", .string r.id), ("Name", .string r.name), ("Address", .string r.address),
      ("Port", .ofNat r.port.toNat)] ++
    (if r.scope = "" then [] else [("Namespace", .string r.scope)]) ++
    [("Tags", .strings r.tags),
      ("Meta", .object (r.attributes.map fun a => (a.1, .string a.2))),
      ("Check", .object [("HTTP", .string r.check.http), ("Interval", .string r.check.interval),
        ("Timeout", .string r.check.timeout),
        ("DeregisterCriticalServiceAfter", .string r.check.deregisterCriticalAfter)])]

end Registration

end Muster.Probed
