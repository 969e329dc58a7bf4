/-
  Kinds of applications, and what a process announces about itself.

  (1) `AppType` — five kinds, each with a number, a name for readers, and a name in configuration.
  (2) `Registrant` — the name, address, port and kind under which this process registers.

  Reading a kind out of free text takes its configured name in any case, or its number.  Case is
  ignored for the ASCII letters only, and that is enough: the two other characters whose lower case
  holds an ASCII letter give `k` and `i`, which no name contains.
-/
import Muster.Instance

namespace Muster

/-- The text with its ASCII letters in lower case. -/
def lowerAscii (s : String) : String := String.ofList (s.toList.map Char.toLower)

/-- The kinds of applications. -/
inductive AppType where
  | web | grpc | http | cron | queue
deriving DecidableEq, Repr, Inhabited

namespace AppType

/-- The number of a kind. -/
def number : AppType → Nat
  | web => 1
  | grpc => 2
  | http => 3
  | cron => 4
  | queue => 5

/-- The name of a kind for readers, used as a tag. -/
def text : AppType → String
  | web => "Web"
  | grpc => "gRPC"
  | http => "Http"
  | cron => "Cron"
  | queue => "Queue"

/-- The name of a kind in configuration. -/
def key : AppType → String
  | web => "web"
  | grpc => "grpc"
  | http => "http"
  | cron => "cron"
  | queue => "queue"

/-- Every kind. -/
def all : List AppType := [web, grpc, http, cron, queue]

/-- The kind with a configured name, spelled exactly. -/
def ofKey? (s : String) : Option AppType := all.find? fun t => t.key == s

/-- **The kind that a text names**: by its configured name in any case, or by its number. -/
def parse (s : String) : Except String AppType :=
  let l := lowerAscii s
  match all.find? fun t => t.key == l || Decimal.ofInt t.number == l with
  | some t => .ok t
  | none => .error ("Unknown app type: " ++ s)

end AppType

/-- **What a process announces about itself.** -/
structure Registrant where
  /-- The name of the service that the process belongs to. -/
  name : String
  /-- The host at which others reach it. -/
  address : String
  /-- The port at which others reach it. -/
  port : UInt16
  /-- The kind of application. -/
  appType : AppType := .grpc
deriving DecidableEq, Repr, Inhabited

namespace Registrant

/-- The instance that the process is. -/
def self (r : Registrant) : Instance := ⟨r.name, r.address, r.port⟩

/-- The endpoint at which the process answers. -/
def endpoint (r : Registrant) : String := Endpoint.render r.address r.port

end Registrant

end Muster
