/-
  The layout of registration keys.

      discovery/<namespace>/<service>/<address>:<port>

  (1) `key` — the key under which a process registers.
  (2) `parse` — the service and the endpoint in a key.  The lead `discovery/<namespace>/` is fixed; what
      follows is cut at its FIRST slash, both pieces must have characters, and the second no slash.

  THE CRUX: nothing is asked of the namespace.  It may hold slashes and lie inside another namespace;
  a key of the inner one is still no key of the outer, since the rest would hold a slash too many.
-/
import Muster.AppType

namespace Muster.Leased.Layout

/-- What every key of a namespace starts with, up to the slash. -/
def root (scope : String) : String := "discovery/" ++ scope

/-- The lead of all keys of a namespace. -/
def lead (scope : String) : String := root scope ++ "/"

/-- The lead of all keys of one service. -/
def serviceLead (scope service : String) : String := root scope ++ "/" ++ service ++ "/"

/-- **The key of a process** in a namespace. -/
def key (scope : String) (r : Registrant) : String :=
  root scope ++ "/" ++ r.name ++ "/" ++ r.endpoint

/-- What of a key follows the lead, cut into service and endpoint. -/
def parts (rest : List Char) : Option (List Char × List Char) :=
  match Text.cutFirst ['/'] rest with
  | none => none
  | some (name, endpoint) =>
    if name = [] ∨ endpoint = [] ∨ '/' ∈ endpoint then none else some (name, endpoint)

/-- **The service and the endpoint in a key** of a namespace, or `none` for any other text. -/
def parse (scope key : String) : Option (String × String) :=
  ((Text.dropLead (lead scope).toList key.toList).bind parts).map fun p =>
    (String.ofList p.1, String.ofList p.2)

end Muster.Leased.Layout
