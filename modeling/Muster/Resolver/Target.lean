/-
  Targets: the texts that a client dials.

      scheme://authority/service

  (1) `parse` — a target is cut at its FIRST "://" and what follows at its first slash; the service is
      the last piece of the path that has any characters.
  (2) `render` — the text of a target.
  (3) `ofSchemeUrl` — a target from the scheme and URL of a backend and the name of a service: the two are
      written one after the other, and the result is read.
-/
import Muster.Failure
import Muster.Text.Cut

namespace Muster

/-- **What a client dials.** -/
structure Target where
  scheme : String
  /-- Shown, but not used. -/
  authority : String
  /-- The name of the service. -/
  service : String
deriving DecidableEq, Repr

namespace Target

/-- Why a text is no target. -/
inductive Refusal where
  | missingScheme | emptyScheme | missingService
deriving DecidableEq, Repr

/-- The wording of a refusal. -/
def Refusal.reason : Refusal → String
  | missingScheme => "missing scheme"
  | emptyScheme => "empty scheme"
  | missingService => "missing service name"

/-- A text as a target that was refused. -/
def Refusal.failure (text : String) (r : Refusal) : Failure := .invalidTarget text r.reason

/-- A target without an authority. -/
def of (scheme service : String) : Target := ⟨scheme, "", service⟩

/-- **The text of a target.** -/
def render (t : Target) : String := t.scheme ++ "://" ++ t.authority ++ "/" ++ t.service

/-- The authority, and the path after it with its slash. -/
def splitPath (rest : List Char) : List Char × List Char :=
  (rest.takeWhile (· != '/'), rest.dropWhile (· != '/'))

/-- The last piece of a path that has any characters. -/
def lastSegment? (path : List Char) : Option (List Char) :=
  (Text.pieces '/' path).reverse.find? (· != [])

/-- **The target in a text.** -/
def parse (s : String) : Except Refusal Target :=
  match Text.cutFirst [':', '/', '/'] s.toList with
  | none => .error .missingScheme
  | some ([], _) => .error .emptyScheme
  | some (scheme, rest) =>
    match lastSegment? (splitPath rest).2 with
    | none => .error .missingService
    | some service =>
      .ok ⟨String.ofList scheme, String.ofList (splitPath rest).1, String.ofList service⟩

/-- The text of the target that `scheme://url` and a service name make. -/
def joined (schemeUrl service : String) : String :=
  String.ofList (Text.trimEnd (· == '/') schemeUrl.toList ++ '/' :: service.toList)

/-- **The target that a backend's `scheme://url` and a service name make.** -/
def ofSchemeUrl (schemeUrl service : String) : Except Refusal Target := parse (joined schemeUrl service)

end Target

end Muster
