/-
  The configuration of a process.

  (1) `Config` — the application, discovery, logging.  Only the application must be configured, and of
      it only the name and the port.
  (2) `Config.validate` — three rules, in this order: the name is not blank; the name holds no slash,
      because it is a segment of a registration key; a lease lives longer than no time.
  (3) `Config.parse` and `Config.load` — a configuration out of a TOML text, or out of a file.
  (4) `Application.registrant` — what the process announces: its configured address without blanks
      around it, or else the address at which its host is found.
-/
import Muster.Config.Discovery
import Muster.Toml.Reader
import Muster.Failure
import Muster.Text.Utf8

namespace Muster

namespace Config

/-- The application itself. -/
structure Application where
  name : String
  port : UInt16
  appType : AppType := .grpc
  address : Option String := none
deriving DecidableEq, Repr, Inhabited

/-- Logging. -/
structure Logging where
  level : String := "info"
  json : Bool := false
deriving DecidableEq, Repr, Inhabited

end Config

/-- **The configuration of a process.** -/
structure Config where
  application : Config.Application
  discovery : Config.Discovery := {}
  logging : Config.Logging := {}
deriving DecidableEq, Repr, Inhabited

namespace Config

open Datum

/-! ## Reading -/

/-- A kind of application, by its configured name. -/
def readAppType (f : Format) (d : Datum) : Option AppType := (d.choice? f).bind AppType.ofKey?

/-- An application record. -/
def Application.read (f : Format) (d : Datum) : Option Application := do
  let r ← d.record? f ["name", "port", "app_type", "address"]
  let name ← r.required "name" text?
  let port ← r.required "port" uint16?
  let appType ← r.withDefault "app_type" (readAppType f) .grpc
  let address ← optionalField text? r "address"
  return { name, port, appType, address }

/-- A logging record. -/
def Logging.read (f : Format) (d : Datum) : Option Logging := do
  let r ← d.record? f ["level", "json"]
  let base : Logging := {}
  let level ← r.withDefault "level" text? base.level
  let json ← r.withDefault "json" bool? base.json
  return { level, json }

/-- The configuration in a datum. -/
def read (f : Format) (d : Datum) : Option Config := do
  let r ← d.record? f ["application", "discovery", "logging"]
  let application ← r.required "application" (Application.read f)
  let discovery ← r.withDefault "discovery" (Discovery.read f) {}
  let logging ← r.withDefault "logging" (Logging.read f) {}
  return { application, discovery, logging }

/-! ## Validation -/

/-- Why a configuration is refused. -/
inductive Refusal where
  /-- The file could not be read. -/
  | unreadable (path reason : String)
  /-- The text is no TOML, or a field has a wrong type. -/
  | malformed
  /-- The application's name is blank. -/
  | blankName
  /-- The application's name holds a slash. -/
  | slashInName (name : String)
  /-- A lease would not live. -/
  | ttlNotPositive
deriving DecidableEq, Repr

/-- The wording of a refusal; `words` is what the reader of the format says of a text that it cannot read. -/
def Refusal.reason (words : String) : Refusal → String
  | unreadable path reason => "failed to read " ++ path ++ ": " ++ reason
  | malformed => words
  | blankName => "application.name must not be empty"
  | slashInName name => "application.name " ++ name ++ " must not contain '/'"
  | ttlNotPositive => "discovery.lease.ttl_secs must be positive"

/-- A refusal as a failure. -/
def Refusal.failure (words : String) (r : Refusal) : Failure := .config (r.reason words)

/-- **The rules beyond types.** -/
def validate (c : Config) : Except Refusal Unit :=
  if (Text.nonBlank? c.application.name).isNone then .error .blankName
  else if '/' ∈ c.application.name.toList then .error (.slashInName c.application.name)
  else if c.discovery.lease.ttlSecs ≤ 0 then .error .ttlNotPositive
  else .ok ()

/-- **A configuration out of a TOML text.** -/
def parse (s : String) : Except Refusal Config :=
  match (Toml.parse s).bind (read .toml) with
  | none => .error .malformed
  | some c =>
    match c.validate with
    | .ok () => .ok c
    | .error r => .error r

/-! ## Files -/

/-- What is found under a path. -/
inductive FileContents where
  | missing
  | directory
  | bytes (b : ByteArray)

/-- **A configuration out of a file**, which must hold UTF-8. -/
def load (path : String) : FileContents → Except Refusal Config
  | .missing => .error (.unreadable path "No such file or directory (os error 2)")
  | .directory => .error (.unreadable path "Is a directory (os error 21)")
  | .bytes b =>
    match Utf8.text? b with
    | none => .error (.unreadable path "stream did not contain valid UTF-8")
    | some s => parse s

/-! ## What the process announces -/

/-- The configured address without blanks around it, unless nothing is left. -/
def Application.publicAddress (a : Application) : Option String := a.address.bind Text.nonBlank?

/-- **What the process announces**, given the address of its host. -/
def Application.registrant (a : Application) (host : String) : Registrant where
  name := a.name
  address := a.publicAddress.getD host
  port := a.port
  appType := a.appType

end Config

end Muster
