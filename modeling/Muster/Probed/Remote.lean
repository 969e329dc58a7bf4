/-
  The health store behind HTTP.

  (1) `message?` — each request of the backend as an HTTP request.  A namespace that is not empty goes
      along as `ns`.
  (2) `reply` — each response read back.  The two ways to ask for instances answer with differently
      shaped bodies.
  (3) `perform` — both together, across a network.

  The client waits for a blocking query half a minute longer than the registry does, and a wait so long
  that this sum is no duration cannot be sent at all: `message?` gives `none`.
-/
import Muster.Endpoint
import Muster.Http.Message
import Muster.Json.Reader
import Muster.Probed.Basic

namespace Muster.Probed.Remote

open Datum (Format)

/-! ## Requests -/

/-- How much longer the client waits than the registry. -/
def grace : Duration := .ofSecs 30

/-- The part of a query that names the namespace. -/
def scopeQuery (scope : String) : List (String × String) :=
  if scope = "" then [] else [("ns", scope)]

/-- **A request as it is sent**, `none` if its limit is no duration. -/
def message? (base : String) : Request → Option Http.Request
  | .register r =>
    some { method := .put, url := base ++ "/v1/agent/service/register", body := some r.toJson }
  | .deregister id => some { method := .put, url := base ++ "/v1/agent/service/deregister/" ++ id }
  | .instances name scope =>
    some
      { method := .get
        url := base ++ "/v1/agent/health/service/name/" ++ name
        query := scopeQuery scope }
  | .changes name scope index wait =>
    (wait.add? grace).map fun limit =>
      { method := .get
        url := base ++ "/v1/health/service/" ++ name
        query := scopeQuery scope ++
          [("index", Decimal.ofInt index.toNat), ("wait", Decimal.ofInt wait.secs ++ "s")]
        limit := some limit }

/-! ## Bodies -/

/-- What a body says of a service. -/
structure Body where
  service : String := ""
  address : String := ""
  port : UInt16 := 0

/-- The instance in a body: a missing name is the one that was asked for, a missing address that of the
    node. -/
def Body.toInstance (b : Body) (asked node : String) : Instance where
  name := if b.service = "" then asked else b.service
  address := if b.address = "" then node else b.address
  port := b.port

/-- Reads a list, item by item. -/
def readList {α : Type} (read : Datum → Option α) : Datum → Option (List α)
  | .list items => items.mapM read
  | _ => none

/-- Reads a service. -/
def Body.read (d : Datum) : Option Body := do
  let r ← d.record? .json ["Service", "Address", "Port"]
  let service ← r.withDefault "Service" Datum.text? ""
  let address ← r.withDefault "Address" Datum.text? ""
  let port ← r.withDefault "Port" Datum.uint16? 0
  return { service, address, port }

/-- Reads the address of a node. -/
def readNode (d : Datum) : Option String := do
  let r ← d.record? .json ["Address"]
  r.withDefault "Address" Datum.text? ""

/-- Reads a check. -/
def readCheck (d : Datum) : Option Check := do
  let r ← d.record? .json ["CheckID", "Status"]
  let id ← r.withDefault "CheckID" Datum.text? ""
  let status ← r.withDefault "Status" Datum.text? ""
  return ⟨id, status⟩

/-- Reads an instance as the agent reports it: the status is given, the node is not. -/
def readAgentEntry (asked : String) (d : Datum) : Option Report := do
  let r ← d.record? .json ["AggregatedStatus", "Service"]
  let status ← r.withDefault "AggregatedStatus" Datum.text? ""
  let service ← r.required "Service" Body.read
  return ⟨service.toInstance asked "", .parse status⟩

/-- Reads an instance as a blocking query reports it: with its node, and with its checks. -/
def readHealthEntry (asked : String) (d : Datum) : Option Report := do
  let r ← d.record? .json ["Node", "Service", "Checks"]
  let node ← r.withDefault "Node" readNode ""
  let service ← r.required "Service" Body.read
  let checks ← r.withDefault "Checks" (readList readCheck) []
  return ⟨service.toInstance asked node, .aggregate checks⟩

/-- Reads a body that is a list. -/
def readBody (entry : Datum → Option Report) (b : ByteArray) : Except Failure (List Report) :=
  match (Json.parseBytes b).bind fun v => readList entry (.ofJson v) with
  | some l => .ok l
  | none => .error (.http "error decoding response body")

/-! ## Responses -/

/-- The header that carries an index. -/
def indexHeader : String := "X-Consul-Index"

/-- The index that a response carries. -/
def index? (r : Http.Response) : Option UInt64 :=
  (r.header? indexHeader).bind fun b =>
    (Utf8.text? b).bind fun s =>
      (Decimal.read 18446744073709551615
        (Text.trim (fun c => c == ' ' || c == '\t') s.toList)).map UInt64.ofNat

/-- **A response, read as the answer to a request.** -/
def reply (q : Request) (r : Http.Response) : Except Failure Reply :=
  match q with
  | .register _ | .deregister _ =>
    if Http.isFailure r.status then .error (.http (Http.statusText r.status)) else .ok .done
  | .instances name _ =>
    if r.status = 404 then .ok (.reports [])
    else if r.status = 200 ∨ r.status = 429 ∨ r.status = 503 then
      (readBody (readAgentEntry name) r.body).map .reports
    else
      .error (.store ("agent health query for " ++ name ++ " returned " ++ Http.statusText r.status))
  | .changes name .. =>
    if Http.isFailure r.status then .error (.http (Http.statusText r.status))
    else
      match index? r with
      | none => .error (.decode indexHeader "missing or malformed header")
      | some index => (readBody (readHealthEntry name) r.body).map (.indexed index)

/-- **A request across a network**; `none` if it cannot even be sent. -/
def perform (net : Http.Network) (base : String) (q : Request) : Option (Except Failure Reply) :=
  (message? base q).map fun m =>
    match net m with
    | .ok r => reply q r
    | .error reason => .error (.http reason)

/-- The base of all URLs, for a configured URL. -/
def base (url : String) : String := Endpoint.withHttpScheme url

end Muster.Probed.Remote
