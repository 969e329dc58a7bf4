/-
  The lease store behind remote procedure calls.

  (1) `endpoints` — the endpoints in a configured URL, and why there may be no connection: none is left,
      one asks for encryption, or one cannot be dialled.
  (2) `Rpc` — the messages, and `Rpc.of`, the message of each request.  A lead becomes a range of keys,
      from the lead itself to the first key behind all that start with it.
  (3) `Renewals` and `Changes` — the two streams.  Each is read turn by turn, and what a turn makes of it
      is a `Verdict`; a failure is its last item.
-/
import Muster.Leased.Basic
import Muster.Resolver.Address

namespace Muster.Leased.Remote

/-! ## The connection -/

/-- The endpoints in a URL: the pieces between commas, without blanks, the empty ones left out. -/
def endpoints (url : String) : List String :=
  (Text.pieces ',' url.toList).filterMap fun p => Text.nonBlank? (String.ofList p)

/-- Why there is no connection. -/
inductive Refusal where
  /-- No endpoint is left. -/
  | nowhere
  /-- An endpoint asks for encryption. -/
  | encrypted (endpoint : String)
  /-- An endpoint cannot be dialled. -/
  | undialled (endpoint : String)
deriving DecidableEq, Repr

/-- Why an endpoint cannot be connected to. -/
def refusal? (endpoint : String) : Option Refusal :=
  match Text.dropLead "http://".toList endpoint.toList with
  | some rest => if (Address.url? (String.ofList rest)).isNone then some (.undialled endpoint) else none
  | none =>
    if Text.startsWith "https://" endpoint then some (.encrypted endpoint)
    else if (Address.url? endpoint).isNone then some (.undialled endpoint)
    else none

/-- **Connects to the endpoints in a URL.**  Nothing is sent yet, so only the texts can be wrong; `words` is what
    the client library says of a refusal. -/
def connect (words : Refusal → String) (url : String) : Except Failure (List String) :=
  let es := endpoints url
  match if es.isEmpty then some .nowhere else es.findSome? refusal? with
  | some refusal => .error (.connect "etcd" url (words refusal))
  | none => .ok es

/-! ## Messages -/

/-- The bytes of a text. -/
def bytes (s : String) : List UInt8 := s.toByteArray.data.toList

/-- **The first key behind all that start with a lead**: its last byte that can grow is one larger, and
    what followed is cut off. -/
def rangeEnd (lead : List UInt8) : List UInt8 :=
  match (lead.reverse.dropWhile (· == 0xFF)) with
  | [] => [0]
  | b :: rest => (rest.reverse) ++ [b + 1]

/-- The range of keys for a lead; the empty lead stands for all keys. -/
def range (lead : String) : List UInt8 × List UInt8 :=
  let key := bytes lead
  if key = [] then ([0], [0]) else (key, rangeEnd key)

/-- **The messages to the server.** -/
inductive Rpc where
  | grant (ttl : Int)
  | put (key value : String) (lease : Int)
  | revoke (lease : Int)
  | range (first last : List UInt8)
  | keepAlive (lease : Int)
  | watch (first last : List UInt8) (start : Int)
deriving DecidableEq, Repr

/-- The message of a request. -/
def Rpc.of : Request → Rpc
  | .grant ttl => .grant ttl
  | .put key value lease => .put key value lease
  | .revoke lease => .revoke lease
  | .range lead => .range (Remote.range lead).1 (Remote.range lead).2
  | .keepAlive lease _ => .keepAlive lease
  | .watch lead start => .watch (Remote.range lead).1 (Remote.range lead).2 start

/-! ## Streams -/

/-- What a turn of the server makes of a stream. -/
inductive Verdict (ι : Type) where
  /-- The stream gives an item and goes on. -/
  | item (i : ι)
  /-- The stream gives a failure and is over. -/
  | failure (f : Failure)
  /-- The stream is over. -/
  | ended

namespace Verdict

variable {ι : Type}

/-- What the stream gives; `none` at its end. -/
def item? : Verdict ι → Option (Except Failure ι)
  | item i => some (.ok i)
  | failure f => some (.error f)
  | ended => none

/-- Whether the stream goes on. -/
def goesOn : Verdict ι → Bool
  | item _ => true
  | failure _ | ended => false

end Verdict

/-! ## Renewals -/

/-- What comes of one renewal. -/
inductive RenewalTurn where
  /-- It could not be handed over. -/
  | unsent (f : Failure)
  /-- The server says how many seconds the lease has to live. -/
  | remaining (ttl : Int)
  /-- Receiving failed. -/
  | failed (f : Failure)
  /-- The stream is closed. -/
  | closed

/-- **What a renewal makes of the stream.**  A lease without any time left has expired. -/
def RenewalTurn.verdict (lease : Int) : RenewalTurn → Verdict Int
  | unsent f | failed f => .failure f
  | remaining ttl => if ttl > 0 then .item ttl else .failure (.leaseExpired lease)
  | closed => .ended

/-- The stream of a lease's renewals. -/
structure Renewals where
  /-- The lease for which the stream was opened. -/
  lease : Int
  /-- The lease that the server named when the stream was opened; this one is renewed. -/
  keeper : Int
  /-- How long to wait before every renewal but the first. -/
  pause : Duration
  /-- Whether there was a first renewal. -/
  started : Bool := false
  /-- Whether the stream goes on. -/
  live : Bool := true
deriving DecidableEq, Repr

/-- How long to wait between renewals, three for each time to live, in milliseconds; `none` if the
    product in it does not fit into 64 bits. -/
def renewalMillis? (ttl : Int) : Option Nat :=
  let ms := (max ttl 1).toNat * 1000
  if ms < 18446744073709551616 then some (ms / 3) else none

/-- **Opens the stream of a lease's renewals.** -/
def Renewals.open? (lease keeper ttl : Int) : Option Renewals :=
  (renewalMillis? ttl).map fun ms => { lease, keeper, pause := .ofMillis (UInt64.ofNat ms) }

/-- What asking a stream of renewals for an item leads to. -/
structure Renewed where
  /-- How long was waited, if at all. -/
  waited : Option Duration
  /-- The renewal that is handed over, or tried to be; none once the stream is over. -/
  sent : Option Rpc
  /-- What the stream gives; `none` at its end. -/
  item : Option (Except Failure Int)
  next : Renewals

/-- **One item of the stream**: after a pause a renewal is sent, and the turn is what comes of it. -/
def Renewals.pull (s : Renewals) (t : RenewalTurn) : Renewed :=
  if s.live then
    let v := t.verdict s.lease
    ⟨if s.started then some s.pause else none, some (.keepAlive s.keeper), v.item?,
      { s with started := true, live := v.goesOn }⟩
  else ⟨none, none, none, s⟩

/-- The stream asked once for every turn. -/
def Renewals.pulls (s : Renewals) : List RenewalTurn → List Renewed
  | [] => []
  | t :: ts => s.pull t :: (s.pull t).next.pulls ts

/-! ## Changes -/

/-- A change as the server reports it; one without a pair says nothing. -/
structure WireEvent where
  deleted : Bool
  pair : Option (ByteArray × ByteArray)

/-- A change as the store hands it on. -/
structure KeyEvent where
  deleted : Bool
  key : String
  value : ByteArray

/-- The change that the server reports, if it reports one. -/
def WireEvent.event? (e : WireEvent) : Option KeyEvent :=
  e.pair.map fun p => ⟨e.deleted, Utf8.lossy p.1, p.2⟩

/-- What the server sends on a watch. -/
structure WatchResponse where
  events : List WireEvent
  /-- Whether the server gives the watch up. -/
  canceled : Bool
  /-- Why it does. -/
  reason : String

/-- What reading a watch leads to. -/
inductive WatchTurn where
  | response (r : WatchResponse)
  /-- Receiving failed. -/
  | failed (f : Failure)
  /-- The stream is closed. -/
  | closed

/-- **What reading makes of the stream.**  Of a response that gives the watch up nothing else counts. -/
def WatchTurn.verdict (lead : String) : WatchTurn → Verdict (List KeyEvent)
  | response r =>
    if r.canceled then .failure (.watchCanceled lead r.reason)
    else .item (r.events.filterMap WireEvent.event?)
  | failed f => .failure f
  | closed => .ended

/-- The stream of changes under a lead. -/
structure Changes where
  lead : String
  /-- Whether the stream goes on. -/
  live : Bool := true
deriving DecidableEq, Repr

/-- **One item of the stream**; `none` at its end. -/
def Changes.pull (s : Changes) (t : WatchTurn) : Option (Except Failure (List KeyEvent)) × Changes :=
  if s.live then
    let v := t.verdict s.lead
    (v.item?, { s with live := v.goesOn })
  else (none, s)

/-- The stream asked once for every turn. -/
def Changes.pulls (s : Changes) : List WatchTurn → List (Option (Except Failure (List KeyEvent)))
  | [] => []
  | t :: ts => (s.pull t).1 :: (s.pull t).2.pulls ts

/-! ## Requests across a network -/

/-- What the server answers to a message that opens no stream, and to the opening of one. -/
inductive RpcReply where
  | granted (lease : Int)
  | done
  /-- The pairs in a range; the revision may be missing. -/
  | pairs (revision : Option Int) (l : List (ByteArray × ByteArray))

/-- **A network**: what it makes of a message. -/
abbrev Network := Rpc → Except String RpcReply

/-- The network in which nothing can be reached. -/
def Network.down : Network := fun _ => .error "transport error"

/-- A server's answer as the backend takes it. -/
def RpcReply.reply : RpcReply → Reply
  | granted lease => .granted lease
  | done => .done
  | pairs revision l =>
    .contents ⟨revision.getD 0, l.map fun p => (Utf8.lossy p.1, p.2)⟩

/-- **A request across a network.**  What opens a stream gets one whose number is 0. -/
def perform (net : Network) (r : Request) : Except Failure Reply :=
  match net (.of r) with
  | .error reason => .error (.leaseClient reason)
  | .ok a =>
    match r with
    | .keepAlive .. | .watch .. => .ok (.opened 0)
    | _ => .ok a.reply

end Muster.Leased.Remote
