/-
  A scripted lease store.

  Its contents are what the script says; nothing that is put or revoked changes them.  Leases are
  numbered from 100, one for each grant that succeeds.  A watch opens a stream, which takes the place
  of the one before; the streams of renewals are kept by lease.
-/
import Muster.Leased.Step
import Muster.Rehearsal.Clock

namespace Muster.Rehearsal

open Leased (Request Reply Item Event Snapshot)

/-- A stream: what has been sent and not been read, and whether it is over. -/
structure Stream where
  queue : List (Except Failure Item) := []
  ended : Bool := false

/-- **A scripted lease store.** -/
structure LeaseStore where
  script : Script := []
  contents : Snapshot := ⟨7, []⟩
  nextLease : Int := 100
  streams : List (Nat × Stream) := []
  nextStream : Nat := 0
  /-- The stream of events to which the script writes. -/
  events : Option Nat := none
  /-- The streams of renewals to which the script writes, by lease. -/
  renewals : List (Int × Nat) := []

namespace LeaseStore

/-- The name of a kind of request in scripts. -/
def kind : Request → String
  | .grant _ => "grant"
  | .put .. => "put"
  | .keepAlive .. => "keep_alive"
  | .revoke _ => "revoke"
  | .range _ => "get_prefix"
  | .watch .. => "watch"

/-- A request takes its plan. -/
def receive (d : LeaseStore) (r : Request) : Plan × LeaseStore :=
  let p := d.script.take (kind r)
  (p.1, { d with script := p.2 })

/-- Changes a stream. -/
def onStream (d : LeaseStore) (id : Nat) (f : Stream → Stream) : LeaseStore :=
  { d with streams := d.streams.map fun s => if s.1 = id then (id, f s.2) else s }

/-- Ends a stream: what was sent can still be read. -/
def endStream (d : LeaseStore) (id : Nat) : LeaseStore := d.onStream id ({ · with ended := true })

/-- Sends an item. -/
def send (d : LeaseStore) (id : Nat) (x : Except Failure Item) : LeaseStore :=
  d.onStream id fun s => { s with queue := s.queue ++ [x] }

/-- A new stream. -/
def openStream (d : LeaseStore) (ended : Bool) : LeaseStore :=
  { d with
    streams := d.streams ++ [(d.nextStream, { ended })]
    nextStream := d.nextStream + 1 }

/-- **The store acts on a request.** -/
def act (d : LeaseStore) (r : Request) (plan : Plan) : Option (Except Failure Reply × LeaseStore) :=
  match r with
  | .grant _ => some (.ok (.granted d.nextLease), { d with nextLease := d.nextLease + 1 })
  | .put .. | .revoke _ => some (.ok .done, d)
  | .range lead =>
    some (.ok (.contents { d.contents with
      pairs := d.contents.pairs.filter fun p => Text.startsWith lead p.1 }), d)
  | .watch .. =>
    let d := match d.events with
      | some old => d.endStream old
      | none => d
    some (.ok (.opened d.nextStream), { d.openStream false with events := some d.nextStream })
  | .keepAlive lease _ =>
    if plan.spent then some (.ok (.opened d.nextStream), d.openStream true)
    else
      let d := match d.renewals.lookup lease with
        | some old => d.endStream old
        | none => d
      let rest := d.renewals.filter fun r => r.1 != lease
      some (.ok (.opened d.nextStream),
        { d.openStream false with renewals := (lease, d.nextStream) :: rest })

/-- The next item of a stream. -/
def item (d : LeaseStore) (id : Nat) : Option (Option (Except Failure Item) × LeaseStore) :=
  (d.streams.lookup id).bind fun s =>
    match s.queue with
    | x :: rest => some (some x, d.onStream id ({ · with queue := rest }))
    | [] => if s.ended then some (none, d) else none

/-- The store as a rehearsal needs it. -/
def store : Store LeaseStore Request Reply Item := ⟨receive, act, item⟩

/-! ## What the script does -/

/-- Stops writing to the stream of events; reports whether there was one. -/
def closeEvents (d : LeaseStore) : Bool × LeaseStore :=
  match d.events with
  | some id => (true, { d.endStream id with events := none })
  | none => (false, d)

/-- Stops writing to the stream of a lease's renewals; reports whether there was one. -/
def closeRenewals (d : LeaseStore) (lease : Int) : Bool × LeaseStore :=
  match d.renewals.lookup lease with
  | some id => (true, { d.endStream id with renewals := d.renewals.filter fun r => r.1 != lease })
  | none => (false, d)

end LeaseStore

/-! ## Rehearsing a lease backend -/

/-- A lease backend with a clock and a store. -/
abbrev LeaseWorld := World Leased.Ledger Leased.Process Request LeaseStore

namespace LeaseWorld

/-- The backend as a machine. -/
def machine (c : Leased.Settings) : Machine Leased.Ledger Leased.Process Request Reply Item :=
  ⟨Leased.Process.wait c, c.resume⟩

/-- A new backend at a new store. -/
def initial : LeaseWorld := { session := Leased.State.initial, store := {} }

variable (c : Leased.Settings)

/-- Makes a call. -/
def call (w : LeaseWorld) (k : Leased.Call) : LeaseWorld × Option Outcome :=
  World.call (machine c) LeaseStore.store w fun s => c.call s k

/-- Changes the store. -/
def onStore (w : LeaseWorld) (f : LeaseStore → LeaseStore) : LeaseWorld :=
  World.onStore (machine c) LeaseStore.store w f

/-- Sends an item to a stream, if it is read; reports whether it is. -/
def sendTo (w : LeaseWorld) (stream : Option Nat) (x : Except Failure Item) : Bool × LeaseWorld :=
  match stream with
  | some id => if w.isRead (machine c) id then (true, onStore c w (·.send id x)) else (false, w)
  | none => (false, w)

/-- Events occur in the store. -/
def sendEvents (w : LeaseWorld) (x : Except Failure (List Event)) : Bool × LeaseWorld :=
  sendTo c w w.store.events (x.map .changes)

/-- A lease is renewed, or its renewal fails. -/
def sendRenewal (w : LeaseWorld) (lease : Int) (x : Except Failure Int) : Bool × LeaseWorld :=
  sendTo c w (w.store.renewals.lookup lease) (x.map .renewed)

/-- The stream of events ends. -/
def closeEvents (w : LeaseWorld) : Bool × LeaseWorld :=
  (w.store.closeEvents.1, onStore c w fun d => d.closeEvents.2)

/-- The stream of a lease's renewals ends. -/
def closeRenewals (w : LeaseWorld) (lease : Int) : Bool × LeaseWorld :=
  ((w.store.closeRenewals lease).1, onStore c w fun d => (d.closeRenewals lease).2)

/-- Time passes. -/
def wait (w : LeaseWorld) (ms : Nat) : LeaseWorld :=
  World.wait (machine c) LeaseStore.store w ms

/-- The backend is dropped: it is closed without waiting for its tasks. -/
def drop (w : LeaseWorld) : LeaseWorld := World.poke (machine c) LeaseStore.store w (·.close)

end LeaseWorld

end Muster.Rehearsal
