/-
  Resolvers rehearsed: a scripted discovery, a scripted client, and time for the refreshing.

  The script sets what discovery knows of each service, and whether the client fails; both answer at once.
  Every resolver that is built gets a slot; the task of one with an interval looks whether it has to go on
  whenever its interval has passed, and when it is closed or dropped.
-/
import Muster.Resolver.Step
import Muster.Rehearsal.Clock

namespace Muster.Rehearsal

/-- A resolver in its slot. -/
structure Resolved where
  settings : Resolver.Settings
  state : Resolver.State

/-- A tick of a task that waits. -/
structure Refresh where
  slot : Nat
  /-- When it is due. -/
  due : Nat
deriving DecidableEq, Repr

/-- **Resolvers with a scripted discovery and client.** -/
structure Resolving where
  /-- The scheme of discovery. -/
  scheme : String
  /-- The interval of refreshing, in milliseconds. -/
  interval : Option Nat
  /-- What discovery knows of each service, the newest first. -/
  known : List (String × List Instance) := []
  /-- What the client answers to addresses. -/
  failing : Option Failure := none
  /-- The resolvers that were built, by slot. -/
  slots : List (Nat × Resolved) := []
  refreshes : List Refresh := []
  nextSlot : Nat := 0
  now : Nat := 0
  /-- What was handed to the clients since the last look, by slot. -/
  pushes : List (Nat × List ResolvedAddress) := []
  /-- The services that discovery was asked for since the last look. -/
  queries : List String := []
  lines : List Logging.Line := []

namespace Resolving

/-- What discovery knows of a service. -/
def instances (w : Resolving) (service : String) : List Instance :=
  (w.known.lookup service).getD []

/-- What the client says to addresses. -/
def client (w : Resolving) (_ : List ResolvedAddress) : Option Failure := w.failing

/-- Takes note of what can be seen of the resolver in a slot. -/
def seen (w : Resolving) (slot : Nat) : Resolver.Event → Resolving
  | .queried _ service => { w with queries := w.queries ++ [service] }
  | .handed _ addresses => { w with pushes := w.pushes ++ [(slot, addresses)] }
  | .line l => { w with lines := w.lines ++ [l] }
  | .returned .. => w

/-- Takes note of all that could be seen of it. -/
def note (w : Resolving) (slot : Nat) (r : Resolved) : Resolving :=
  r.state.journal.reverse.foldl (fun w e => w.seen slot e) w

/-- **Puts a resolver into its slot**, and takes note of what could be seen of it. -/
def put (w : Resolving) (slot : Nat) (r : Resolved) : Resolving :=
  let w := w.note slot r
  { w with
    slots := (slot, { r with state := { r.state with journal := [] } }) :: w.slots.filter (·.1 != slot) }

/-- A caller resolves in one go. -/
def resolved (w : Resolving) (who : Resolver.Caller) (r : Resolved) : Resolved :=
  { r with state := r.settings.inOneGo who (w.instances r.settings.target.service) w.client r.state }

/-- The task of a resolver looks whether it has to go on. -/
def woken (due : Bool) (r : Resolved) : Resolved :=
  { r with state := r.settings.after r.state (.wake due) }

/-- The ticks of a slot, one interval from some moment on, if its task is alive. -/
def ticks (w : Resolving) (slot start : Nat) (r : Resolved) : List Refresh :=
  if r.state.task = .alive then w.interval.toList.map fun i => ⟨slot, start + i⟩ else []

/-- **Builds a resolver** for a target; it gets the next slot. -/
def build (w : Resolving) (t : Target) : Resolving × Except Failure (Nat × String) :=
  let c : Resolver.Settings :=
    { scheme := w.scheme, target := t, interval := w.interval.map fun i => .ofMillis i.toUInt64 }
  let r := woken false (w.resolved .build ⟨c, c.start⟩)
  match (r.state.result? .build).join with
  | some f => (w.note w.nextSlot r, .error f)
  | none =>
    let w' := w.put w.nextSlot r
    ({ w' with
      refreshes := w'.refreshes ++ w.ticks w.nextSlot w.now r
      nextSlot := w.nextSlot + 1 }, .ok (w.nextSlot, t.service))

/-- The resolver in a slot, if it is held. -/
def held? (w : Resolving) (slot : Nat) : Option Resolved :=
  (w.slots.lookup slot).filter (·.state.held)

/-- The resolver in a slot resolves at once. -/
def resolveNow (w : Resolving) (slot : Nat) : Resolving × Option (Option Failure) :=
  match w.held? slot with
  | none => (w, none)
  | some r =>
    let who : Resolver.Caller := .call r.state.nextCall
    let r := w.resolved who { r with state := r.settings.after r.state .call }
    (w.put slot r, r.state.result? who)

/-- The resolver in a slot is closed or dropped, and its task looks whether it has to go on; reports whether
    there is one. -/
def stop (w : Resolving) (slot : Nat) (a : Resolver.Act) : Resolving × Bool :=
  match w.held? slot with
  | none => (w, false)
  | some r =>
    let r := woken false { r with state := r.settings.after r.state a }
    let w := w.put slot r
    ({ w with refreshes := w.refreshes.filter fun t => t.slot != slot || r.state.task == .alive }, true)

/-- The resolver in a slot stops refreshing; reports whether there is one. -/
def close (w : Resolving) (slot : Nat) : Resolving × Bool := w.stop slot .close

/-- The resolver in a slot is dropped; reports whether there was one. -/
def drop (w : Resolving) (slot : Nat) : Resolving × Bool := w.stop slot .drop

/-- A tick is due: the task resolves again. -/
def tick (w : Resolving) (t : Refresh) : Resolving :=
  let w := { w with now := t.due, refreshes := w.refreshes.filter (· != t) }
  match w.slots.lookup t.slot with
  | none => w
  | some r =>
    let r := w.resolved .task (woken true r)
    let w := w.put t.slot r
    { w with refreshes := w.refreshes ++ w.ticks t.slot t.due r }

/-- The tick that is due first, at the latest at a moment. -/
def nextTick (w : Resolving) (limit : Nat) : Option Refresh :=
  (w.refreshes.map (·.due)).min?.bind fun due =>
    if due ≤ limit then w.refreshes.find? (·.due == due) else none

/-- Time passes up to a moment. -/
def pass (fuel limit : Nat) (w : Resolving) : Resolving :=
  match fuel with
  | 0 => w
  | fuel + 1 =>
    match w.nextTick limit with
    | some t => pass fuel limit (w.tick t)
    | none => { w with now := limit }

/-- Some milliseconds pass. -/
def wait (w : Resolving) (ms : Nat) : Resolving := w.pass patience (w.now + ms)

/-- Forgets what has been seen. -/
def look (w : Resolving) : Resolving := { w with pushes := [], queries := [], lines := [] }

end Resolving

end Muster.Rehearsal
