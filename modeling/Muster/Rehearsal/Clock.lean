/-
  Rehearsals: a backend run against a scripted store, in time that only passes when nothing can happen.

  A backend is a machine without a clock: it says what its processes wait for, and takes signals.  Here
  it gets a clock, counted in milliseconds, and a store that follows a script.

  (1) `Plan` — how the store treats one request: when it acts, if ever, and whether it fails.
  (2) `World` — the backend, the store, the time, and what each process waits for.
  (3) `settle` — everything that can happen now, happens: a running process goes on as long as it can,
      then the call in the foreground has its turn, then the others in the order in which they began to
      wait.
  (4) `pass` and `await` — time moves to the next moment at which something is due.

  An answer of the store that comes at the very moment at which a limit passes is still in time.
-/
import Muster.Session

namespace Muster.Rehearsal

/-- **How a store treats a request.** -/
structure Plan where
  /-- After how many milliseconds it acts; never if `none`. -/
  delay : Option Nat := some 0
  /-- The failure that it answers with. -/
  failure : Option Failure := none
  /-- Whether a stream that it opens is over at once. -/
  spent : Bool := false
deriving DecidableEq, Repr, Inhabited

/-- A queue of plans for each kind of request. -/
abbrev Script := List (String × List Plan)

/-- Adds plans to the queue of a kind. -/
def Script.add (s : Script) (kind : String) (plans : List Plan) : Script :=
  match s with
  | [] => [(kind, plans)]
  | (k, ps) :: rest => if k = kind then (k, ps ++ plans) :: rest else (k, ps) :: Script.add rest kind plans

/-- Takes the next plan of a kind; an empty queue plans nothing special. -/
def Script.take (s : Script) (kind : String) : Plan × Script :=
  match s with
  | [] => ({}, [])
  | (k, ps) :: rest =>
    if k = kind then
      match ps with
      | [] => ({}, (k, []) :: rest)
      | p :: ps => (p, (k, ps) :: rest)
    else
      let r := Script.take rest kind
      (r.1, (k, ps) :: r.2)

/-- A backend, without a clock. -/
structure Machine (ξ π κ ρ ι : Type) where
  wait : π → Wait
  resume : Session ξ π κ → Nat → Signal ρ ι → Option (Session ξ π κ)

/-- **A scripted store.**  `δ` is what it remembers. -/
structure Store (δ κ ρ ι : Type) where
  /-- A request arrives, and takes its plan. -/
  receive : δ → κ → Plan × δ
  /-- The store acts on a request, if it can already. -/
  act : δ → κ → Plan → Option (Except Failure ρ × δ)
  /-- The next item of a stream, if there is one; `none` inside says that the stream is over. -/
  item : δ → Nat → Option (Option (Except Failure ι) × δ)

/-- What a process has been waiting for. -/
structure Pending (κ : Type) where
  /-- The process. -/
  id : Nat
  /-- When its wait ends by itself. -/
  deadline : Option Nat
  /-- Its request, with the plan, and the moment at which the store acts. -/
  request : Option (κ × Plan × Option Nat)

/-- **A backend with a clock and a store.** -/
structure World (ξ π κ δ : Type) where
  session : Session ξ π κ
  store : δ
  /-- Milliseconds since the beginning. -/
  now : Nat := 0
  /-- What the processes wait for, in the order in which they began to. -/
  pending : List (Pending κ) := []
  /-- The process that is running. -/
  current : Option Nat := none
  /-- The call in the foreground. -/
  foreground : Option Nat := none
  /-- What has been seen since the last look, the newest first. -/
  seen : List (Entry κ) := []

/-- A duration in milliseconds, rounded up. -/
def millis (d : Duration) : Nat := (d.toNanos + 999999) / 1000000

/-- How many steps are allowed between two looks. -/
def patience : Nat := 100000000

/-- How long a call may take, in milliseconds. -/
def callLimit : Nat := 3600000

section

variable {ξ π κ ρ ι δ : Type} (m : Machine ξ π κ ρ ι) (st : Store δ κ ρ ι)

/-! ## Bookkeeping -/

/-- The store receives the requests among some entries. -/
def receiveAll (store : δ) : List (Entry κ) → δ × List (Nat × κ × Plan)
  | [] => (store, [])
  | .request id r :: es =>
    let p := st.receive store r
    let q := receiveAll p.2 es
    (q.1, (id, r, p.1) :: q.2)
  | _ :: es => receiveAll store es

/-- What a process begins to wait for. -/
def World.startWaiting (now : Nat) (asked : List (Nat × κ × Plan)) (id : Nat) (p : π) : Pending κ where
  id := id
  deadline := match m.wait p with
    | .reply limit _ => limit.map fun d => now + millis d
    | .pause d => some (now + millis d)
    | _ => none
  request := (asked.lookup id).map fun a => (a.1, a.2, a.2.delay.map (now + ·))

/-- **The process with a number ran**, and left the backend as `s`. -/
def World.ran (w : World ξ π κ δ) (id : Nat) (s : Session ξ π κ) : World ξ π κ δ :=
  let q := receiveAll st w.store s.journal.reverse
  let waiting (k : Nat) := k != id && w.pending.any fun p => p.id == k
  let kept := w.pending.filter fun p => p.id != id && s.processes.any fun q => q.1 == p.id
  let fresh := s.processes.filter fun p => !waiting p.1
  { w with
    session := { s with journal := [] }
    store := q.1
    pending := kept ++ fresh.map fun p => World.startWaiting m w.now q.2 p.1 p.2
    current := some id
    seen := s.journal ++ w.seen }

/-! ## What can happen now -/

/-- Whether a moment has come. -/
def World.passed (w : World ξ π κ δ) : Option Nat → Bool
  | some t => t ≤ w.now
  | none => false

/-- The answer of the store to a request, if it has come. -/
def World.answer (w : World ξ π κ δ) (p : Pending κ) : List (Signal ρ ι × δ) :=
  match p.request with
  | none => []
  | some (r, plan, due) =>
    if w.passed due then
      match plan.failure with
      | some f => [(.reply (.error f), w.store)]
      | none => (st.act w.store r plan).toList.map fun a => (.reply a.1, a.2)
    else []

/-- The signals that could end a wait now, each with the store as it is then. -/
def World.signals (w : World ξ π κ δ) (p : Pending κ) : Wait → List (Signal ρ ι × δ)
  | .turn => [(.turn, w.store)]
  | .tasks => [(.tasksDone, w.store)]
  | .pause _ => (.cancelled, w.store) :: if w.passed p.deadline then [(.elapsed, w.store)] else []
  | .item stream =>
    (.cancelled, w.store) :: (st.item w.store stream).toList.map fun a => (.item a.1, a.2)
  | .reply _ released =>
    (if released then [(.cancelled, w.store)] else []) ++ w.answer st p ++
      if w.passed p.deadline then [(.timeout, w.store)] else []

/-- One process runs, if it can. -/
def World.run (w : World ξ π κ δ) (p : Pending κ) : Option (World ξ π κ δ) :=
  (w.session.process? p.id).bind fun q =>
    (w.signals st p (m.wait q)).findSome? fun a =>
      (m.resume w.session p.id a.1).map fun s => { w with store := a.2 }.ran m st p.id s

/-- **The next thing that happens now**, if anything can. -/
def World.next (w : World ξ π κ δ) : Option (World ξ π κ δ) :=
  let one (k : Option Nat) := w.pending.filter fun p => some p.id == k
  (one w.current ++ one w.foreground ++ w.pending).findSome? (w.run m st)

/-- Everything that can happen now, happens. -/
def World.settle (fuel : Nat) (w : World ξ π κ δ) : World ξ π κ δ :=
  match fuel with
  | 0 => w
  | fuel + 1 =>
    match w.next m st with
    | some w => World.settle fuel w
    | none => { w with current := none }

/-! ## Time -/

/-- The next moment at which something is due. -/
def World.nextMoment (w : World ξ π κ δ) : Option Nat :=
  ((w.pending.flatMap fun p =>
    p.deadline.toList ++ (p.request.bind fun r => r.2.2).toList).filter (w.now < ·)).min?

/-- **Time passes** up to a moment; whatever is due on the way happens in order. -/
def World.pass (fuel moment : Nat) (w : World ξ π κ δ) : World ξ π κ δ :=
  match fuel with
  | 0 => w
  | fuel + 1 =>
    let w := w.settle m st patience
    match w.nextMoment.filter (· ≤ moment) with
    | some t => World.pass fuel moment { w with now := t }
    | none => { w with now := max w.now moment }.settle m st patience

/-- What a call has returned. -/
def outcome? (id : Nat) (seen : List (Entry κ)) : Option Outcome :=
  seen.findSome? fun
    | .returned k o => if k = id then some o else none
    | _ => none

/-- Waits for a call to return, but not beyond a moment. -/
def World.await (fuel : Nat) (id limit : Nat) (w : World ξ π κ δ) : World ξ π κ δ × Option Outcome :=
  match fuel with
  | 0 => (w, none)
  | fuel + 1 =>
    let w := w.settle m st patience
    match outcome? id w.seen with
    | some o => (w, some o)
    | none =>
      match w.nextMoment.filter (· ≤ limit) with
      | some t => World.await fuel id limit { w with now := t }
      | none =>
        (World.ran m st { w with now := limit } id (w.session.finish id)
          |>.settle m st patience, none)

/-! ## What is done from outside -/

/-- Something changes the backend from outside. -/
def World.poke (w : World ξ π κ δ) (f : Session ξ π κ → Session ξ π κ) : World ξ π κ δ :=
  (w.ran m st w.session.nextId (f w.session)).settle m st patience

/-- The script or the streams of the store change. -/
def World.onStore (w : World ξ π κ δ) (f : δ → δ) : World ξ π κ δ :=
  { w with store := f w.store }.settle m st patience

/-- **A call is made and awaited**; one that takes too long is given up. -/
def World.call (w : World ξ π κ δ) (f : Session ξ π κ → Session ξ π κ) :
    World ξ π κ δ × Option Outcome :=
  let id := w.session.nextId
  World.await m st patience id (w.now + callLimit)
    { w.ran m st id (f w.session) with foreground := some id }

/-- Some milliseconds pass. -/
def World.wait (w : World ξ π κ δ) (ms : Nat) : World ξ π κ δ := w.pass m st patience (w.now + ms)

/-- Whether a process reads a stream. -/
def World.isRead (w : World ξ π κ δ) (stream : Nat) : Bool :=
  w.session.processes.any fun p => m.wait p.2 == .item stream

/-- The requests and lines since the last look, the oldest first; the look clears them. -/
def World.look (w : World ξ π κ δ) : List κ × List Logging.Line × World ξ π κ δ :=
  let es := w.seen.reverse
  (es.filterMap fun | .request _ r => some r | _ => none,
    es.filterMap fun | .line l => some l | _ => none,
    { w with seen := [] })

end

end Muster.Rehearsal
