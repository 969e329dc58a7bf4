/-
  A resolver as a machine: its build, the calls to it, and the task that resolves again.

  Three kinds of callers resolve: the build, which must succeed once; whoever holds the resolver and calls
  it; and, if there is an interval, a task in the background.  Each asks discovery, waits for the answer,
  hands the addresses to the client, and waits for what the client says.

  (1) `Settings.ask`, `Settings.conclude` — how a resolving begins, and what its end means to each caller;
  (2) `Settings.act` — what can happen: an answer of discovery, a word of the client, a call, and the moment
      at which the task looks whether it has to go on;
  (3) `Settings.inOneGo` — a resolving to which discovery and the client answer at once.

  THE CRUX (`wake`): the task looks FIRST whether the resolver is closed, and then whether a tick is due.
  Failures are logged and forgotten, except that a client that is gone ends the task.
-/
import Muster.Resolver.Basic

namespace Muster.Resolver

/-- **What a resolver is built with.** -/
structure Settings where
  /-- The scheme of discovery. -/
  scheme : String
  target : Target
  /-- The interval at which addresses are resolved again. -/
  interval : Option Duration
deriving DecidableEq, Repr

/-- **Who resolves.** -/
inductive Caller where
  | build
  /-- A call, by its number. -/
  | call (number : Nat)
  | task
deriving DecidableEq, Repr

/-- **How far a resolving is.** -/
inductive Stage where
  /-- Discovery has been asked. -/
  | asking
  /-- The client has been handed addresses. -/
  | handing (addresses : List ResolvedAddress)
deriving DecidableEq, Repr

/-- **The task that resolves again.** -/
inductive Task where
  /-- There is none. -/
  | absent
  | alive
  /-- It has ended, or has panicked. -/
  | over
deriving DecidableEq, Repr

/-- **What can be seen of a resolver.** -/
inductive Event where
  /-- Discovery was asked for a service. -/
  | queried (who : Caller) (service : String)
  /-- Addresses were handed to the client. -/
  | handed (who : Caller) (addresses : List ResolvedAddress)
  /-- The build or a call returned. -/
  | returned (who : Caller) (failure : Option Failure)
  | line (l : Logging.Line)
deriving DecidableEq, Repr

/-- **A resolver**, and its build. -/
structure State where
  /-- The resolvings that are under way. -/
  stage : Caller → Option Stage := fun _ => none
  /-- Whether the resolver has been built, and is held by somebody. -/
  held : Bool := false
  /-- Whether it has been closed: its task is cancelled. -/
  closed : Bool := false
  task : Task := .absent
  /-- The number of the next call. -/
  nextCall : Nat := 0
  /-- What could be seen so far, the newest first. -/
  journal : List Event := []

namespace State

/-- Something can be seen. -/
def see (s : State) (e : Event) : State := { s with journal := e :: s.journal }

/-- A resolving is at a stage, or under way no longer. -/
def setStage (s : State) (who : Caller) (st : Option Stage) : State :=
  { s with stage := fun k => if k = who then st else s.stage k }

/-- What the build or a call has returned, if it has. -/
def result? (s : State) (who : Caller) : Option (Option Failure) :=
  s.journal.findSome? fun
    | .returned k f => if k = who then some f else none
    | _ => none

end State

/-- **What can happen to a resolver.** -/
inductive Act where
  /-- Discovery answers a caller. -/
  | answer (who : Caller) (instances : List Instance)
  /-- The client says what it makes of the addresses of a caller. -/
  | reply (who : Caller) (failure : Option Failure)
  /-- The resolver is called. -/
  | call
  /-- The caller no longer waits. -/
  | abandon (who : Caller)
  /-- The task looks whether it has to go on; `due` if a tick is. -/
  | wake (due : Bool)
  /-- The resolver is closed. -/
  | close
  /-- The resolver is dropped. -/
  | drop
deriving DecidableEq, Repr

namespace Settings

variable (c : Settings)

/-- **A resolving begins**: discovery is asked for the service of the target. -/
def ask (who : Caller) (s : State) : State :=
  (s.setStage who (some .asking)).see (.queried who c.target.service)

/-- What the end of a resolving means to the task. -/
def concludeTask (failure : Option Failure) (s : State) : State :=
  match failure with
  | none => s
  | some (.resolverClosed name) =>
    ({ s with task := .over }).see
      (.line ⟨.debug, "client connection closed, stopping refresh", [("service", name)]⟩)
  | some f =>
    s.see (.line ⟨.warn, "periodic resolve failed",
      [("service", c.target.service), ("error", f.message)]⟩)

/-- **A resolving is over.**  The build succeeds or fails with it, a call returns, and the task goes on
    unless the client is gone. -/
def conclude (who : Caller) (failure : Option Failure) (s : State) : State :=
  let s := s.setStage who none
  match who with
  | .task => c.concludeTask failure s
  | .call n => s.see (.returned (.call n) failure)
  | .build =>
    match failure with
    | some f => s.see (.returned .build (some f))
    | none =>
      (({ s with held := true, task := if c.interval.isSome then .alive else .absent } : State).see
        (.line ⟨.info, "resolver built", [("target", c.target.render)]⟩)).see (.returned .build none)

/-- **Discovery has answered.**  Without instances the resolving is over. -/
def answered (who : Caller) (instances : List Instance) (s : State) : State :=
  match state c.target.service instances with
  | .error f => c.conclude who (some f) (s.see (.line (emptyLine c.target.service)))
  | .ok addresses =>
    ((s.see (.line (resolvedLine c.target.service addresses))).see (.handed who addresses)).setStage who
      (some (.handing addresses))

/-- **The task looks whether it has to go on.**  An interval of zero is none that anybody could wait for. -/
def wake (due : Bool) (s : State) : State :=
  if c.interval = some .zero ∨ s.closed = true then { s with task := .over }
  else if due then c.ask .task s
  else s

/-- **The machine**: what an act leads to, if it can happen. -/
def act (s : State) : Act → Option State
  | .answer who l => if s.stage who = some .asking then some (c.answered who l s) else none
  | .reply who f =>
    match s.stage who with
    | some (.handing _) => some (c.conclude who f s)
    | _ => none
  | .call =>
    if s.held then some (c.ask (.call s.nextCall) { s with nextCall := s.nextCall + 1 }) else none
  | .abandon who =>
    if who ≠ .task ∧ (s.stage who).isSome then some (s.setStage who none) else none
  | .wake due => if s.task = .alive ∧ s.stage .task = none then some (c.wake due s) else none
  | .close => if s.held then some { s with closed := true } else none
  | .drop => if s.held then some { s with held := false, closed := true } else none

/-- **The build begins.**  A target with another scheme is refused, and discovery is not asked. -/
def start : State :=
  if c.target.scheme = c.scheme then c.ask .build {}
  else ({} : State).see (.returned .build (some (foreignScheme c.scheme c.target)))

/-- The state after an act, or the same if it cannot happen. -/
def after (s : State) (a : Act) : State := (c.act s a).getD s

/-- **A resolving in one go**: discovery and the client answer at once. -/
def inOneGo (who : Caller) (instances : List Instance) (client : List ResolvedAddress → Option Failure)
    (s : State) : State :=
  let s := c.after s (.answer who instances)
  match s.stage who with
  | some (.handing addresses) => c.after s (.reply who (client addresses))
  | _ => s

end Settings

end Muster.Resolver
