/-
  A scripted health store.

  The instances of a service are what the script says.  For each service there is a queue of results of
  blocking queries: a query takes the first, and waits as long as there is none.
-/
import Muster.Probed.Step
import Muster.Rehearsal.Clock

namespace Muster.Rehearsal

open Probed (Report)

/-- **A scripted health store.** -/
structure HealthStore where
  script : Script := []
  /-- The instances of each service. -/
  instances : List (String × List Report) := []
  /-- The results of blocking queries for each service. -/
  results : List (String × Except Failure (UInt64 × List Report)) := []

namespace HealthStore

/-- The name of a kind of request in scripts. -/
def kind : Probed.Request → String
  | .register _ => "register"
  | .deregister _ => "deregister"
  | .instances .. => "agent"
  | .changes .. => "watch"

/-- A request takes its plan. -/
def receive (d : HealthStore) (r : Probed.Request) : Plan × HealthStore :=
  let p := d.script.take (kind r)
  (p.1, { d with script := p.2 })

/-- Takes the first entry under a name. -/
def takeFirst {α : Type} (name : String) : List (String × α) → Option (α × List (String × α))
  | [] => none
  | (n, a) :: rest =>
    if n = name then some (a, rest)
    else (takeFirst name rest).map fun p => (p.1, (n, a) :: p.2)

/-- **The store acts on a request.** -/
def act (d : HealthStore) (r : Probed.Request) (_ : Plan) :
    Option (Except Failure Probed.Reply × HealthStore) :=
  match r with
  | .register _ | .deregister _ => some (.ok .done, d)
  | .instances name _ => some (.ok (.reports ((d.instances.lookup name).getD [])), d)
  | .changes name .. =>
    (takeFirst name d.results).map fun p =>
      (p.1.map fun x => .indexed x.1 x.2, { d with results := p.2 })

/-- There are no streams. -/
def item (_ : HealthStore) (_ : Nat) :
    Option (Option (Except Failure Probed.Item) × HealthStore) := none

/-- The store as a rehearsal needs it. -/
def store : Store HealthStore Probed.Request Probed.Reply Probed.Item := ⟨receive, act, item⟩

/-- Sets the instances of a service. -/
def setInstances (d : HealthStore) (name : String) (l : List Report) : HealthStore :=
  { d with instances := (name, l) :: d.instances }

/-- Queues a result of a blocking query. -/
def push (d : HealthStore) (name : String) (x : Except Failure (UInt64 × List Report)) :
    HealthStore :=
  { d with results := d.results ++ [(name, x)] }

end HealthStore

/-! ## Rehearsing a probing backend -/

/-- A probing backend with a clock and a store. -/
abbrev HealthWorld := World Probed.Watched Probed.Process Probed.Request HealthStore

namespace HealthWorld

/-- The backend as a machine. -/
def machine (c : Probed.Settings) :
    Machine Probed.Watched Probed.Process Probed.Request Probed.Reply Probed.Item :=
  ⟨Probed.Process.wait c, c.resume⟩

/-- A new backend at a new store. -/
def initial : HealthWorld := { session := Probed.State.initial, store := {} }

variable (c : Probed.Settings)

/-- Makes a call. -/
def call (w : HealthWorld) (k : Probed.Call) : HealthWorld × Option Outcome :=
  World.call (machine c) HealthStore.store w fun s => c.call s k

/-- Changes the store. -/
def onStore (w : HealthWorld) (f : HealthStore → HealthStore) : HealthWorld :=
  World.onStore (machine c) HealthStore.store w f

/-- Time passes. -/
def wait (w : HealthWorld) (ms : Nat) : HealthWorld :=
  World.wait (machine c) HealthStore.store w ms

/-- The backend is dropped: it is closed without waiting for its tasks. -/
def drop (w : HealthWorld) : HealthWorld := World.poke (machine c) HealthStore.store w (·.close)

end HealthWorld

end Muster.Rehearsal
