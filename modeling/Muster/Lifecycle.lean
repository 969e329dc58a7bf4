/-
  The lifecycle of a backend, and the health that is reported for it.

  Four flags are raised and lowered independently, by calls and by background tasks; what is shown is
  the FIRST of them, in the order degraded, watching, registered, connected, that is raised.  A
  degraded backend therefore shows as degraded whatever else it does.
-/

namespace Muster

/-- The states that a backend shows. -/
inductive Lifecycle where
  | uninitialized | connected | registered | watching | degraded
deriving DecidableEq, Repr, Inhabited

namespace Lifecycle

/-- The name of a state. -/
def text : Lifecycle → String
  | uninitialized => "uninitialized"
  | connected => "connected"
  | registered => "registered"
  | watching => "watching"
  | degraded => "degraded"

/-- Every state. -/
def all : List Lifecycle := [uninitialized, connected, registered, watching, degraded]

/-- The state with a name. -/
def ofText? (s : String) : Option Lifecycle := all.find? fun l => l.text == s

end Lifecycle

/-- **The flags of a backend.** -/
structure Flags where
  connected : Bool := false
  registered : Bool := false
  watching : Bool := false
  degraded : Bool := false
deriving DecidableEq, Repr, Inhabited

/-- **The state that the flags show.** -/
def Flags.state (f : Flags) : Lifecycle :=
  if f.degraded then .degraded
  else if f.watching then .watching
  else if f.registered then .registered
  else if f.connected then .connected
  else .uninitialized

/-- A backend shows as degraded exactly when that flag is raised. -/
theorem Flags.state_eq_degraded_iff (f : Flags) : f.state = .degraded ↔ f.degraded = true := by
  unfold state
  repeat' split
  all_goals simp_all

/-! ## Health -/

/-- The health of a process as its probes see it. -/
inductive Health where
  | unknown | serving | notServing
deriving DecidableEq, Repr, Inhabited

namespace Health

/-- The name of a health. -/
def text : Health → String
  | unknown => "unknown"
  | serving => "serving"
  | notServing => "not_serving"

/-- **The health that goes with a state.** -/
def ofState : Lifecycle → Health
  | .uninitialized => unknown
  | .connected | .registered | .watching => serving
  | .degraded => notServing

/-- Whether the process serves. -/
def isServing (h : Health) : Bool := h == serving

end Health

/-- What a health check reports. -/
structure HealthReport where
  /-- The scheme of the backend. -/
  backend : String
  /-- The URL of the backend. -/
  url : String
  state : Lifecycle
  status : Health
deriving DecidableEq, Repr

/-- **The report for a backend in a state.** -/
def HealthReport.ofState (backend url : String) (s : Lifecycle) : HealthReport :=
  ⟨backend, url, s, Health.ofState s⟩

end Muster
