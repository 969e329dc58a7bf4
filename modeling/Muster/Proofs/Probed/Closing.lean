/-
  A store that does not answer cannot keep a probing backend from shutting down.

  The watch of a service asks and waits without a limit, since that is what a blocking query is for; but it
  listens for the closing of the backend at the same time.  Its other request, the load of a service that it
  sees for the first time, has a limit, and after a failure it waits for a while, listening again.

  (1) `Turn.eases` — a process of a closed backend that has its turn has less before it;
  (2) `guarded_of_closed` — every task notices the closing, or has a limit;
  (3) `unblocked` — hence every shutdown comes to its end.
-/
import Muster.Proofs.Inevitable
import Muster.Proofs.Probed.Edits

namespace Muster.Probed

/-! ## Shutdowns -/

/-- **A probing backend that is being shut down.** -/
abbrev ShutDown (c : Settings) := Muster.ShutDown c.act State.initial .closing

/-- Every task notices that the backend is closed, or waits for a request with the limit. -/
def Settings.Guarded (c : Settings) (s : State) : Prop :=
  Session.Guarded c.resume (Process.wait c) Process.isTask c.requestTimeout s

/-- The call with a number returns whatever the store does. -/
def Settings.ReturnsUnaided (c : Settings) (id : Nat) (s : State) : Prop :=
  Session.ReturnsUnaided c.resume (Process.wait c) id s

/-! ## What processes have before them -/

/-- **What a process of a closed backend has before it**: a watch that has not begun or that loads will ask
    once more. -/
def Process.weight : Process → Nat
  | .watch _ .fresh | .watch _ (.loading ..) => 2
  | _ => 1

theorem Process.weight_pos (p : Process) : 0 < p.weight := by
  unfold weight
  split <;> decide

variable {c : Settings} {s t : State} {id : Nat}

/-- **Whoever has its turn in a closed backend has less before it afterwards**, and starts nothing. -/
theorem Turn.eases {p : Process} {sig : Signal Reply Item} (h : Turn c s id p sig t)
    (hs : s.closed = true) (hid : s.process? id = some p)
    (hsig : (p.wait c).isReleased = true → sig = .cancelled) :
    (t.process? id).elim 0 Process.weight + (t.nextId - s.nextId) < p.weight := by
  have ends {u : State} (hp : u.process? id = none) (hu : u.nextId = s.nextId) :
      (u.process? id).elim 0 Process.weight + (u.nextId - s.nextId) < p.weight := by
    rw [hp, hu, Nat.sub_self]
    exact p.weight_pos
  -- whoever asks once more has only that before it
  have asks {u : State} {service : String} {index : UInt64} {failures : Nat} (hu : u.Alike s)
      (hp : 1 < p.weight) :
      ((c.query u id service index failures).process? id).elim 0 Process.weight +
        ((c.query u id service index failures).nextId - s.nextId) < p.weight := by
    have hlive := (hu.process? id).trans hid
    simpa [Settings.query, Session.process?_become, hlive, hu.nextId, Process.weight] using hp
  cases h with
  | registers | registerFails | deregisters | deregisterFails | findFails | closes | stops =>
    exact ends (by simp [Session.process?_finish]) (by simp)
  | @finds service l o =>
    have hu := merge_alike service l s
    exact ends (by simp [Session.process?_finish]) (by simp [hu.nextId, hu.closed, hs])
  | begins l => exact asks ⟨rfl, rfl, fun _ => rfl, rfl, rfl, rfl⟩ (by simp [Process.weight])
  | loads loaded =>
    exact asks ((apply_alike ..).trans (merge_alike _ loaded s)) (by simp [Process.weight])
  | loadFails f line =>
    exact asks ((apply_alike ..).trans ⟨rfl, rfl, fun _ => rfl, rfl, rfl, rfl⟩)
      (by simp [Process.weight])
  | repeats | changes | sights | backsOff | givesUp | retries => cases hsig rfl

/-! ## Every task is guarded -/

/-- A signal reaches the process with its number. -/
theorem resume_of_process? {k : Nat} {p : Process} (hp : s.process? k = some p)
    (sig : Signal Reply Item) : c.resume s k sig = c.advance s k sig p := by
  rw [Settings.resume, hp]; rfl

/-- **Every task of a closed backend is guarded.** -/
theorem guarded_of_closed (hs : s.closed = true) : c.Guarded s := by
  intro k p hp htask
  cases p with
  | watch service w =>
    cases w with
    | fresh =>
      exact .inr (.inr ⟨rfl, by
        simp [resume_of_process? hp, Settings.advance, Settings.stepWatch]⟩)
    | querying index failures =>
      exact .inl ⟨rfl, by simp [resume_of_process? hp, Settings.advance, Settings.stepWatch, hs]⟩
    | backingOff index failures =>
      exact .inl ⟨rfl, by simp [resume_of_process? hp, Settings.advance, Settings.stepWatch, hs]⟩
    | loading index l =>
      exact .inr (.inl ⟨rfl, by
        simp [resume_of_process? hp, Settings.advance, Settings.stepWatch, Signal.result?]⟩)
  | _ => cases htask

/-! ## Every shutdown returns -/

/-- **A backend that is being shut down.** -/
structure State.Winding (id : Nat) (s : State) : Prop where
  upright : s.Upright .closing
  waits : s.process? id = some .closing

theorem State.Winding.closed (h : s.Winding id) : s.closed = true := h.upright.shut id h.waits

/-- **Every act brings it nearer to its end.** -/
theorem State.Winding.lighter {k : Nat} {sig : Signal Reply Item} (h : s.Winding id)
    (hserved : Session.Served (Process.wait c) s (k, sig)) (hact : c.resume s k sig = some t) :
    (id, .status (.ok ())) ∈ t.returns ∨
      t.Winding id ∧ t.burden Process.weight < s.burden Process.weight := by
  have ho := h.upright.orderly
  obtain ⟨hspares, hupright⟩ := upright_act (a := .signal k sig) hact h.upright
  obtain ⟨p, hp, hturn⟩ := Settings.turn hact
  by_cases hk : id = k
  · subst hk
    obtain rfl := Option.some.inj (h.waits.symm.trans hp)
    cases hturn with
    | closes => exact .inl (List.mem_cons_self ..)
  · have hwaits := (hspares.process? id (ho.lt_nextId h.waits) hk).trans h.waits
    refine .inr ⟨⟨hupright, hwaits⟩, ?_⟩
    refine (hturn.edits (ho.lt_nextId hp)).burden_lt ho hp (fun q hq => ?_)
      (hturn.eases h.closed hp (hserved p hp))
    exact absurd hq.1 (by simp [h.closed])

/-- **A shutdown returns** whatever the store does. -/
theorem State.Winding.returns (h : s.Winding id) : c.ReturnsUnaided id s := by
  refine Inevitably.of_burden (State.Winding id) (Session.burden Process.weight) (fun u hu => ?_)
    (fun u a v hu hserved hact => hu.lighter hserved hact) h
  refine (guarded_of_closed hu.closed).free hu.upright.orderly hu.waits rfl fun hno => ?_
  have hno : State.hasTasks u = false := hno
  simp [resume_of_process? hu.waits, Settings.advance, Settings.stepClosing, hno]

/-- **Every shutdown comes to its end.** -/
theorem unblocked (x : ShutDown c) : c.Guarded x.now ∧ c.ReturnsUnaided x.id x.now := by
  have hwinding : State.Winding x.id x.now := ⟨upright_run x.reached upright_initial, x.waits⟩
  exact ⟨guarded_of_closed hwinding.closed, hwinding.returns⟩

end Muster.Probed
