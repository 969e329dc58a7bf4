/-
  Can a store that does not answer keep a lease backend from shutting down?

  A shutdown closes the backend and waits for its tasks.  Most of them notice: a watch that reads its stream,
  a renewal and a restoring that waits all stop, and each request of a registration has its limit.  A watch
  that is being SET UP does not: it waits for its snapshot or its stream without a limit, and looks at
  nothing else.

  (1) `Turn.eases` — a process of a closed backend that has its turn has less before it;
  (2) `guarded_of_clear` — where no watch is being set up every task notices the closing, or has a limit;
  (3) `State.Blocked.kept` — a watch that is being set up stays so until the store answers;
  (4) `unblocked_iff` — hence a shutdown comes to its end EXACTLY when no watch is being set up.
-/
import Muster.Proofs.Inevitable
import Muster.Proofs.Leased.Edits
import Muster.Proofs.Leased.OwnKey

namespace Muster.Leased

/-! ## Shutdowns -/

/-- **A lease backend that is being shut down.** -/
abbrev ShutDown (c : Settings) := Muster.ShutDown c.act State.initial .closing

/-- Every task notices that the backend is closed, or waits for a request with the limit. -/
def Settings.Guarded (c : Settings) (s : State) : Prop :=
  Session.Guarded c.resume (Process.wait c) Process.isTask c.requestTimeout s

/-- The call with a number returns whatever the store does. -/
def Settings.ReturnsUnaided (c : Settings) (id : Nat) (s : State) : Prop :=
  Session.ReturnsUnaided c.resume (Process.wait c) id s

/-- No watch is being set up. -/
def State.Clear (s : State) : Prop := ∀ k p, s.process? k = some p → p.isSettingUp = false

/-- Whether it is so can be computed. -/
theorem clear_iff {s : State} (hs : s.Orderly) :
    s.Clear ↔ (s.processes.any fun q => q.2.isSettingUp) = false := by
  rw [← Bool.not_eq_true, hs.any_iff Process.isSettingUp]
  simp only [State.Clear, not_exists, not_and, Bool.not_eq_true]

/-! ## What processes have before them -/

/-- How many turns a request of a registration is from the end, with the task that it starts. -/
def Registering.weight : Registering → Nat
  | .granting => 4
  | .putting _ => 3
  | .opening _ => 2

/-- **What a process of a closed backend has before it.** -/
def Process.weight : Process → Nat
  | .registering stage | .restore (.attempting _ stage) => stage.weight
  | .watch (.fresh _) => 5
  | .watch .syncing => 4
  | .watch (.opening _) => 2
  | _ => 1

theorem Registering.one_lt_weight (stage : Registering) : 1 < stage.weight := by
  cases stage <;> simp [weight]

theorem Process.weight_pos (p : Process) : 0 < p.weight := by
  unfold weight
  split
  · exact Nat.lt_of_succ_lt (Registering.one_lt_weight _)
  · exact Nat.lt_of_succ_lt (Registering.one_lt_weight _)
  all_goals decide

/-- Every request of a registration brings it nearer to its end. -/
theorem Settings.progress_weight {c : Settings} {stage next : Registering}
    {r : Except Failure Reply} {q : Request} (h : c.progress stage r = some (.asks q next)) :
    next.weight < stage.weight := by
  unfold progress at h
  split at h
  · cases h; exact Nat.lt_succ_self 3
  · cases h; exact Nat.lt_succ_self 2
  all_goals cases h

section Eases

variable {c : Settings} {s t : State} {id : Nat} {p : Process} {sig : Signal Reply Item}

/-- **Whoever has its turn in a closed backend has less before it afterwards**, even with what it starts. -/
theorem Turn.eases (h : Turn c s id p sig t) (hs : s.closed = true) (hn : s.Numbered)
    (hid : s.process? id = some p) (hsig : (p.wait c).isReleased = true → sig = .cancelled) :
    (t.process? id).elim 0 Process.weight + (t.nextId - s.nextId) < p.weight := by
  have ends {u : State} (hp : u.process? id = none) (hu : u.nextId = s.nextId) :
      (u.process? id).elim 0 Process.weight + (u.nextId - s.nextId) < p.weight := by
    rw [hp, hu, Nat.sub_self]
    exact p.weight_pos
  have goesOn {u : State} {q : Process} (hp : u.process? id = some q) (hu : u.nextId = s.nextId)
      (hq : q.weight < p.weight) :
      (u.process? id).elim 0 Process.weight + (u.nextId - s.nextId) < p.weight := by
    rw [hp, hu, Nat.sub_self]
    exact hq
  have hfresh : id ≠ s.nextId := hn.ne_nextId hid
  cases h with
  | loads snap =>
    have hu := c.synchronise_alike false snap s
    exact ends (by simp [Session.process?_finish])
      (by simp [hu.nextId, hu.closed, hs, Settings.misses])
  | finds snap u o hu =>
    have ha := c.synchronise_alike false snap s
    have hnext : u.nextId = s.nextId := by
      rcases hu with rfl | ⟨l, rfl⟩ <;> simp [ha.nextId, Settings.misses]
    exact ends (by simp [Session.process?_finish]) hnext
  | loadFails | refused | revokes | revokeFails | findFails | closes | breaks | renewalEnds
  | renewalStops | skips | yields | restoreStops | givesUp =>
    exact ends (by simp [Session.process?_finish]) (by simp)
  | asks q next hr hg =>
    exact goesOn (q := .registering next) (by simp [Session.process?_become, hid]) (by simp)
      (Settings.progress_weight hg)
  | @restoreAsks failures _ _ _ _ next hr hg =>
    exact goesOn (q := .restore (.attempting failures next))
      (by simp [Session.process?_become, hid]) (by simp) (Settings.progress_weight hg)
  | enrols lease stream hr hg =>
    -- the last request: what is left is the task that renews
    obtain ⟨rfl, -⟩ := Settings.progress_opened hg
    simp [Session.process?_finish, Process.weight, Registering.weight]
  | restores lease stream l hr hg =>
    obtain ⟨rfl, -⟩ := Settings.progress_opened hg
    simp [Session.process?_finish, Process.weight, Registering.weight]
  | @backsOff failures stage =>
    exact goesOn (q := .restore (.backingOff (failures + 1)))
      (by simp [Session.process?_become, hid]) (by simp) stage.one_lt_weight
  | watches start =>
    exact goesOn (q := .watch (.opening start)) (by simp [Session.process?_become, hid]) (by simp)
      (by simp [Process.weight])
  | syncs =>
    exact goesOn (q := .watch .syncing) (by simp [Session.process?_become, hid]) (by simp)
      (by simp [Process.weight])
  | synced snap =>
    -- the snapshot may show a loss, and a task begins that restores
    have hu := c.synchronise_alike true snap s
    have hlive : (c.synchronise true snap s).process? id = some (.watch .syncing) := by
      rw [hu.process?]
      exact process?_lose c _ hid
    have hnext : (c.synchronise true snap s).nextId ≤ s.nextId + 1 := by
      rw [hu.nextId, (c.lose_books ..).2.2.2.2.1]
      split <;> omega
    simp only [Session.ask_books, Session.process?_become, hlive, if_true, Option.map_some,
      Option.elim_some, Process.weight]
    omega
  | opens start stream =>
    exact goesOn (q := .watch (.reading stream)) (by simp [Session.process?_become, hid]) (by simp)
      (by simp [Process.weight])
  | observes | renews | renewalLost | wakes | retries => cases hsig rfl

end Eases

/-! ## Where no watch is being set up -/

section Clear

variable {c : Settings} {s t : State} {id : Nat}

/-- A registration waits for no request longer than its limit. -/
theorem progress_timeout (stage : Registering) (f : Failure) :
    c.progress stage (.error f) = some (.failed (.registration stage.operation f)) := by
  cases stage <;> rfl

/-- **Every task is guarded but a watch that is being set up.** -/
theorem guarded_of_clear (hs : s.closed = true) (hclear : s.Clear) : c.Guarded s := by
  intro k p hp htask
  cases p with
  | watch w =>
    cases w with
    | reading stream =>
      exact .inl ⟨rfl, by simp [resume_of_process? hp, Settings.advance, Settings.stepWatch, hs]⟩
    | _ => exact absurd (hclear k _ hp) (by simp [Process.isSettingUp])
  | renewal lease stream =>
    exact .inl ⟨rfl, by
      simp [resume_of_process? hp, Settings.advance, Settings.stepRenewal, State.isCancelled, hs]⟩
  | restore r =>
    cases r with
    | delaying =>
      exact .inl ⟨rfl, by simp [resume_of_process? hp, Settings.advance, Settings.stepRestore, hs]⟩
    | backingOff failures =>
      exact .inl ⟨rfl, by simp [resume_of_process? hp, Settings.advance, Settings.stepRestore, hs]⟩
    | attempting failures stage =>
      exact .inr (.inl ⟨rfl, by
        simp [resume_of_process? hp, Settings.advance, Settings.stepRestore, Signal.result?,
          progress_timeout]⟩)
  | _ => cases htask

/-- **A backend that is being shut down**, with no watch being set up. -/
structure State.Winding (id : Nat) (s : State) : Prop where
  upright : s.Upright .closing
  waits : s.process? id = some .closing
  clear : s.Clear

theorem State.Winding.closed (h : s.Winding id) : s.closed = true := h.upright.shut id h.waits

/-- **Every act brings it nearer to its end.** -/
theorem State.Winding.lighter {k : Nat} {sig : Signal Reply Item} (h : s.Winding id)
    (hserved : Session.Served (Process.wait c) s (k, sig)) (hact : c.resume s k sig = some t) :
    (id, .status (.ok ())) ∈ t.returns ∨
      t.Winding id ∧ t.burden Process.weight < s.burden Process.weight := by
  have ho := h.upright.orderly
  obtain ⟨hspares, hupright⟩ := upright_act (a := .signal k sig) hact h.upright
  obtain ⟨p, hp, hturn⟩ := Settings.turn hact
  by_cases hk : id = k
  · subst hk
    obtain rfl := Option.some.inj (h.waits.symm.trans hp)
    cases hturn with
    | closes => exact .inl (List.mem_cons_self ..)
  · have hedits := hturn.edits (ho.lt_nextId hp)
    have hwaits := (hspares.process? id (ho.lt_nextId h.waits) hk).trans h.waits
    refine .inr ⟨⟨hupright, hwaits, fun j q hq => ?_⟩, ?_⟩
    · -- nobody begins to set up a watch
      rcases hedits.introduces hq with hold | ⟨-, hnext⟩ | ⟨-, hborn⟩
      · exact h.clear j q hold
      · cases hup : q.isSettingUp with
        | false => rfl
        | true => exact (hnext.settingUp hup).symm.trans (h.clear k p hp)
      · exact hborn.not_settingUp h.closed
    · refine hedits.burden_lt ho hp (fun q hq => ?_)
        (hturn.eases h.closed ho.numbered hp (hserved p hp))
      cases hq with
      | restore | renewal => exact Nat.le_refl 1
      | watch _ hopen => rw [h.closed] at hopen; cases hopen

/-- **Where no watch is being set up, a shutdown returns** whatever the store does. -/
theorem State.Winding.returns (h : s.Winding id) : c.ReturnsUnaided id s := by
  refine Inevitably.of_burden (State.Winding id) (Session.burden Process.weight) (fun u hu => ?_)
    (fun u a v hu hserved hact => hu.lighter hserved hact) h
  refine (guarded_of_clear hu.closed hu.clear).free hu.upright.orderly hu.waits rfl fun hno => ?_
  have hno : State.hasTasks u = false := hno
  simp [resume_of_process? hu.waits, Settings.advance, Settings.stepClosing, hno]

end Clear

/-! ## Where a watch is being set up -/

section Blocked

variable {c : Settings} {s t : State} {id : Nat}

/-- **A watch that is being set up goes on being set up** until the store answers. -/
theorem stepWatch_own {w : Watch} {sig : Signal Reply Item} (h : c.stepWatch s id w sig = some t)
    (hid : s.process? id = some (.watch w)) (hw : (Process.watch w).isSettingUp = true)
    (hsig : sig.isOwn = true) : ∃ p, t.process? id = some p ∧ p.isSettingUp = true := by
  cases w with
  | fresh start =>
    cases sig with
    | turn =>
      cases start with
      | none =>
        obtain rfl := Option.some.inj h
        exact ⟨.watch .syncing, by simp [Session.process?_become, hid], rfl⟩
      | some start =>
        obtain rfl := Option.some.inj h
        exact ⟨.watch (.opening start), by
          simp [Settings.openWatch, Session.process?_become, hid], rfl⟩
    | _ => cases start <;> cases h
  | reading => cases hw
  | _ =>
    cases sig with
    | reply | item => cases hsig
    | _ => cases h

/-- **A backend that is being shut down**, with a watch being set up: the shutdown has not returned. -/
structure State.Blocked (id : Nat) (s : State) : Prop where
  upright : s.Upright .closing
  waits : s.process? id = some .closing
  settingUp : ∃ k p, s.process? k = some p ∧ p.isSettingUp = true

theorem Process.isTask_of_isSettingUp {p : Process} (h : p.isSettingUp = true) :
    p.isTask = true := by
  cases p with
  | watch => rfl
  | _ => cases h

theorem State.Blocked.not_returned (h : s.Blocked id) : (id, .status (.ok ())) ∉ s.returns := by
  intro hmem
  have hover := (h.upright.orderly.returned _ hmem).2
  rw [h.waits] at hover
  cases hover

/-- **Nothing but the store can unblock it.** -/
theorem State.Blocked.kept {j : Nat} {sig : Signal Reply Item} (h : s.Blocked id)
    (hown : sig.isOwn = true) (hact : c.resume s j sig = some t) : t.Blocked id := by
  have ho := h.upright.orderly
  obtain ⟨hspares, hupright⟩ := upright_act (a := .signal j sig) hact h.upright
  obtain ⟨k, p, hp, hup⟩ := h.settingUp
  refine ⟨hupright, ?_, ?_⟩
  · by_cases hj : id = j
    · -- the shutdown waits for the watch, among others
      subst hj
      obtain ⟨q, hq, hturn⟩ := Settings.turn hact
      obtain rfl := Option.some.inj (h.waits.symm.trans hq)
      cases hturn with
      | closes _ hno =>
        have htasks : s.hasTasks = true :=
          (ho.any_iff Process.isTask).2 ⟨k, p, hp, Process.isTask_of_isSettingUp hup⟩
        rw [hno] at htasks
        cases htasks
    · exact (hspares.process? id (ho.lt_nextId h.waits) hj).trans h.waits
  · by_cases hj : k = j
    · subst hj
      cases p with
      | watch w =>
        have hstep := (resume_of_process? hp sig).symm.trans hact
        exact ⟨k, stepWatch_own hstep hp hup hown⟩
      | _ => cases hup
    · exact ⟨k, p, (hspares.process? k (ho.lt_nextId hp) hj).trans hp, hup⟩

/-- **Where a watch is being set up, a shutdown needs the store** to return. -/
theorem State.Blocked.not_returns (h : s.Blocked id) : ¬ c.ReturnsUnaided id s :=
  Inevitably.not_of_barred (State.Blocked id) (fun _ hu => hu.not_returned)
    (fun _ _ _ hu hown hact => hu.kept hown hact) h

end Blocked

/-- **A shutdown comes to its end EXACTLY when no watch is being set up.** -/
theorem unblocked_iff {c : Settings} (x : ShutDown c) :
    c.Guarded x.now ∧ c.ReturnsUnaided x.id x.now ↔ State.Clear x.now := by
  have hupright := upright_run x.reached upright_initial
  constructor
  · rintro ⟨-, hreturns⟩ k p hp
    cases hup : p.isSettingUp with
    | false => rfl
    | true =>
      have hblocked : State.Blocked x.id x.now := ⟨hupright, x.waits, k, p, hp, hup⟩
      exact absurd hreturns hblocked.not_returns
  · intro hclear
    have hwinding : State.Winding x.id x.now := ⟨hupright, x.waits, hclear⟩
    exact ⟨guarded_of_clear hwinding.closed hclear, hwinding.returns⟩

end Muster.Leased
