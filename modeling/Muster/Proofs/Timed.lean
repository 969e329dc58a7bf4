/-
  Sessions on a clock.

  A backend does not know the time.  Whoever waits for an answer with a limit, or for some time to pass, can be
  told at any moment that it has passed; how long that was is left open.  On a clock it is not: time passes
  between the acts, and each process is told of the end of its wait when it has come, neither before nor after.

  (1) `Wait.limit?` — how long a wait can last;
  (2) `Clockwork` — what a clock has to know of a machine;
  (3) `Clockwork.tick` — the machine on a clock: time passes, or it acts;
  (4) `Clockwork.Punctual` — along every run nobody is kept waiting for longer than the limit;
  (5) `Clockwork.untimed` — a run on a clock is a run;
  (6) `Clockwork.pass_or_due` — time can pass, or some wait is over: where whoever waits with a limit can be told
      of its end (`isSome_tick_of_due`), the clock never stops.

  THE CRUX (`Punctual.now_eq`): time does not pass beyond the end of a wait, and nobody is told of it before.  So
  whoever is told has waited for exactly the limit.
-/
import Muster.Proofs.Edits
import Muster.Proofs.Run

namespace Muster

/-- **How long a wait can last**, if that is limited. -/
def Wait.limit? : Wait → Option Duration
  | .reply limit _ => limit
  | .pause time => some time
  | .turn | .item _ | .tasks => none

/-- **A session on a clock.** -/
structure Timed (σ : Type) where
  session : σ
  /-- The time, in nanoseconds. -/
  now : Nat := 0
  /-- Since when each process waits. -/
  since : Nat → Nat := fun _ => 0

/-- A session at the beginning of time. -/
def Timed.start {σ : Type} (s : σ) : Timed σ where
  session := s

/-- **What can happen on a clock.** -/
inductive Tick (α : Type) where
  /-- Some nanoseconds pass. -/
  | pass (time : Nat)
  /-- The machine acts. -/
  | act (a : α)

/-- **What a clock has to know of a machine**: how it acts, what its processes wait for, and who is told of the
    end of a wait.  An act touches one process only, as long as the machine is upright. -/
structure Clockwork (ξ π κ α : Type) where
  act : Session ξ π κ → α → Option (Session ξ π κ)
  wait : π → Wait
  /-- The number of the process that acts. -/
  number : Session ξ π κ → α → Nat
  /-- The process that is told that its wait has lasted to the limit. -/
  alarm? : α → Option Nat
  upright : Session ξ π κ → Prop
  spares : ∀ s a t, act s a = some t → upright s → Session.Spares (number s a) s t ∧ upright t

/-- The turn of the machine at a tick, if it acts. -/
def Tick.turn? {σ α : Type} : Timed σ × Tick α → Option (σ × α)
  | (u, .act a) => some (u.session, a)
  | (_, .pass _) => none

namespace Clockwork

variable {ξ π κ α : Type} (m : Clockwork ξ π κ α)

/-- **When the wait of a process is over**, if it has a limit. -/
def due? (u : Timed (Session ξ π κ)) (k : Nat) : Option Nat :=
  ((u.session.process? k).bind fun p => (m.wait p).limit?).map fun d => u.since k + d.toNanos

/-- The clock after an act: whoever has acted or begun waits from now on. -/
def stamp (u : Timed (Session ξ π κ)) (a : α) (t : Session ξ π κ) : Timed (Session ξ π κ) where
  session := t
  now := u.now
  since k := if k = m.number u.session a ∨ u.session.nextId ≤ k then u.now else u.since k

/-- **The machine on a clock.**  Time passes at most to the end of a wait, and nobody is told of an end that has
    not come. -/
def tick (u : Timed (Session ξ π κ)) : Tick α → Option (Timed (Session ξ π κ))
  | .pass time =>
    if u.session.processes.all fun q => (m.due? u q.1).all fun e => decide (u.now + time ≤ e) then
      some { u with now := u.now + time }
    else none
  | .act a =>
    if ((m.alarm? a).bind (m.due? u)).all fun e => decide (e ≤ u.now) then
      (m.act u.session a).map (m.stamp u a)
    else none

variable {m} {u v w : Timed (Session ξ π κ)} {a : α} {b : Tick α} {k e time : Nat}

/-! ## Ticks -/

/-- Whose wait has an end is one of the processes. -/
theorem mem_of_due? (h : m.due? u k = some e) : ∃ q ∈ u.session.processes, q.1 = k := by
  obtain ⟨d, hd, -⟩ := Option.map_eq_some_iff.1 h
  obtain ⟨p, hp, -⟩ := Option.bind_eq_some_iff.1 hd
  exact ⟨(k, p), Session.mem_of_process? hp, rfl⟩

/-- **Time passes to the end of a wait at most.** -/
theorem tick_pass_iff :
    m.tick u (.pass time) = some v ↔
      (∀ k e, m.due? u k = some e → u.now + time ≤ e) ∧ v = { u with now := u.now + time } := by
  rw [tick, Option.ite_none_right_eq_some, Option.some_inj, eq_comm (a := v)]
  refine and_congr_left fun _ => ?_
  rw [List.all_eq_true]
  constructor
  · intro hall k e he
    obtain ⟨q, hq, rfl⟩ := mem_of_due? he
    have hend := hall q hq
    rw [he] at hend
    exact of_decide_eq_true hend
  · intro hall q _
    cases he : m.due? u q.1 with
    | none => rfl
    | some e => exact decide_eq_true (hall q.1 e he)

/-- **Nobody is told of the end of a wait before it has come.** -/
theorem tick_act_iff :
    m.tick u (.act a) = some v ↔
      (∀ k e, m.alarm? a = some k → m.due? u k = some e → e ≤ u.now) ∧
        ∃ t, m.act u.session a = some t ∧ v = m.stamp u a t := by
  rw [tick, Option.ite_none_right_eq_some, Option.map_eq_some_iff]
  refine and_congr ?_ (exists_congr fun t => and_congr_right fun _ => eq_comm)
  constructor
  · intro hall k e ha he
    rw [ha, Option.bind_some, he] at hall
    exact of_decide_eq_true hall
  · intro hall
    cases he : (m.alarm? a).bind (m.due? u) with
    | none => rfl
    | some e =>
      obtain ⟨j, ha, hj⟩ := Option.bind_eq_some_iff.1 he
      exact decide_eq_true (hall j e ha hj)

/-- What is not the end of a wait can happen at any time. -/
theorem tick_of_no_alarm {t : Session ξ π κ} (ha : m.alarm? a = none) (ht : m.act u.session a = some t) :
    m.tick u (.act a) = some (m.stamp u a t) := by
  refine tick_act_iff.2 ⟨fun k _ hk => ?_, t, ht, rfl⟩
  rw [ha] at hk
  cases hk

/-! ## Whoever does not act -/

/-- **Whoever does not act waits as before**, when somebody else does. -/
structure Rests (m : Clockwork ξ π κ α) (k : Nat) (u v : Timed (Session ξ π κ)) : Prop where
  nextId : u.session.nextId ≤ v.session.nextId
  process? : v.session.process? k = u.session.process? k
  since : v.since k = u.since k

theorem Rests.due? (h : m.Rests k u v) : m.due? v k = m.due? u k := by
  rw [Clockwork.due?, h.process?, h.since, Clockwork.due?]

/-- Nobody moves while time passes. -/
theorem rests_pass (h : m.tick u (.pass time) = some v) : m.Rests k u v := by
  obtain ⟨-, rfl⟩ := tick_pass_iff.1 h
  exact ⟨Nat.le_refl _, rfl, rfl⟩

theorem rests_act (h : m.tick u (.act a) = some v) (hu : m.upright u.session)
    (hk : k < u.session.nextId) (hne : m.number u.session a ≠ k) : m.Rests k u v := by
  obtain ⟨-, t, ht, rfl⟩ := tick_act_iff.1 h
  obtain ⟨hspares, -⟩ := m.spares _ _ _ ht hu
  refine ⟨hspares.nextId, hspares.process? k hk hne.symm, if_neg ?_⟩
  rintro (rfl | hge)
  · exact hne rfl
  · omega

/-! ## Punctuality -/

/-- **Nobody is kept waiting for longer than the limit.** -/
structure Punctual (m : Clockwork ξ π κ α) (u : Timed (Session ξ π κ)) : Prop where
  upright : m.upright u.session
  since : ∀ k, u.since k ≤ u.now
  due : ∀ k e, m.due? u k = some e → u.now ≤ e

namespace Punctual

theorem tick (h : m.tick u b = some v) (hu : m.Punctual u) : m.Punctual v := by
  cases b with
  | pass time =>
    obtain ⟨hall, rfl⟩ := tick_pass_iff.1 h
    exact ⟨hu.upright, fun k => Nat.le_add_right_of_le (hu.since k), hall⟩
  | act a =>
    obtain ⟨-, t, ht, rfl⟩ := tick_act_iff.1 h
    obtain ⟨hspares, hupright⟩ := m.spares _ _ _ ht hu.upright
    refine ⟨hupright, fun k => ?_, fun k e he => ?_⟩
    · show (if _ then u.now else u.since k) ≤ u.now
      split
      · exact Nat.le_refl _
      · exact hu.since k
    · by_cases hk : k = m.number u.session a ∨ u.session.nextId ≤ k
      · -- whoever waits from now on does not wait for something that is past
        obtain ⟨d, -, rfl⟩ := Option.map_eq_some_iff.1 he
        show u.now ≤ (if _ then u.now else u.since k) + d.toNanos
        rw [if_pos hk]
        exact Nat.le_add_right _ _
      · rw [not_or, Nat.not_le] at hk
        rw [(rests_act h hu.upright hk.2 (Ne.symm hk.1)).due?] at he
        exact hu.due k e he

/-- **Whoever is told of the end of its wait has waited for exactly the limit.** -/
theorem now_eq (hu : m.Punctual u) (h : m.tick u (.act a) = some v) (ha : m.alarm? a = some k)
    (he : m.due? u k = some e) : u.now = e := by
  obtain ⟨hcome, -⟩ := tick_act_iff.1 h
  exact Nat.le_antisymm (hu.due k e he) (hcome k e ha he)

end Punctual

/-- **A run on a clock is a run.** -/
theorem untimed {turns : List (Timed (Session ξ π κ) × Tick α)} (h : Run m.tick u turns w) :
    Run m.act u.session (turns.filterMap Tick.turn?) w.session := by
  induction h with
  | nil => exact .nil _
  | @cons u v w b turns hb _ ih =>
    cases b with
    | pass time =>
      obtain ⟨-, rfl⟩ := tick_pass_iff.1 hb
      exact ih
    | act a =>
      obtain ⟨-, t, ht, rfl⟩ := tick_act_iff.1 hb
      exact .cons ht ih

/-! ## The clock never stops -/

/-- Whoever can be told of the end of its wait is told when it has come. -/
theorem isSome_tick_of_due (ha : m.alarm? a = some k) (he : m.due? u k = some e) (hcome : e ≤ u.now)
    (hact : (m.act u.session a).isSome = true) : (m.tick u (.act a)).isSome = true := by
  obtain ⟨t, ht⟩ := Option.isSome_iff_exists.1 hact
  refine Option.isSome_iff_exists.2 ⟨_, tick_act_iff.2 ⟨fun j e' hj he' => ?_, t, ht, rfl⟩⟩
  obtain rfl : k = j := Option.some.inj (ha.symm.trans hj)
  obtain rfl : e = e' := Option.some.inj (he.symm.trans he')
  exact hcome

/-- **Time can pass, or some wait is over.** -/
theorem pass_or_due (m : Clockwork ξ π κ α) (u : Timed (Session ξ π κ)) :
    (∃ time, 0 < time ∧ (m.tick u (.pass time)).isSome = true) ∨
      ∃ k e, m.due? u k = some e ∧ e ≤ u.now := by
  by_cases h : ∃ k e, m.due? u k = some e ∧ e ≤ u.now
  · exact .inr h
  · -- every end is still to come, so a nanosecond can pass
    refine .inl ⟨1, Nat.zero_lt_one, Option.isSome_iff_exists.2 ⟨_, tick_pass_iff.2
      ⟨fun k e he => ?_, rfl⟩⟩⟩
    have hlt : ¬ e ≤ u.now := fun hle => h ⟨k, e, he, hle⟩
    omega

/-- Whoever waits to an end waits with a limit. -/
theorem limit_of_due? (h : m.due? u k = some e) :
    ∃ p d, u.session.process? k = some p ∧ (m.wait p).limit? = some d ∧ u.since k + d.toNanos = e := by
  obtain ⟨d, hd, he⟩ := Option.map_eq_some_iff.1 h
  obtain ⟨p, hp, hd⟩ := Option.bind_eq_some_iff.1 hd
  exact ⟨p, d, hp, hd, he⟩

end Clockwork

end Muster
