/-
  What comes about without the store.

  A store may answer or not, and a process that waits for it may wait for ever.  Other waits end by
  themselves: a turn comes, a limit passes, a task notices that it is cancelled.  Something is INEVITABLE if
  it comes about whatever is answered, and if there is always something that happens without an answer until
  it has.

  (1) `Inevitably` — the notion, for any machine;
  (2) `Wait.isReleased`, `Signal.isOwn` — which waits the closing of a backend ends, and which signals need no
      store;
  (3) `Session.burden` — how much the processes of a session still have before them;
  (4) `ShutDown` — a backend that is being shut down, and what it means that nothing blocks it.

  THE CRUX (`Edits.burden_lt`): who goes on with less before it, less even with all that it has started, makes
  the burden smaller — so something that is never stuck comes to its end.
-/
import Mathlib.Algebra.BigOperators.Intervals
import Mathlib.Algebra.Group.Action.Defs
import Mathlib.Algebra.Order.BigOperators.Group.Finset
import Muster.Proofs.Edits
import Muster.Proofs.Run

namespace Muster

/-! ## The notion -/

/-- **Something is inevitable**: every served act leads closer to it, and until it has come about an act of
    one's own can happen. -/
inductive Inevitably {σ α : Type} (act : σ → α → Option σ) (served : σ → α → Prop) (own : α → Prop)
    (goal : σ → Prop) : σ → Prop
  | now {s : σ} : goal s → Inevitably act served own goal s
  | later {s : σ} : (∃ a t, served s a ∧ own a ∧ act s a = some t) →
      (∀ a t, served s a → act s a = some t → Inevitably act served own goal t) →
      Inevitably act served own goal s

namespace Inevitably

variable {σ α : Type} {act : σ → α → Option σ} {served : σ → α → Prop} {own : α → Prop}
  {goal : σ → Prop} {s : σ}

/-- **What is never stuck, and gets lighter with every act, comes to its end.** -/
theorem of_burden (inv : σ → Prop) (burden : σ → Nat)
    (free : ∀ s, inv s → ∃ a t, served s a ∧ own a ∧ act s a = some t)
    (lighter : ∀ s a t, inv s → served s a → act s a = some t →
      goal t ∨ inv t ∧ burden t < burden s) (hs : inv s) :
    Inevitably act served own goal s := by
  induction hn : burden s using Nat.strong_induction_on generalizing s with
  | _ n ih =>
    refine .later (free s hs) fun a t ha hact => ?_
    rcases lighter s a t hs ha hact with hgoal | ⟨ht, hlt⟩
    · exact .now hgoal
    · exact ih (burden t) (hn ▸ hlt) ht rfl

/-- **What no act of one's own can bring about is not inevitable.** -/
theorem not_of_barred (inv : σ → Prop) (barred : ∀ s, inv s → ¬ goal s)
    (kept : ∀ s a t, inv s → own a → act s a = some t → inv t) (hs : inv s) :
    ¬ Inevitably act served own goal s := by
  intro h
  induction h with
  | now hgoal => exact barred _ hs hgoal
  | later hfree _ ih =>
    obtain ⟨a, t, hserved, hown, hact⟩ := hfree
    exact ih a t hserved hact (kept _ a t hs hown hact)

end Inevitably

/-- Whether closing the backend ends a wait. -/
def Wait.isReleased : Wait → Bool
  | .pause _ | .item _ | .reply _ true => true
  | _ => false

/-- **Whether a signal needs no store.** -/
def Signal.isOwn {ρ ι : Type} : Signal ρ ι → Bool
  | .reply _ | .item _ => false
  | _ => true

namespace Session

open Finset

variable {ξ π κ : Type}

/-! ## How much is left -/

/-- **The burden of a session**: what its processes have before them. -/
def burden (weight : π → Nat) (s : Session ξ π κ) : Nat :=
  ∑ k ∈ range s.nextId, (s.process? k).elim 0 weight

/-- **A process lightens the burden** that goes on with less before it, less even with one for each process
    that it has started. -/
theorem Edits.burden_lt {s t : Session ξ π κ} {id : Nat} {p : π} {next born : π → Prop}
    {weight : π → Nat} (h : Edits id next born s t) (hs : s.Orderly) (hid : s.process? id = some p)
    (hborn : ∀ q, born q → weight q ≤ 1)
    (hless : (t.process? id).elim 0 weight + (t.nextId - s.nextId) < weight p) :
    t.burden weight < s.burden weight := by
  obtain ⟨d, hd⟩ := Nat.exists_eq_add_of_le h.nextId_le
  have hmem : id ∈ range s.nextId := mem_range.2 (hs.lt_nextId hid)
  -- everybody else who was there is as before
  have hothers : ∑ k ∈ (range s.nextId).erase id, (t.process? k).elim 0 weight =
      ∑ k ∈ (range s.nextId).erase id, (s.process? k).elim 0 weight := by
    refine sum_congr rfl fun k hk => ?_
    rw [h.spares.process? k (mem_range.1 (mem_of_mem_erase hk)) (ne_of_mem_erase hk)]
  -- whoever is new counts for one at most
  have hone (k : Nat) : (t.process? (s.nextId + k)).elim 0 weight ≤ 1 := by
    cases hq : t.process? (s.nextId + k) with
    | none => exact Nat.zero_le 1
    | some q =>
      rcases h.introduces hq with hold | ⟨he, -⟩ | ⟨-, hq⟩
      · exact absurd (hs.lt_nextId hold) (by omega)
      · exact absurd (hs.lt_nextId hid) (by omega)
      · exact hborn q hq
  have hnew : ∑ k ∈ range d, (t.process? (s.nextId + k)).elim 0 weight ≤ d := by
    have hall := sum_le_card_nsmul (range d) _ 1 fun k _ => hone k
    rwa [card_range, smul_eq_mul, Nat.mul_one] at hall
  unfold burden
  rw [hd, sum_range_add, ← add_sum_erase _ _ hmem, ← add_sum_erase _ _ hmem, hothers, hid]
  simp only [Option.elim_some]
  omega

/-! ## What is guarded -/

variable {ρ ι : Type} (resume : Session ξ π κ → Nat → Signal ρ ι → Option (Session ξ π κ))
  (wait : π → Wait)

/-- **A closed backend is served**: whoever's wait is over has its turn, and a process whose wait the closing
    ends notices that, whatever else has arrived. -/
def Served (s : Session ξ π κ) (a : Nat × Signal ρ ι) : Prop :=
  ∀ p, s.process? a.1 = some p → (wait p).isReleased = true → a.2 = .cancelled

/-- **Every task is guarded**: it notices that the backend is closed, or it waits for a request with the
    limit, or its first turn comes. -/
def Guarded (isTask : π → Bool) (limit : Duration) (s : Session ξ π κ) : Prop :=
  ∀ k p, s.process? k = some p → isTask p = true →
    ((wait p).isReleased = true ∧ (resume s k .cancelled).isSome = true) ∨
    (wait p = .reply (some limit) false ∧ (resume s k .timeout).isSome = true) ∨
    (wait p = .turn ∧ (resume s k .turn).isSome = true)

/-- **The call with a number returns whatever the store does.** -/
def ReturnsUnaided (id : Nat) (s : Session ξ π κ) : Prop :=
  Inevitably (fun t a => resume t a.1 a.2) (Served wait) (fun a => a.2.isOwn = true)
    (fun t => (id, .status (.ok ())) ∈ t.returns) s

variable {resume wait} {isTask : π → Bool} {limit : Duration} {s : Session ξ π κ}

/-- **Guarded tasks are never stuck**: one of them can stop, or whoever waits for their end can go on. -/
theorem Guarded.free (h : Guarded resume wait isTask limit s) (hs : s.Orderly) {id : Nat} {p : π}
    (hid : s.process? id = some p) (hwait : wait p = .tasks)
    (hdone : (s.processes.any fun q => isTask q.2) = false →
      (resume s id .tasksDone).isSome = true) :
    ∃ a t, Served wait s a ∧ a.2.isOwn = true ∧ resume s a.1 a.2 = some t := by
  have served {k : Nat} {q : π} {sig : Signal ρ ι} (hq : s.process? k = some q)
      (hsig : (wait q).isReleased = true → sig = .cancelled) : Served wait s (k, sig) := by
    intro r hr
    obtain rfl := Option.some.inj (hq.symm.trans hr)
    exact hsig
  have acts {k : Nat} {sig : Signal ρ ι} (hk : Served wait s (k, sig)) (hsig : sig.isOwn = true)
      (hact : (resume s k sig).isSome = true) :
      ∃ a t, Served wait s a ∧ a.2.isOwn = true ∧ resume s a.1 a.2 = some t := by
    obtain ⟨t, ht⟩ := Option.isSome_iff_exists.1 hact
    exact ⟨(k, sig), t, hk, hsig, ht⟩
  cases htasks : s.processes.any fun q => isTask q.2 with
  | true =>
    obtain ⟨k, q, hq, htask⟩ := (hs.any_iff isTask).1 htasks
    rcases h k q hq htask with ⟨-, hact⟩ | ⟨hw, hact⟩ | ⟨hw, hact⟩
    · exact acts (served hq fun _ => rfl) rfl hact
    · exact acts (served hq fun hr => by rw [hw] at hr; cases hr) rfl hact
    · exact acts (served hq fun hr => by rw [hw] at hr; cases hr) rfl hact
  | false => exact acts (served hid fun hr => by rw [hwait] at hr; cases hr) rfl (hdone htasks)

end Session

/-- **A backend that is being shut down**, after any run: the shutdown has the number `id`, and has not
    returned. -/
structure ShutDown {ξ π κ α : Type} (act : Session ξ π κ → α → Option (Session ξ π κ))
    (initial : Session ξ π κ) (closing : π) where
  turns : List (Session ξ π κ × α)
  now : Session ξ π κ
  reached : Run act initial turns now
  id : Nat
  waits : now.process? id = some closing

/-- Acts that can happen one after the other lead to a shutdown if it waits at their end. -/
theorem ShutDown.of_foldlM {ξ π κ α : Type} {act : Session ξ π κ → α → Option (Session ξ π κ)}
    {initial now : Session ξ π κ} {closing : π} {acts : List α} {id : Nat}
    (h : acts.foldlM act initial = some now) (hid : now.process? id = some closing) :
    ∃ x : ShutDown act initial closing, x.turns.map Prod.snd = acts ∧ x.now = now ∧ x.id = id := by
  obtain ⟨turns, hrun, hacts⟩ := Run.of_foldlM h
  exact ⟨⟨turns, now, hrun, id, hid⟩, hacts, rfl, rfl⟩

end Muster
