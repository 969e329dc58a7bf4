/-
  The status of an instance is the worst of its checks.

  The reading goes through the checks in order, keeps the worse of what it has and what it meets, and stops at a check
  that says maintenance.  None of this shows in the result:

  (1) the statuses are ordered, and `Status.worse` is the least upper bound of two of them;
  (2) `Check.Rates` — what a single check says, and `Check.severity_eq_iff` — every check says ONE status;
  (3) `Status.go_le_iff` — the result stays below a bound EXACTLY if the start and every check do;
  (4) `Status.worst_of_checks` — so the result is the greatest status that a check says; it depends on WHICH checks there
      are, not on their order or number, and it is put together from the results of any two parts.

  THE CRUX: maintenance is the TOP of the order.  The reading that stops there has left out only checks that could not
  have made it worse.
-/
import Mathlib.Order.Bounds.Basic
import Mathlib.Order.Lattice
import Muster.Probed.Status
import Muster.Proofs.Cuts

namespace Muster.Probed

/-! ## The order of the statuses -/

namespace Status

/-- How bad a status is. -/
def rank : Status → Nat
  | passing => 0
  | warning => 1
  | critical => 2
  | maintenance => 3

theorem rank_injective : Function.Injective rank := by
  intro a b h
  cases a <;> cases b <;> first | rfl | cases h

instance : PartialOrder Status := PartialOrder.lift rank rank_injective

instance (a b : Status) : Decidable (a ≤ b) := inferInstanceAs (Decidable (a.rank ≤ b.rank))

instance (a b : Status) : Decidable (a < b) := inferInstanceAs (Decidable (a.rank < b.rank))

theorem passing_le (s : Status) : passing ≤ s := Nat.zero_le _

theorem le_maintenance (s : Status) : s ≤ maintenance := by
  cases s <;> decide

/-- **The worse of two statuses is below a bound EXACTLY if both are.** -/
theorem worse_le_iff {a b s : Status} : a.worse b ≤ s ↔ a ≤ s ∧ b ≤ s := by
  cases a <;> cases b <;> cases s <;> decide

/-- The worse of two statuses is one of them. -/
theorem worse_eq_or (a b : Status) : a.worse b = a ∨ a.worse b = b := by
  cases a <;> cases b <;> decide

end Status

/-! ## What a check says -/

/-- **A check that says maintenance**, by its identifier. -/
def Check.Maintains (c : Check) : Prop :=
  c.id = "_node_maintenance" ∨ ∃ rest, c.id = "_service_maintenance:" ++ rest

/-- **What a check says**: maintenance, if its identifier does, whatever its status; otherwise the status whose name it
    spells, and critical if it spells none. -/
inductive Check.Rates (c : Check) : Status → Prop
  | maintains : c.Maintains → c.Rates .maintenance
  | named (s : Status) : ¬ c.Maintains → c.status = s.text → c.Rates s
  | unknown : ¬ c.Maintains → (∀ s : Status, c.status ≠ s.text) → c.Rates .critical

namespace Check

variable {c : Check}

theorem isMaintenance_iff : c.isMaintenance = true ↔ c.Maintains := by
  rw [isMaintenance, Bool.or_eq_true, beq_iff_eq, Text.startsWith_iff]
  refine or_congr_right ⟨?_, ?_⟩
  · rintro ⟨rest, hrest⟩
    exact ⟨String.ofList rest, String.toList_inj.1 (by simpa using hrest)⟩
  · rintro ⟨rest, hrest⟩
    exact ⟨rest.toList, by rw [hrest, String.toList_append]⟩

/-- The status that a check says. -/
def severity (c : Check) : Status := if c.isMaintenance then .maintenance else .parse c.status

end Check

namespace Status

theorem parse_text (s : Status) : parse s.text = s := by
  cases s <;> rfl

theorem parse_of_unknown {t : String} (h : ∀ s : Status, t ≠ s.text) : parse t = critical := by
  have hpassing : t ≠ "passing" := h passing
  have hwarning : t ≠ "warning" := h warning
  have hmaintenance : t ≠ "maintenance" := h maintenance
  rw [parse, if_neg hpassing, if_neg hwarning, if_neg hmaintenance]

end Status

/-- **Every check says one status.** -/
theorem Check.severity_eq_iff {c : Check} {s : Status} : c.severity = s ↔ c.Rates s := by
  constructor
  · rintro rfl
    unfold severity
    by_cases hm : c.isMaintenance = true
    · rw [if_pos hm]
      exact .maintains (isMaintenance_iff.1 hm)
    · rw [if_neg hm]
      rw [isMaintenance_iff] at hm
      by_cases hn : ∃ s : Status, c.status = s.text
      · obtain ⟨s, hs⟩ := hn
        rw [hs, Status.parse_text]
        exact .named s hm hs
      · have hunknown : ∀ s : Status, c.status ≠ s.text := fun s hs => hn ⟨s, hs⟩
        rw [Status.parse_of_unknown hunknown]
        exact .unknown hm hunknown
  · intro h
    unfold severity
    cases h with
    | maintains hm => rw [if_pos (isMaintenance_iff.2 hm)]
    | named _ hm hs => rw [if_neg (mt isMaintenance_iff.1 hm), hs, Status.parse_text]
    | unknown hm hs => rw [if_neg (mt isMaintenance_iff.1 hm), Status.parse_of_unknown hs]

/-! ## The worst of the checks -/

namespace Status

variable {w s : Status} {l m : List Check}

/-- **The result of a reading is below a bound EXACTLY if its start is, and every check.**  If the reading stops, the
    bound is maintenance, and there is nothing that could be above it. -/
theorem go_le_iff : aggregate.go w l ≤ s ↔ w ≤ s ∧ ∀ c ∈ l, c.severity ≤ s := by
  induction l generalizing w with
  | nil => simp [aggregate.go]
  | cons c l ih =>
    rw [aggregate.go, List.forall_mem_cons, Check.severity]
    by_cases hm : c.isMaintenance = true
    · rw [if_pos hm, if_pos hm]
      constructor
      · intro hs
        have hall (t : Status) : t ≤ s := (le_maintenance t).trans hs
        exact ⟨hall _, hs, fun _ _ => hall _⟩
      · exact fun h => h.2.1
    · rw [if_neg hm, if_neg hm, ih, worse_le_iff, and_assoc]

/-- The result is what it started with, or what a check says. -/
theorem go_eq_or : aggregate.go w l = w ∨ ∃ c ∈ l, c.severity = aggregate.go w l := by
  induction l generalizing w with
  | nil => exact .inl rfl
  | cons c l ih =>
    rw [aggregate.go]
    by_cases hm : c.isMaintenance = true
    · rw [if_pos hm]
      exact .inr ⟨c, List.mem_cons_self .., if_pos hm⟩
    · rw [if_neg hm]
      rcases ih (w := w.worse (.parse c.status)) with h | ⟨d, hd, h⟩
      · rw [h]
        rcases worse_eq_or w (.parse c.status) with h | h
        · exact .inl h
        · exact .inr ⟨c, List.mem_cons_self .., by rw [h, Check.severity, if_neg hm]⟩
      · exact .inr ⟨d, List.mem_cons_of_mem _ hd, h⟩

theorem aggregate_le_iff : aggregate l ≤ s ↔ ∀ c ∈ l, c.severity ≤ s :=
  go_le_iff.trans (and_iff_right (passing_le s))

/-- Where there are checks, the result is what one of them says. -/
theorem exists_severity_eq (h : l ≠ []) : ∃ c ∈ l, c.severity = aggregate l := by
  rcases go_eq_or (w := .passing) (l := l) with hp | hc
  · -- nothing is better than passing, so the first check says that, too
    obtain ⟨c, rest, rfl⟩ := List.exists_cons_of_ne_nil h
    have hc : c.severity ≤ aggregate (c :: rest) := aggregate_le_iff.1 le_rfl c (List.mem_cons_self ..)
    refine ⟨c, List.mem_cons_self .., hc.antisymm ?_⟩
    rw [show aggregate (c :: rest) = passing from hp]
    exact passing_le _
  · exact hc

/-- **The result is the greatest status that a check says.** -/
theorem isGreatest_aggregate (h : l ≠ []) : IsGreatest {s | ∃ c ∈ l, c.Rates s} (aggregate l) := by
  constructor
  · obtain ⟨c, hc, hs⟩ := exists_severity_eq h
    exact ⟨c, hc, Check.severity_eq_iff.1 hs⟩
  · rintro s ⟨c, hc, hs⟩
    rw [← Check.severity_eq_iff.2 hs]
    exact aggregate_le_iff.1 le_rfl c hc

/-- More checks make nothing better. -/
theorem aggregate_mono (h : ∀ c ∈ l, c ∈ m) : aggregate l ≤ aggregate m :=
  aggregate_le_iff.2 fun c hc => aggregate_le_iff.1 le_rfl c (h c hc)

/-- The result of two parts is the worse of their results. -/
theorem aggregate_append (l m : List Check) : aggregate (l ++ m) = (aggregate l).worse (aggregate m) := by
  refine eq_of_forall_ge_iff fun s => ?_
  rw [worse_le_iff, aggregate_le_iff, aggregate_le_iff, aggregate_le_iff, List.forall_mem_append]

theorem isGreatest_worse (a b : Status) : IsGreatest {a, b} (a.worse b) := by
  refine ⟨worse_eq_or a b, ?_⟩
  rintro s (rfl | rfl)
  · exact (worse_le_iff.1 le_rfl).1
  · exact (worse_le_iff.1 le_rfl).2

/-- A check passes EXACTLY if it does not say maintenance and spells passing. -/
theorem severity_eq_passing_iff {c : Check} : c.severity = passing ↔ ¬ c.Maintains ∧ c.status = "passing" := by
  rw [Check.severity_eq_iff]
  constructor
  · rintro (_ | ⟨_, hm, hs⟩)
    exact ⟨hm, hs⟩
  · rintro ⟨hm, hs⟩
    exact .named passing hm hs

/-- **The worst of the checks.**  Of checks in any number, with any identifiers and any statuses, the result is the
    greatest status that one of them says; it is passing if there are none.  Two lists of the same checks, in whatever
    order and however often each of them, have the same result, and the result of two lists together is the greater of
    theirs.  All is well EXACTLY if no check says maintenance and each spells passing. -/
theorem worst_of_checks :
    (passing < warning ∧ warning < critical ∧ critical < maintenance) ∧
    aggregate [] = passing ∧
    (∀ l : List Check, l ≠ [] → IsGreatest {s | ∃ c ∈ l, c.Rates s} (aggregate l)) ∧
    (∀ l m : List Check, (∀ c, c ∈ l ↔ c ∈ m) → aggregate l = aggregate m) ∧
    (∀ l m : List Check, IsGreatest {aggregate l, aggregate m} (aggregate (l ++ m))) ∧
    ∀ l : List Check, aggregate l = passing ↔ ∀ c ∈ l, ¬ c.Maintains ∧ c.status = "passing" := by
  refine ⟨by decide, rfl, fun l h => isGreatest_aggregate h, fun l m h => ?_, fun l m => ?_, fun l => ?_⟩
  · exact (aggregate_mono fun c => (h c).1).antisymm (aggregate_mono fun c => (h c).2)
  · rw [aggregate_append]
    exact isGreatest_worse _ _
  · have hpass (s : Status) : s = passing ↔ s ≤ passing :=
      ⟨fun h => h.le, fun h => h.antisymm (passing_le s)⟩
    rw [hpass, aggregate_le_iff]
    refine forall₂_congr fun c _ => ?_
    rw [← hpass, severity_eq_passing_iff]

/-- A maintenance check that passes, between one that passes and one whose status nobody knows; the same checks in
    another order, one of them twice; and those behind the maintenance check alone. -/
theorem worst_of_checks_reordered : ∃ l m : List Check, l ≠ [] ∧ (∀ c, c ∈ l ↔ c ∈ m) ∧ l.length < m.length ∧
    IsGreatest {s | ∃ c ∈ l, c.Rates s} maintenance ∧ aggregate l = maintenance ∧ aggregate m = maintenance ∧
    IsGreatest {aggregate (l.take 2), aggregate (l.drop 2)} (aggregate l) ∧ aggregate (l.drop 2) = critical := by
  let l : List Check := [⟨"serfHealth", "passing"⟩, ⟨"_service_maintenance:order", "passing"⟩, ⟨"http", "Passing"⟩]
  let m : List Check := [⟨"http", "Passing"⟩, ⟨"_service_maintenance:order", "passing"⟩, ⟨"http", "Passing"⟩,
    ⟨"serfHealth", "passing"⟩]
  obtain ⟨-, -, hgreatest, hsame, hparts, -⟩ := worst_of_checks
  have hl : aggregate l = maintenance := by decide +kernel
  have hne : l ≠ [] := List.cons_ne_nil _ _
  have hmem (c : Check) : c ∈ l ↔ c ∈ m := by
    simp only [l, m, List.mem_cons, List.not_mem_nil, or_false]
    tauto
  refine ⟨l, m, hne, hmem, by decide, ?_, hl, (hsame l m hmem).symm.trans hl, hparts (l.take 2) (l.drop 2),
    by decide +kernel⟩
  rw [← hl]
  exact hgreatest l hne

end Status

end Muster.Probed
