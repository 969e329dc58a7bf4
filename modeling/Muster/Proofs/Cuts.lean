/-
  Texts that are cut, exactly.

  (1) `startsWith_iff` — a text has a lead;
  (2) `cutFirst_eq_some_iff` — a cut is at the FIRST separator; at a single slash, what is cut off has none
      (`cutFirst_slash_eq_some_iff`);
  (3) `cutLast_eq_some_iff` — a cut is at the LAST character of its kind: what is left over has none;
  (4) `pieces_eq_splitOn` — the pieces of a text, in the words of the library; `splitOn_append` — those of two texts
      put together with a separator are those of either;
  (5) `trimEnd_append` — what is left of a text without its trailing run.

  THE CRUX (`cutFirst_append`): no two occurrences of "://" overlap.
-/
import Mathlib.Data.List.TakeWhile
import Muster.Text.Cut

namespace Muster.Text

/-! ## A lead -/

theorem startsWith_iff {lead s : String} :
    startsWith lead s = true ↔ ∃ rest, s.toList = lead.toList ++ rest := by
  rw [startsWith, Option.isSome_iff_exists]
  simp only [dropLead_eq_some_iff]

/-! ## The first occurrence of a separator -/

section First

variable {sep s a b : List Char}

/-- There is no cut EXACTLY if the separator does not occur. -/
theorem cutFirst_eq_none_iff : cutFirst sep s = none ↔ ¬ sep <:+: s := by
  induction s with
  | nil => by_cases h : sep = [] <;> simp [cutFirst, h]
  | cons c cs ih =>
    rw [cutFirst, List.infix_cons_iff]
    cases hlead : dropLead sep (c :: cs) with
    | some rest =>
      have hfront : sep <+: c :: cs := ⟨rest, (dropLead_eq_some_iff.1 hlead).symm⟩
      simp [hfront]
    | none =>
      have hno : ¬ sep <+: c :: cs := by
        rintro ⟨rest, hrest⟩
        rw [dropLead_eq_some_iff.2 hrest.symm] at hlead
        cases hlead
      simp [hno, ih]

/-- Whatever occurs, the cut is not behind it. -/
theorem length_le_of_cutFirst {x y : List Char} (h : cutFirst sep s = some (a, b)) (hs : s = x ++ sep ++ y) :
    a.length ≤ x.length := by
  induction s generalizing a x with
  | nil =>
    obtain ⟨ha, -, -⟩ : a = [] ∧ sep = [] ∧ b = [] := by simpa [and_assoc] using append_of_cutFirst h
    simp [ha]
  | cons c cs ih =>
    rw [cutFirst] at h
    cases hlead : dropLead sep (c :: cs) with
    | some rest =>
      rw [hlead] at h
      obtain ⟨rfl, -⟩ := Prod.mk.inj (Option.some.inj h)
      exact Nat.zero_le _
    | none =>
      rw [hlead] at h
      obtain ⟨p, hp, he⟩ := Option.map_eq_some_iff.1 h
      obtain ⟨rfl, rfl⟩ := Prod.mk.inj he
      cases x with
      | nil =>
        -- the separator does not stand here
        rw [dropLead_eq_some_iff.2 (by simpa using hs)] at hlead
        cases hlead
      | cons d x =>
        obtain ⟨-, hcs⟩ := List.cons_eq_cons.1 (by simpa using hs)
        exact Nat.succ_le_succ (ih hp (by simpa using hcs))

/-- **A cut is at the first occurrence**: no earlier one would do. -/
theorem cutFirst_eq_some_iff :
    cutFirst sep s = some (a, b) ↔
      s = a ++ sep ++ b ∧ ∀ x y, s = x ++ sep ++ y → a.length ≤ x.length := by
  refine ⟨fun h => ⟨append_of_cutFirst h, fun x y hxy => ?_⟩, fun ⟨hs, hfirst⟩ => ?_⟩
  · exact length_le_of_cutFirst h hxy
  · -- there is a cut, and neither is behind the other
    cases hcut : cutFirst sep s with
    | none => exact absurd ⟨a, b, hs.symm⟩ (cutFirst_eq_none_iff.1 hcut)
    | some p =>
      have hp : s = p.1 ++ sep ++ p.2 := append_of_cutFirst hcut
      have hlength : p.1.length = a.length :=
        Nat.le_antisymm (length_le_of_cutFirst hcut hs) (hfirst _ _ hp)
      rw [hs, List.append_assoc, List.append_assoc] at hp
      obtain ⟨ha, hrest⟩ := List.append_inj hp hlength.symm
      rw [ha, List.append_cancel_left hrest]

/-- **No two occurrences of "://" overlap**: what holds none is cut off where it ends. -/
theorem cutFirst_append (h : ¬ "://".toList <:+: a) :
    cutFirst "://".toList (a ++ "://".toList ++ b) = some (a, b) := by
  refine cutFirst_eq_some_iff.2 ⟨rfl, fun x y hxy => Nat.le_of_not_lt fun hlt => ?_⟩
  rw [List.append_assoc, List.append_assoc] at hxy
  -- an earlier occurrence begins with what of `a` is behind `x`
  obtain ⟨d, rfl, -⟩ | ⟨d, rfl, hd⟩ := List.append_eq_append_iff.1 hxy
  · rw [List.length_append] at hlt
    omega
  · match d with
    | [] => simp at hlt
    | [_] | [_, _] => simp at hd
    | u :: v :: w :: d =>
      obtain ⟨rfl, rfl, rfl, -⟩ : ':' = u ∧ '/' = v ∧ '/' = w ∧ _ := by simpa using hd
      exact h ⟨x, d, by simp⟩

end First

theorem cutFirst_slash_eq_some_iff {s a b : List Char} :
    cutFirst ['/'] s = some (a, b) ↔ s = a ++ '/' :: b ∧ '/' ∉ a := by
  induction s generalizing a with
  | nil => simp [cutFirst]
  | cons x xs ih =>
    unfold cutFirst
    by_cases hx : '/' = x
    · subst hx
      simp only [dropLead, if_pos]
      constructor
      · intro h
        obtain ⟨rfl, rfl⟩ := Prod.mk.inj (Option.some.inj h)
        simp
      · rintro ⟨h, hs⟩
        cases a with
        | nil => simpa using h
        | cons y ys =>
          obtain ⟨rfl, -⟩ := List.cons_eq_cons.1 h
          simp at hs
    · simp only [dropLead, if_neg hx, Option.map_eq_some_iff]
      constructor
      · rintro ⟨⟨p, q⟩, hp, h⟩
        obtain ⟨rfl, rfl⟩ := Prod.mk.inj h
        obtain ⟨rfl, hs⟩ := ih.1 hp
        simp [hx, hs]
      · rintro ⟨h, hs⟩
        cases a with
        | nil => simp [Ne.symm hx] at h
        | cons y ys =>
          obtain ⟨rfl, rfl⟩ := List.cons_eq_cons.1 h
          refine ⟨(ys, b), ih.2 ⟨rfl, ?_⟩, rfl⟩
          simp at hs
          exact hs.2

/-- Where there is only one slash, there is only one way to cut. -/
theorem append_slash_inj {a b n e : List Char} (h : a ++ '/' :: b = n ++ '/' :: e)
    (hn : '/' ∉ n) (he : '/' ∉ e) : a = n ∧ b = e := by
  -- if one cut lay to the left of the other, the piece between them would hold a slash
  rcases List.append_eq_append_iff.1 h with ⟨c, rfl, hc⟩ | ⟨c, rfl, hc⟩
  · cases c with
    | nil => obtain ⟨-, rfl⟩ := List.cons_eq_cons.1 hc; simp
    | cons x xs =>
      obtain ⟨rfl, -⟩ := List.cons_eq_cons.1 hc
      simp at hn
  · cases c with
    | nil => obtain ⟨-, rfl⟩ := List.cons_eq_cons.1 hc; simp
    | cons x xs =>
      obtain ⟨-, rfl⟩ := List.cons_eq_cons.1 hc
      simp at he

/-! ## The last occurrence of a character -/

/-- Where neither tail holds `c`, there is only one way to cut at the last `c`. -/
theorem append_last_inj {c : Char} {a b x y : List Char} (h : a ++ c :: b = x ++ c :: y)
    (hb : c ∉ b) (hy : c ∉ y) : a = x ∧ b = y := by
  have hcut := cutLast_append (a := a) hb
  rw [h, cutLast_append hy] at hcut
  obtain ⟨rfl, rfl⟩ := Prod.mk.inj (Option.some.inj hcut)
  exact ⟨rfl, rfl⟩

/-- **A cut is at the last occurrence**: what is left over has none. -/
theorem cutLast_eq_some_iff {c : Char} {s a b : List Char} :
    cutLast c s = some (a, b) ↔ s = a ++ c :: b ∧ c ∉ b := by
  refine ⟨append_of_cutLast, ?_⟩
  rintro ⟨rfl, hb⟩
  exact cutLast_append hb

/-! ## Pieces -/

/-- The pieces of a text, in the words of the library. -/
theorem pieces_eq_splitOn (c : Char) (s : List Char) : pieces c s = s.splitOn c := by
  induction s with
  | nil => simp [pieces]
  | cons x xs ih =>
    rw [pieces, ih, List.splitOn_cons_eq_if_modifyHead]
    by_cases hx : x = c
    · simp [hx]
    · obtain ⟨p, ps, hps⟩ := List.exists_cons_of_ne_nil (List.splitOn_ne_nil c xs)
      simp [hx, hps]

/-- **The pieces of two texts with a separator between them** are those of the one, and then those of the other. -/
theorem splitOn_append (c : Char) (a b : List Char) :
    (a ++ c :: b).splitOn c = a.splitOn c ++ b.splitOn c := by
  induction a with
  | nil => simp [List.splitOn_cons_eq_if_modifyHead]
  | cons x a ih =>
    rw [List.cons_append, List.splitOn_cons_eq_if_modifyHead, List.splitOn_cons_eq_if_modifyHead, ih]
    by_cases hx : x = c
    · simp [hx]
    · obtain ⟨p, ps, hps⟩ := List.exists_cons_of_ne_nil (List.splitOn_ne_nil c a)
      simp [hx, hps]

/-- A piece does not hold what the text is cut at. -/
theorem not_mem_of_mem_splitOn {c : Char} {s p : List Char} (h : p ∈ s.splitOn c) : c ∉ p := by
  induction s generalizing p with
  | nil =>
    obtain rfl : p = [] := by simpa using h
    exact List.not_mem_nil
  | cons x xs ih =>
    rw [List.splitOn_cons_eq_if_modifyHead] at h
    by_cases hx : x = c
    · rw [if_pos (beq_iff_eq.2 hx)] at h
      rcases List.mem_cons.1 h with rfl | h
      · exact List.not_mem_nil
      · exact ih h
    · rw [if_neg (by simpa using hx)] at h
      obtain ⟨q, qs, hqs⟩ := List.exists_cons_of_ne_nil (List.splitOn_ne_nil c xs)
      rw [hqs, List.modifyHead_cons] at h
      rw [hqs] at ih
      rcases List.mem_cons.1 h with rfl | h
      · exact List.not_mem_cons_of_ne_of_not_mem (Ne.symm hx) (ih (List.mem_cons_self ..))
      · exact ih (List.mem_cons_of_mem _ h)

/-! ## A trailing run -/

section Trailing

variable {p : Char → Bool} {s a b : List Char}

/-- Nothing is lost but what was taken away. -/
theorem exists_append_trimEnd (p : Char → Bool) (s : List Char) :
    ∃ tail, s = trimEnd p s ++ tail ∧ ∀ c ∈ tail, p c = true := by
  refine ⟨(s.reverse.takeWhile p).reverse, ?_, fun c hc => List.mem_takeWhile_imp (List.mem_reverse.1 hc)⟩
  rw [trimEnd, ← List.reverse_append, List.takeWhile_append_dropWhile, List.reverse_reverse]

theorem trimEnd_eq_nil_iff : trimEnd p s = [] ↔ ∀ c ∈ s, p c = true := by
  simp [trimEnd]

/-- What is left of two texts: the first and what is left of the second, unless nothing is left of that. -/
theorem trimEnd_append (p : Char → Bool) (a b : List Char) :
    trimEnd p (a ++ b) = if trimEnd p b = [] then trimEnd p a else a ++ trimEnd p b := by
  unfold trimEnd
  rw [List.reverse_append, List.dropWhile_append]
  by_cases h : b.reverse.dropWhile p = []
  · simp [h]
  · simp [h]

end Trailing

end Muster.Text
