/-
  Cutting a text into two pieces at a separator.

  Endpoints are cut at their LAST colon, resolver targets at their FIRST "://", registration keys at
  the first slash after a fixed lead.  Everything here works on `List Char`, so each cut is one
  structural recursion:

  (1) `cutFirst sep` — before and after the first occurrence of the list `sep`;
  (2) `cutLast c` — before and after the last occurrence of the character `c`;
  (3) `trimEnd c` — the text without its trailing run of `c`.

  The lemma beside each definition says that nothing is lost: the pieces put together again are the
  text that was cut.
-/

namespace Muster.Text

/-! ## A fixed lead -/

/-- What follows `lead` in a list that starts with it. -/
def dropLead {α : Type} [DecidableEq α] : List α → List α → Option (List α)
  | [], s => some s
  | _ :: _, [] => none
  | l :: ls, c :: cs => if l = c then dropLead ls cs else none

@[simp] theorem dropLead_eq_some_iff {α : Type} [DecidableEq α] {lead s rest : List α} :
    dropLead lead s = some rest ↔ s = lead ++ rest := by
  induction lead generalizing s with
  | nil => simp [dropLead, eq_comm]
  | cons l ls ih =>
    cases s with
    | nil => simp [dropLead]
    | cons c cs =>
      by_cases h : l = c
      · subst h; simp [dropLead, ih]
      · simp [dropLead, h, Ne.symm h]

/-- Whether a text starts with `lead`. -/
def startsWith (lead s : String) : Bool := (dropLead lead.toList s.toList).isSome

/-! ## The first occurrence of a separator -/

/-- **The text around the first `sep`**, or `none` when `sep` does not occur. -/
def cutFirst (sep : List Char) : List Char → Option (List Char × List Char)
  | [] => if sep = [] then some ([], []) else none
  | c :: cs =>
    match dropLead sep (c :: cs) with
    | some rest => some ([], rest)
    | none => (cutFirst sep cs).map fun p => (c :: p.1, p.2)

/-- Putting the separator back between the two pieces gives the text that was cut. -/
theorem append_of_cutFirst {sep s a b : List Char} (h : cutFirst sep s = some (a, b)) :
    s = a ++ sep ++ b := by
  induction s generalizing a with
  | nil =>
    by_cases hs : sep = []
    · subst hs; simp [cutFirst] at h; simp [h]
    · simp [cutFirst, hs] at h
  | cons c cs ih =>
    unfold cutFirst at h
    split at h
    · rename_i rest hrest
      obtain ⟨rfl, rfl⟩ : [] = a ∧ rest = b := by simpa using h
      simpa using dropLead_eq_some_iff.1 hrest
    · obtain ⟨p, hp, heq⟩ := Option.map_eq_some_iff.1 h
      obtain ⟨rfl, rfl⟩ : c :: p.1 = a ∧ p.2 = b := by simpa using heq
      rw [ih hp]; simp

/-! ## The last occurrence of a character -/

/-- **The text around the last `c`**, or `none` when `c` does not occur. -/
def cutLast (c : Char) : List Char → Option (List Char × List Char)
  | [] => none
  | x :: xs =>
    match cutLast c xs with
    | some (a, b) => some (x :: a, b)
    | none => if x = c then some ([], xs) else none

/-- A text has no last `c` EXACTLY when `c` does not occur in it. -/
theorem cutLast_eq_none_iff {c : Char} {s : List Char} : cutLast c s = none ↔ c ∉ s := by
  induction s with
  | nil => simp [cutLast]
  | cons x xs ih =>
    unfold cutLast
    split
    · rename_i a b h
      have : c ∈ xs := by
        by_cases hm : c ∈ xs
        · exact hm
        · rw [ih.2 hm] at h; cases h
      simp [this]
    · rename_i h
      have hxs : c ∉ xs := ih.1 h
      by_cases hx : x = c
      · simp [hx]
      · simp [hx, hxs, Ne.symm hx]

/-- The pieces around the last `c`: put together they are the text, and the second has no `c`. -/
theorem append_of_cutLast {c : Char} {s a b : List Char} (h : cutLast c s = some (a, b)) :
    s = a ++ c :: b ∧ c ∉ b := by
  induction s generalizing a with
  | nil => simp [cutLast] at h
  | cons x xs ih =>
    unfold cutLast at h
    split at h
    · rename_i a' b' h'
      obtain ⟨rfl, rfl⟩ : x :: a' = a ∧ b' = b := by simpa using h
      have := ih h'
      exact ⟨by rw [this.1]; simp, this.2⟩
    · rename_i hnone
      split at h
      · rename_i hx
        obtain ⟨rfl, rfl⟩ : [] = a ∧ xs = b := by simpa using h
        exact ⟨by simp [hx], cutLast_eq_none_iff.1 hnone⟩
      · cases h

/-- The cut is at the LAST `c`: whatever stands before, a tail without `c` is what comes off. -/
theorem cutLast_append {c : Char} {a b : List Char} (hb : c ∉ b) :
    cutLast c (a ++ c :: b) = some (a, b) := by
  induction a with
  | nil => simp [cutLast, cutLast_eq_none_iff.2 hb]
  | cons x xs ih => simp [cutLast, ih]

/-! ## A trailing run -/

/-- The text without its trailing characters that satisfy `p`. -/
def trimEnd (p : Char → Bool) (s : List Char) : List Char :=
  (s.reverse.dropWhile p).reverse

/-- The text without the characters that satisfy `p` at either end. -/
def trim (p : Char → Bool) (s : List Char) : List Char :=
  trimEnd p (s.dropWhile p)

/-- The pieces between the occurrences of `c`, the empty ones included: one more than there are
    occurrences. -/
def pieces (c : Char) : List Char → List (List Char)
  | [] => [[]]
  | x :: xs =>
    if x = c then [] :: pieces c xs
    else match pieces c xs with
      | [] => [[x]]
      | p :: ps => (x :: p) :: ps

end Muster.Text
