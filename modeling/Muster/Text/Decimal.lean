/-
  Decimal numbers as text.

  Ports, indexes and lease numbers are written in decimal.  Writing is `Nat.toDigits 10`; reading is
  MORE GENEROUS than what is written: an optional leading plus sign and any number of leading zeros
  are accepted, a value above the limit of the field is not.  No sign but the plus, no blanks, no
  digits outside ASCII.
-/

namespace Muster.Decimal

/-- The digits of `n`, most significant first and without leading zeros. -/
def digits (n : Nat) : List Char := Nat.toDigits 10 n

/-- The text of an integer: a minus sign in front of the digits of a negative one. -/
def ofInt (n : Int) : String :=
  if n < 0 then "-" ++ String.ofList (digits n.natAbs) else String.ofList (digits n.natAbs)

/-- One or more ASCII digits, as a number. -/
def readDigits (cs : List Char) : Option Nat :=
  if cs ≠ [] ∧ cs.all Char.isDigit then some (Nat.ofDigitChars 10 cs 0) else none

/-- The text after an optional plus sign. -/
def dropPlus : List Char → List Char
  | '+' :: rest => rest
  | cs => cs

/-- **An unsigned number of at most `limit`**: digits with an optional plus sign in front. -/
def read (limit : Nat) (cs : List Char) : Option Nat :=
  (readDigits (dropPlus cs)).filter (· ≤ limit)

theorem digits_ne_nil (n : Nat) : digits n ≠ [] := Nat.toDigits_ne_nil

theorem isDigit_of_mem_digits {n : Nat} {c : Char} (h : c ∈ digits n) : c.isDigit = true :=
  Nat.isDigit_of_mem_toDigits (by decide) (by decide) h

/-- What is written is read back. -/
theorem readDigits_digits (n : Nat) : readDigits (digits n) = some n := by
  unfold readDigits
  rw [if_pos ⟨digits_ne_nil n, List.all_eq_true.2 fun c hc => isDigit_of_mem_digits hc⟩]
  simp [digits, Nat.ofDigitChars_ten_toDigits]

theorem dropPlus_digits (n : Nat) : dropPlus (digits n) = digits n := by
  unfold dropPlus
  split
  · rename_i rest heq
    have := isDigit_of_mem_digits (n := n) (c := '+') (by rw [heq]; simp)
    exact absurd this (by decide)
  · rfl

/-- A number within the limit reads back from its digits. -/
theorem read_digits {limit n : Nat} (h : n ≤ limit) : read limit (digits n) = some n := by
  simp [read, dropPlus_digits, readDigits_digits, Option.filter, h]

end Muster.Decimal
