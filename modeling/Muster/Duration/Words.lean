/-
  Durations in machine words.

  A duration fits into two words, 64 bits for its seconds and 32 for the nanoseconds beside them, and it is in words
  that it is computed with.  A word knows nothing of what does not fit into it, so every step here says whether its
  result is a word at all.

  (1) `Words.plus?`, `Words.times?`, `Words.shifted?` — a result in words is present EXACTLY if the number is one;
  (2) `carried?_eq_some_iff` — multiplying finds seconds, carry and all, EXACTLY if both of its steps fit;
  (3) `scaleInWords?_eq`, `shorterInWords_eq` — so multiplication and minimum in words never fail, and are those of
      durations.

  THE CRUX: multiplying can stop at the largest duration in two places, at the product of the seconds and at the carry
  into it.  Neither place shows, since the carry is never negative: what is too large for the first is too large in all.
-/
import Muster.Duration

namespace Muster

/-! ## Words -/

namespace Words

/-- The sum of two words, if it is one. -/
def plus? (a b : UInt64) : Option UInt64 :=
  if a.toBitVec.uaddOverflow b.toBitVec then none else some (a + b)

/-- The product of two words, if it is one. -/
def times? (a b : UInt64) : Option UInt64 :=
  if a.toBitVec.umulOverflow b.toBitVec then none else some (a * b)

/-- A word shifted to the left, by less than its 32 bits. -/
def shifted? (a bits : UInt32) : Option UInt32 := if bits < 32 then some (a <<< bits) else none

/-- The difference of two words; it stops at zero. -/
def minus (a b : UInt64) : UInt64 := if b ≤ a then a - b else 0

variable {a b c : UInt64}

/-- A word that is kept unless its number overflows is kept EXACTLY if the number is a word. -/
theorem kept_eq_some_iff {overflow : Bool} {n : Nat} (ho : overflow = decide (n ≥ UInt64.size))
    (ha : a.toNat = n % UInt64.size) : (if overflow then none else some a) = some c ↔ c.toNat = n := by
  have hc := c.toNat_lt_size
  subst ho
  simp only [decide_eq_true_eq]
  split
  · exact ⟨nofun, fun h => by omega⟩
  · rw [Option.some.injEq, ← UInt64.toNat_inj, ha, Nat.mod_eq_of_lt (by omega), eq_comm]

theorem plus?_eq_some_iff : plus? a b = some c ↔ c.toNat = a.toNat + b.toNat :=
  kept_eq_some_iff rfl (UInt64.toNat_add a b)

theorem times?_eq_some_iff : times? a b = some c ↔ c.toNat = a.toNat * b.toNat :=
  kept_eq_some_iff rfl (UInt64.toNat_mul a b)

/-- One, shifted, is a power of two. -/
theorem exists_shifted_one {bits : UInt32} (h : bits.toNat < 32) :
    ∃ w, shifted? 1 bits = some w ∧ w.toNat = Nat.pow 2 bits.toNat := by
  refine ⟨1 <<< bits, if_pos (UInt32.lt_iff_toNat_lt.2 h), ?_⟩
  have hpow : 2 ^ bits.toNat < 2 ^ 32 := Nat.pow_lt_pow_right (by decide) h
  rw [UInt32.toNat_shiftLeft, Nat.mod_eq_of_lt h, Nat.shiftLeft_eq, UInt32.toNat_one, Nat.one_mul,
    Nat.mod_eq_of_lt hpow, Nat.pow_eq]

theorem toNat_minus (a b : UInt64) : (minus a b).toNat = a.toNat - b.toNat := by
  unfold minus
  split
  · rename_i h
    exact UInt64.toNat_sub_of_le a b h
  · rename_i h
    have hlt : a.toNat < b.toNat := Nat.lt_of_not_le (mt UInt64.le_iff_toNat_le.2 h)
    exact (Nat.sub_eq_zero_of_le (Nat.le_of_lt hlt)).symm

theorem toNat_min (a b : UInt64) : (min a b).toNat = min a.toNat b.toNat := by
  show (if a ≤ b then a else b).toNat = _
  split
  · rename_i h
    exact (Nat.min_eq_left (UInt64.le_iff_toNat_le.1 h)).symm
  · rename_i h
    exact (Nat.min_eq_right (Nat.le_of_not_le (mt UInt64.le_iff_toNat_le.2 h))).symm

end Words

/-! ## Durations -/

namespace Duration

/-- The seconds, as a word. -/
def secsWord (d : Duration) : UInt64 := UInt64.ofNat d.secs

/-- The nanoseconds beside the seconds, as a word. -/
def nanosWord (d : Duration) : UInt32 := UInt32.ofNat d.nanos

/-- The duration of two words, whose nanoseconds may be more than a second. -/
def ofWords? (secs : UInt64) (nanos : UInt32) : Option Duration :=
  (Words.plus? secs (nanos / 1000000000).toUInt64).map fun s =>
    { ofSecs s with nanos := (nanos % 1000000000).toNat, nanos_lt := Nat.mod_lt nanos.toNat (by decide) }

/-- The seconds of a product whose nanoseconds are `nanos` in all: those that were multiplied, and the carry. -/
def carried? (d : Duration) (k : UInt32) (nanos : UInt64) : Option UInt64 :=
  (Words.times? d.secsWord k.toUInt64).bind fun s => Words.plus? s (nanos / 1000000000)

/-- **`k` times as long, in words**; none if a step fails that has to be right.  Seconds that do not fit are no
    failure, they make the largest duration. -/
def scaleInWords? (d : Duration) (k : UInt32) : Option Duration := do
  let nanos ← Words.times? d.nanosWord.toUInt64 k.toUInt64
  match d.carried? k nanos with
  | some secs => ofWords? secs (nanos % 1000000000).toUInt32
  | none => some max

/-- The shorter of two durations; the nanoseconds are compared only if the seconds are the same. -/
def shorterInWords (a b : Duration) : Duration :=
  if a.secsWord < b.secsWord ∨ a.secsWord = b.secsWord ∧ a.nanosWord ≤ b.nanosWord then a else b

variable {d : Duration} {k : UInt32} {secs nanos : UInt64}

theorem secs_ofSecs (s : UInt64) : (ofSecs s).secs = s.toNat := rfl

theorem toNat_secsWord (d : Duration) : d.secsWord.toNat = d.secs :=
  UInt64.toNat_ofNat_of_lt' (Nat.lt_succ_of_le d.secs_le)

theorem toNat_nanosWord (d : Duration) : d.nanosWord.toNat = d.nanos :=
  UInt32.toNat_ofNat_of_lt' (Nat.lt_trans d.nanos_lt (by decide))

/-- Two words make a duration EXACTLY if it has as many nanoseconds as they have together. -/
theorem ofWords?_eq_some_iff {secs : UInt64} {nanos : UInt32} :
    ofWords? secs nanos = some d ↔ d.toNanos = secs.toNat * 1000000000 + nanos.toNat := by
  have hcarry : (nanos / 1000000000).toUInt64.toNat = nanos.toNat / 1000000000 := UInt32.toNat_div ..
  have hrest : (nanos % 1000000000).toNat = nanos.toNat % 1000000000 := UInt32.toNat_mod ..
  unfold ofWords?
  rw [Option.map_eq_some_iff]
  constructor
  · rintro ⟨s, hs, rfl⟩
    rw [Words.plus?_eq_some_iff, hcarry] at hs
    simp only [toNanos, secs_ofSecs, hrest]
    omega
  · intro hd
    refine ⟨d.secsWord, Words.plus?_eq_some_iff.2 ?_, toNanos_inj ?_⟩
    · have hlt := d.nanos_lt
      rw [toNat_secsWord, hcarry]
      simp only [toNanos] at hd
      omega
    · have hlt := d.nanos_lt
      simp only [toNanos, secs_ofSecs, toNat_secsWord, hrest] at hd ⊢
      omega

/-- **The seconds of a product are found EXACTLY if, carry and all, they are a word.** -/
theorem carried?_eq_some_iff :
    d.carried? k nanos = some secs ↔ secs.toNat = d.secs * k.toNat + nanos.toNat / 1000000000 := by
  have hcarry : (nanos / 1000000000).toNat = nanos.toNat / 1000000000 := UInt64.toNat_div ..
  unfold carried?
  simp only [Option.bind_eq_some_iff, Words.times?_eq_some_iff, Words.plus?_eq_some_iff, toNat_secsWord,
    UInt32.toNat_toUInt64, hcarry]
  constructor
  · rintro ⟨s, hs, hsum⟩
    rw [hsum, hs]
  · intro hsum
    -- What is left of the sum without the carry is not larger than it, and so a word as well.
    have hlt : d.secs * k.toNat < UInt64.size := by
      have := secs.toNat_lt_size
      omega
    exact ⟨UInt64.ofNat (d.secs * k.toNat), UInt64.toNat_ofNat_of_lt' hlt,
      by rw [UInt64.toNat_ofNat_of_lt' hlt, hsum]⟩

/-- The nanoseconds of a product, before any of them are carried, are a word. -/
theorem exists_nanos (d : Duration) (k : UInt32) :
    ∃ n, Words.times? d.nanosWord.toUInt64 k.toUInt64 = some n ∧ n.toNat = d.nanos * k.toNat := by
  have hlt : d.nanos * k.toNat < UInt64.size :=
    Nat.lt_of_le_of_lt (Nat.mul_le_mul (Nat.le_of_lt d.nanos_lt) (Nat.le_of_lt k.toNat_lt)) (by decide)
  have hn := UInt64.toNat_ofNat_of_lt' hlt
  refine ⟨UInt64.ofNat (d.nanos * k.toNat), Words.times?_eq_some_iff.2 ?_, hn⟩
  rw [hn, UInt32.toNat_toUInt64, UInt32.toNat_toUInt64, toNat_nanosWord]

/-- **Multiplication in words never fails, and is multiplication.** -/
theorem scaleInWords?_eq (d : Duration) (k : UInt32) : d.scaleInWords? k = some (d.scale k.toNat) := by
  obtain ⟨n, hn, hnanos⟩ := exists_nanos d k
  have htotal : d.toNanos * k.toNat = d.secs * k.toNat * 1000000000 + n.toNat := by
    rw [hnanos, toNanos, Nat.add_mul, Nat.mul_right_comm]
  have hmax : max.toNanos = 18446744073709551615999999999 := rfl
  rw [scaleInWords?, hn, Option.bind_eq_bind, Option.bind_some]
  cases hcarried : d.carried? k n with
  | some secs =>
    have hsecs := carried?_eq_some_iff.1 hcarried
    have hrest : (n % 1000000000).toUInt32.toNat = n.toNat % 1000000000 := by
      rw [UInt64.toNat_toUInt32, UInt64.toNat_mod]
      exact Nat.mod_eq_of_lt (Nat.lt_trans (Nat.mod_lt _ (by decide)) (by decide))
    refine ofWords?_eq_some_iff.2 ?_
    rw [toNanos_scale, hrest, htotal]
    have hlt := secs.toNat_lt
    omega
  | none =>
    -- A word of seconds that were found would be the sum, so the sum is not a word.
    have hlarge : ¬ d.secs * k.toNat + n.toNat / 1000000000 < UInt64.size := fun hlt =>
      Option.some_ne_none _
        ((carried?_eq_some_iff.2 (UInt64.toNat_ofNat_of_lt' hlt)).symm.trans hcarried)
    refine congrArg some (toNanos_inj ?_)
    rw [toNanos_scale, htotal]
    have hsize : UInt64.size = 18446744073709551616 := rfl
    omega

/-! Three times a third of the largest seconds are a word, and the carry is too much for it. -/

example : (⟨6148914691236517205, 999999999, by decide, by decide⟩ : Duration).scaleInWords? 3 = some max := by
  decide +kernel

/-- Durations are compared part by part. -/
theorem le_iff_parts {a b : Duration} : a ≤ b ↔ a.secs < b.secs ∨ a.secs = b.secs ∧ a.nanos ≤ b.nanos := by
  have ha := a.nanos_lt
  have hb := b.nanos_lt
  rw [le_iff, toNanos, toNanos]
  omega

theorem shorterInWords_eq (a b : Duration) : a.shorterInWords b = a.shorter b := by
  unfold shorterInWords shorter
  simp only [le_iff_parts, UInt64.lt_iff_toNat_lt, UInt32.le_iff_toNat_le, ← UInt64.toNat_inj, toNat_secsWord,
    toNat_nanosWord]

end Duration

end Muster
