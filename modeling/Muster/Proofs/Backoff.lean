/-
  How long a policy waits.

  Between its attempts a policy waits for the base delay, doubled with each failure, and no longer than the longest
  delay.  It is computed in words, with a shift, a product that stops at the largest duration, and a minimum; what
  is wanted is a number of nanoseconds.

  (1) `delayInWords?_eq` — in words the delay is always found, for every number of failures that is a word, and it is
      the delay;
  (2) `delay_mono`, `delay_settled` — the delay grows with the failures, with the base and with the longest delay; and
      from the eleventh failure on it stays;
  (3) `delay_exact` — all of it, with the number of nanoseconds.

  THE CRUX: the delay is a minimum of numbers (`toNanos_delay`), whatever happened on the way to it, and a minimum of
  things that grow grows.
-/
import Mathlib.Algebra.Group.Nat.Defs
import Muster.Backoff
import Muster.Duration.Words

namespace Muster.Backoff

/-- **The delay after so many failures, in words**; none if a step fails that has to be right. -/
def delayInWords? (p : Backoff) (failures : UInt64) : Option Duration := do
  let factor ← Words.shifted? 1 (min (Words.minus failures 1) 10).toUInt32
  let product ← p.base.scaleInWords? factor
  return product.shorterInWords p.longest

variable {p q : Backoff} {m n : Nat}

/-! ## In words -/

/-- The doublings are counted in words as they are counted without. -/
theorem toNat_doublings (failures : UInt64) :
    (min (Words.minus failures 1) 10).toUInt32.toNat = doublings failures.toNat := by
  have hmin : (min (Words.minus failures 1) 10).toNat = doublings failures.toNat := by
    rw [Words.toNat_min, Words.toNat_minus]
    rfl
  have hle : doublings failures.toNat ≤ 10 := Nat.min_le_right ..
  rw [UInt64.toNat_toUInt32, hmin]
  exact Nat.mod_eq_of_lt (by omega)

/-- **In words the delay is always found, and it is the delay.** -/
theorem delayInWords?_eq (p : Backoff) (failures : UInt64) :
    p.delayInWords? failures = some (p.delay failures.toNat) := by
  have hbits := toNat_doublings failures
  have hle : (min (Words.minus failures 1) 10).toUInt32.toNat ≤ 10 := hbits ▸ Nat.min_le_right ..
  obtain ⟨factor, hfactor, hpow⟩ := Words.exists_shifted_one (Nat.lt_of_le_of_lt hle (by decide))
  rw [delayInWords?, hfactor, Option.bind_eq_bind, Option.bind_some, Duration.scaleInWords?_eq, Option.bind_eq_bind,
    Option.bind_some, Duration.shorterInWords_eq, hpow, hbits]
  rfl

/-! ## How it grows -/

theorem doublings_mono (h : m ≤ n) : doublings m ≤ doublings n := by
  unfold doublings
  omega

/-- **The delay grows** with the failures, with the base and with the longest delay. -/
theorem delay_mono (hn : m ≤ n) (hbase : p.base ≤ q.base) (hlongest : p.longest ≤ q.longest) :
    p.delay m ≤ q.delay n := by
  have hpow : Nat.pow 2 (doublings m) ≤ Nat.pow 2 (doublings n) :=
    Nat.pow_le_pow_right (by decide) (doublings_mono hn)
  have hproduct : p.base.toNanos * Nat.pow 2 (doublings m) ≤ q.base.toNanos * Nat.pow 2 (doublings n) :=
    Nat.mul_le_mul (Duration.le_iff.1 hbase) hpow
  rw [Duration.le_iff] at hlongest ⊢
  rw [toNanos_delay, toNanos_delay]
  omega

/-- **The delay stays**, from the eleventh failure on. -/
theorem delay_settled (p : Backoff) (hn : 11 ≤ n) : p.delay n = p.delay 11 := by
  have hdoublings : doublings n = doublings 11 := by
    unfold doublings
    omega
  rw [delay, delay, hdoublings]

/-! ## All of it -/

/-- **The delay is exact.**  After `n` failures a policy waits for its base delay, doubled once for every failure but
    the first and ten times at most, or for its longest delay if that is less, to the nanosecond.  It is found in
    words, whatever number of failures a word holds, and no step towards it fails.  Hence it is never longer than the
    longest delay, it grows with the failures, the base and the longest delay, and it is the same from the eleventh
    failure on. -/
theorem delay_exact (p : Backoff) :
    (∀ n : Nat, (p.delay n).toNanos = min (p.base.toNanos * 2 ^ min (max n 1 - 1) 10) p.longest.toNanos) ∧
    (∀ n : UInt64, p.delayInWords? n = some (p.delay n.toNat)) ∧
    (∀ n : Nat, p.delay n ≤ p.longest) ∧
    (∀ (q : Backoff) (m n : Nat), m ≤ n → p.base ≤ q.base → p.longest ≤ q.longest → p.delay m ≤ q.delay n) ∧
    ∀ n : Nat, 11 ≤ n → p.delay n = p.delay 11 := by
  refine ⟨fun n => ?_, p.delayInWords?_eq, p.delay_le_longest, fun q m n => delay_mono, fun n => p.delay_settled⟩
  have hdoublings : min (max n 1 - 1) 10 = doublings n := by
    unfold doublings
    omega
  rw [hdoublings, toNanos_delay, Nat.pow_eq]

/-- A nanosecond before the largest duration can be reached, and at it: ten doublings of the one base fit, those of the
    other do not. -/
theorem delay_exact_brink :
    let p : Backoff := ⟨3, ⟨18014398509481983, 999999999, by decide, by decide⟩, .max⟩
    let q : Backoff := ⟨3, ⟨18014398509481984, 0, by decide, by decide⟩, .max⟩
    p.base ≤ q.base ∧ p.longest ≤ q.longest ∧ (p.delay 11).toNanos + 1023 = q.longest.toNanos ∧
      q.delay 11 = .max ∧ p.delay 0 ≤ q.delay 11 ∧
      p.delayInWords? 18446744073709551615 = some (p.delay 11) := by
  intro p q
  obtain ⟨hp, hwords, -, hgrows, hsettled⟩ := delay_exact p
  obtain ⟨hq, -⟩ := delay_exact q
  refine ⟨by decide, by decide, ?_, Duration.toNanos_inj ?_, hgrows q 0 11 (by decide) (by decide) (by decide), ?_⟩
  · rw [hp]
    decide +kernel
  · rw [hq]
    decide +kernel
  · rw [hwords, hsettled _ (by decide)]

end Muster.Backoff
