/-
  Durations of bounded size.

  (1) A `Duration` is a number of whole seconds and of nanoseconds below a second, the seconds bounded
      by 2^64 - 1.  The largest duration is therefore 2^64 - 1 s and 999999999 ns.
  (2) Multiplication is carried out on the two parts SEPARATELY, with a carry from the nanoseconds,
      and stops at the largest duration.  `toNanos` is the one-number view: through it the
      multiplication is the product of naturals, cut off at the largest (`toNanos_scale`).
  (3) The text of a duration counts in the largest unit in which it is at least one — `3s`, `1.5ms`,
      `1µs`, `0ns` — with as many decimals as needed.
-/
import Muster.Text.Decimal

namespace Muster

/-- **A duration**: whole seconds, and nanoseconds below one second. -/
structure Duration where
  secs : Nat
  nanos : Nat
  secs_le : secs ≤ 18446744073709551615
  nanos_lt : nanos < 1000000000
deriving DecidableEq, Repr

namespace Duration

/-- No time at all. -/
def zero : Duration := ⟨0, 0, by decide, by decide⟩

instance : Inhabited Duration := ⟨zero⟩

/-- The largest duration. -/
def max : Duration := ⟨18446744073709551615, 999999999, by decide, by decide⟩

/-- Whole seconds. -/
def ofSecs (s : UInt64) : Duration :=
  ⟨s.toNat, 0, by have := s.toNat_lt; omega, by decide⟩

/-- Whole milliseconds. -/
def ofMillis (ms : UInt64) : Duration :=
  ⟨ms.toNat / 1000, ms.toNat % 1000 * 1000000,
    by have := ms.toNat_lt; omega,
    by omega⟩

/-- Seconds and any number of nanoseconds; more than fits is the largest duration. -/
def ofParts (secs nanos : Nat) : Duration :=
  if h : secs + nanos / 1000000000 ≤ 18446744073709551615 then
    ⟨secs + nanos / 1000000000, nanos % 1000000000, h, Nat.mod_lt _ (by decide)⟩
  else max

/-! ## The one-number view -/

/-- The duration in nanoseconds. -/
def toNanos (d : Duration) : Nat := d.secs * 1000000000 + d.nanos

/-- The duration in whole milliseconds, rounded down. -/
def toMillis (d : Duration) : Nat := d.secs * 1000 + d.nanos / 1000000

/-- The nanoseconds determine the duration. -/
theorem toNanos_inj {a b : Duration} (h : a.toNanos = b.toNanos) : a = b := by
  obtain ⟨as, an, _, ha⟩ := a
  obtain ⟨bs, bn, _, hb⟩ := b
  simp only [toNanos] at h
  have hs : as = bs := by omega
  have hn : an = bn := by omega
  subst hs hn; rfl

theorem toNanos_le_max (d : Duration) : d.toNanos ≤ max.toNanos := by
  have h1 := d.secs_le
  have h2 := d.nanos_lt
  simp only [toNanos, max]
  omega

theorem toNanos_ofSecs (s : UInt64) : (ofSecs s).toNanos = s.toNat * 1000000000 := by
  rw [toNanos, ofSecs, Nat.add_zero]

theorem toNanos_ofMillis (ms : UInt64) : (ofMillis ms).toNanos = ms.toNat * 1000000 := by
  simp only [toNanos, ofMillis]
  omega

theorem toNanos_ofParts (secs nanos : Nat) :
    (ofParts secs nanos).toNanos = min (secs * 1000000000 + nanos) max.toNanos := by
  unfold ofParts
  split
  · rename_i h
    simp only [toNanos, max]
    omega
  · rename_i h
    simp only [toNanos, max]
    omega

/-! ## Arithmetic and order -/

/-- **`k` times as long**, part by part: the nanoseconds carry into the seconds, and a product that
    does not fit is the largest duration. -/
def scale (d : Duration) (k : Nat) : Duration := ofParts (d.secs * k) (d.nanos * k)

/-- Scaling is multiplication, cut off at the largest duration. -/
theorem toNanos_scale (d : Duration) (k : Nat) :
    (d.scale k).toNanos = min (d.toNanos * k) max.toNanos := by
  rw [scale, toNanos_ofParts]
  congr 1
  simp only [toNanos, Nat.add_mul, Nat.mul_assoc, Nat.mul_comm k]

/-- The sum, or `none` when it does not fit. -/
def add? (a b : Duration) : Option Duration :=
  if a.toNanos + b.toNanos ≤ max.toNanos then
    some (ofParts (a.secs + b.secs) (a.nanos + b.nanos))
  else none

/-- **A sum that fits is the sum.** -/
theorem add?_eq_some_iff {a b d : Duration} : a.add? b = some d ↔ d.toNanos = a.toNanos + b.toNanos := by
  have hparts (h : a.toNanos + b.toNanos ≤ max.toNanos) :
      (ofParts (a.secs + b.secs) (a.nanos + b.nanos)).toNanos = a.toNanos + b.toNanos := by
    rw [toNanos_ofParts]
    simp only [toNanos] at h ⊢
    omega
  unfold add?
  split
  · rename_i h
    constructor
    · intro hd
      rw [← Option.some.inj hd, hparts h]
    · intro hd
      rw [toNanos_inj ((hparts h).trans hd.symm)]
  · rename_i h
    constructor
    · intro hd
      cases hd
    · intro hd
      exact absurd (hd ▸ toNanos_le_max d) h

instance : LE Duration := ⟨fun a b => a.toNanos ≤ b.toNanos⟩

instance (a b : Duration) : Decidable (a ≤ b) :=
  inferInstanceAs (Decidable (a.toNanos ≤ b.toNanos))

theorem le_iff {a b : Duration} : a ≤ b ↔ a.toNanos ≤ b.toNanos := Iff.rfl

/-- The shorter of two durations. -/
def shorter (a b : Duration) : Duration := if a ≤ b then a else b

theorem toNanos_shorter (a b : Duration) : (a.shorter b).toNanos = min a.toNanos b.toNanos := by
  unfold shorter
  split
  · rename_i h; exact (Nat.min_eq_left h).symm
  · rename_i h; exact (Nat.min_eq_right (Nat.le_of_not_le h)).symm

/-! ## The text of a duration -/

/-- `n` with leading zeros, to a width. -/
def padded (width n : Nat) : List Char :=
  let ds := Decimal.digits n
  List.replicate (width - ds.length) '0' ++ ds

/-- A whole part and a fraction of `width` digits, whose trailing zeros are not shown. -/
def decimal (whole fraction width : Nat) : String :=
  let tail := ((padded width fraction).reverse.dropWhile (· == '0')).reverse
  String.ofList (Decimal.digits whole ++ if tail = [] then [] else '.' :: tail)

/-- **The text of a duration.** -/
def text (d : Duration) : String :=
  if d.secs > 0 then decimal d.secs d.nanos 9 ++ "s"
  else if d.nanos ≥ 1000000 then decimal (d.nanos / 1000000) (d.nanos % 1000000) 6 ++ "ms"
  else if d.nanos ≥ 1000 then decimal (d.nanos / 1000) (d.nanos % 1000) 3 ++ "µs"
  else decimal d.nanos 0 0 ++ "ns"

end Duration

end Muster
