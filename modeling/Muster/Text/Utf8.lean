/-
  UTF-8 read with or without mercy.

  Values come out of a store as raw bytes.  Three readings of the same bytes are needed:

  (1) `text? b` — the text, when ALL of `b` is UTF-8;
  (2) `symbols b` — one entry per character, and one `none` per ill-formed piece, so that a reader of
      a format can go on past a piece it does not have to understand;
  (3) `lossy b` — the text with U+FFFD in place of each ill-formed piece, for log lines and keys.

  An ill-formed piece is the longest beginning of a well-formed character that stands at that place,
  and one byte if there is none (the "maximal subpart" rule of the Unicode standard).

  THE CRUX: on well-formed bytes the second reading is the first, character by character
  (`symbols_toByteArray`), which is all that a proof about well-formed values ever needs.
-/

namespace Muster.Utf8

/-! ## One character off the front -/

/-- A continuation byte. -/
def isTail (b : UInt8) : Bool := 0x80 ≤ b && b ≤ 0xBF

/-- What the lead byte promises: the range of the second byte and how many bytes follow the lead. -/
def lead? (b : UInt8) : Option (UInt8 × UInt8 × Nat) :=
  if 0xC2 ≤ b ∧ b ≤ 0xDF then some (0x80, 0xBF, 1)
  else if b = 0xE0 then some (0xA0, 0xBF, 2)
  else if b = 0xED then some (0x80, 0x9F, 2)
  else if 0xE1 ≤ b ∧ b ≤ 0xEF then some (0x80, 0xBF, 2)
  else if b = 0xF0 then some (0x90, 0xBF, 3)
  else if 0xF1 ≤ b ∧ b ≤ 0xF3 then some (0x80, 0xBF, 3)
  else if b = 0xF4 then some (0x80, 0x8F, 3)
  else none

/-- The payload bits of a lead byte that promises `n` more bytes. -/
def leadBits (b : UInt8) (n : Nat) : Nat :=
  match n with
  | 1 => b.toNat % 32
  | 2 => b.toNat % 16
  | _ => b.toNat % 8

/-- Reads up to `n` continuation bytes: the code point when all are there, and how many were. -/
def tails : Nat → Nat → List UInt8 → Option Nat × Nat
  | 0, acc, _ => (some acc, 0)
  | _ + 1, _, [] => (none, 0)
  | n + 1, acc, b :: bs =>
    if isTail b then
      let r := tails n (acc * 64 + b.toNat % 64) bs
      (r.1, r.2 + 1)
    else (none, 0)

/-- **The first symbol** of `b :: bs` and how many bytes of `bs` belong to it. -/
def first (b : UInt8) (bs : List UInt8) : Option Char × Nat :=
  if b < 0x80 then (some (Char.ofNat b.toNat), 0)
  else
    match lead? b, bs with
    | some (low, high, n), c :: cs =>
      if low ≤ c ∧ c ≤ high then
        let r := tails (n - 1) (leadBits b n * 64 + c.toNat % 64) cs
        (r.1.map Char.ofNat, r.2 + 1)
      else (none, 0)
    | _, _ => (none, 0)

/-- The symbols of a list of bytes. -/
def scan : List UInt8 → List (Option Char)
  | [] => []
  | b :: bs => (first b bs).1 :: scan (bs.drop (first b bs).2)
termination_by bs => bs.length
decreasing_by simp only [List.length_drop, List.length_cons]; omega

/-! ## The three readings -/

/-- The text of well-formed bytes. -/
def text? (b : ByteArray) : Option String := String.fromUTF8? b

/-- One entry per character, and `none` for each ill-formed piece. -/
def symbols (b : ByteArray) : List (Option Char) :=
  match text? b with
  | some s => s.toList.map some
  | none => scan b.data.toList

/-- The text with U+FFFD for each ill-formed piece. -/
def lossy (b : ByteArray) : String :=
  String.ofList ((symbols b).map (·.getD '\uFFFD'))

@[simp] theorem text?_toByteArray (s : String) : text? s.toByteArray = some s := by
  simp [text?, String.fromUTF8?, s.isValidUTF8]
  rfl

/-- On the bytes of a text the symbols are its characters. -/
@[simp] theorem symbols_toByteArray (s : String) : symbols s.toByteArray = s.toList.map some := by
  simp [symbols]

/-- Nothing of a text is lost. -/
@[simp] theorem lossy_toByteArray (s : String) : lossy s.toByteArray = s := by
  simp [lossy, Function.comp_def]

theorem text?_eq_some_iff {b : ByteArray} {s : String} : text? b = some s ↔ s.toByteArray = b := by
  constructor
  · intro h
    obtain ⟨hb, rfl⟩ : ∃ hb, String.fromUTF8 b hb = s := by simpa [text?, String.fromUTF8?] using h
    rfl
  · rintro rfl
    exact text?_toByteArray s

/-- **Bytes are kept EXACTLY if they are a text.** -/
theorem toByteArray_lossy_iff {b : ByteArray} : (lossy b).toByteArray = b ↔ (text? b).isSome = true := by
  constructor
  · intro h
    rw [text?_eq_some_iff.2 h]
    rfl
  · intro h
    obtain ⟨s, hs⟩ := Option.isSome_iff_exists.1 h
    rw [← text?_eq_some_iff.1 hs, lossy_toByteArray]

end Muster.Utf8
