/-
  What an endpoint is, as a text.

  Members are told apart by the text of their endpoint, and an instance is rebuilt from it.  So the text must determine
  the address and the port, whatever the address is — empty, with colons of its own, or in any script.

  (1) `Decimal.Spells` — how a text says a number: a plus sign or none, and digits, whose PLACES make its value;
  (2) `Decimal.read_eq_some_iff` — a number is read EXACTLY if the text says it and it is not above the limit;
      `Decimal.spells_iff` — beside the digits that are written for it, such a text has zeros in front, and nothing else;
  (3) `split_eq_some_iff` — so a text is read as an endpoint EXACTLY if it is an address with characters, the last colon,
      and a text that says a port;
  (4) `render_eq_iff` — an address and a port are determined by their text;
  (5) `endpoints_identified` — all of it, and the same for instances.

  THE CRUX: a number is written without colons, so the last colon is the one in front of the port (`Text.cutLast_append`),
  also if the address is empty.
-/
import Mathlib.Algebra.Group.Nat.Defs
import Muster.Instance
import Muster.Proofs.Cuts

namespace Muster

/-! ## Numbers -/

namespace Decimal

/-- The value of digits, by their places. -/
def value : List Char → Nat
  | [] => 0
  | c :: cs => (c.toNat - '0'.toNat) * 10 ^ cs.length + value cs

/-- **How a text says a number**: a plus sign or none, and one or more digits of this value. -/
inductive Spells : List Char → Nat → Prop
  | plain (ds : List Char) : ds ≠ [] → (∀ c ∈ ds, c.isDigit = true) → Spells ds (value ds)
  | signed (ds : List Char) : ds ≠ [] → (∀ c ∈ ds, c.isDigit = true) → Spells ('+' :: ds) (value ds)

section Reading

variable {cs ds : List Char} {n limit : Nat}

/-- Digits that are read from the left have the value of their places. -/
theorem ofDigitChars_eq_value (ds : List Char) : Nat.ofDigitChars 10 ds 0 = value ds := by
  induction ds with
  | nil => rfl
  | cons c ds ih =>
    rw [Nat.ofDigitChars_cons, Nat.ofDigitChars_eq_ofDigitChars_zero, ih, value, Nat.mul_zero, Nat.zero_add,
      Nat.mul_comm]

theorem readDigits_eq_some_iff :
    readDigits ds = some n ↔ ds ≠ [] ∧ (∀ c ∈ ds, c.isDigit = true) ∧ value ds = n := by
  unfold readDigits
  rw [ofDigitChars_eq_value, ← List.all_eq_true]
  by_cases h : ds ≠ [] ∧ ds.all Char.isDigit = true
  · rw [if_pos h, Option.some.injEq, and_iff_right h.1, and_iff_right h.2]
  · rw [if_neg h]
    exact ⟨fun he => (nomatch he), fun hd => absurd ⟨hd.1, hd.2.1⟩ h⟩

/-- What begins with a digit has no sign. -/
theorem dropPlus_of_digits (h : ∀ c ∈ ds, c.isDigit = true) : dropPlus ds = ds := by
  unfold dropPlus
  split
  · rename_i rest
    exact absurd (h '+' (List.mem_cons_self ..)) (by decide)
  · rfl

/-- A text is what is left of it without its sign, or it has one. -/
theorem dropPlus_eq_or (cs : List Char) : dropPlus cs = cs ∨ cs = '+' :: dropPlus cs := by
  unfold dropPlus
  split
  · exact .inr rfl
  · exact .inl rfl

theorem readDigits_dropPlus_iff : readDigits (dropPlus cs) = some n ↔ Spells cs n := by
  rw [readDigits_eq_some_iff]
  constructor
  · rintro ⟨hne, hdigits, rfl⟩
    rcases dropPlus_eq_or cs with h | h
    · rw [h] at hne hdigits ⊢
      exact .plain _ hne hdigits
    · rw [h]
      exact .signed _ hne hdigits
  · rintro (⟨ds, hne, hdigits⟩ | ⟨ds, hne, hdigits⟩)
    · rw [dropPlus_of_digits hdigits]
      exact ⟨hne, hdigits, rfl⟩
    · exact ⟨hne, hdigits, rfl⟩

/-- **A number is read EXACTLY if the text says it, and it is not above the limit.** -/
theorem read_eq_some_iff : read limit cs = some n ↔ Spells cs n ∧ n ≤ limit := by
  rw [read, Option.filter_eq_some_iff, readDigits_dropPlus_iff, decide_eq_true_iff]

end Reading

/-! ### What is written beside what is read -/

section Writing

variable {ds : List Char} {m n : Nat}

/-- A digit is the digit of its value. -/
theorem digitChar_of_isDigit {c : Char} (h : c.isDigit = true) :
    c.toNat - '0'.toNat < 10 ∧ Nat.digitChar (c.toNat - '0'.toNat) = c := by
  have hrange : '0'.toNat ≤ c.toNat ∧ c.toNat ≤ '9'.toNat := Char.isDigit_iff_toNat.1 h
  have hzero : '0'.toNat = 48 := rfl
  have hnine : '9'.toNat = 57 := rfl
  have hlt : c.toNat - '0'.toNat < 10 := by omega
  refine ⟨hlt, Char.toNat_inj.1 ?_⟩
  rw [Nat.toNat_digitChar_of_lt_ten hlt]
  omega

/-- Digits behind the digits of a number that is not zero continue it. -/
theorem digits_append (h : 0 < n) (hds : ∀ c ∈ ds, c.isDigit = true) :
    digits n ++ ds = digits (n * 10 ^ ds.length + value ds) := by
  induction ds generalizing n with
  | nil => simp [value]
  | cons c ds ih =>
    obtain ⟨hlt, hc⟩ := digitChar_of_isDigit (hds c (List.mem_cons_self ..))
    have hnext : digits n ++ [c] = digits (10 * n + (c.toNat - '0'.toNat)) := by
      rw [digits, digits, ← Nat.toDigits_append_toDigits (by decide) h hlt, Nat.toDigits_of_lt_base hlt, hc]
    have hvalue : (10 * n + (c.toNat - '0'.toNat)) * 10 ^ ds.length + value ds =
        n * 10 ^ (c :: ds).length + value (c :: ds) := by
      rw [value, List.length_cons, Nat.pow_succ, Nat.add_mul, Nat.mul_comm 10 n, Nat.mul_assoc, Nat.mul_comm 10,
        Nat.add_assoc]
    rw [List.append_cons, hnext, ih (by omega) fun d hd => hds d (List.mem_cons_of_mem _ hd), hvalue]

/-- **Digits are zeros, and then what is written for their value.** -/
theorem exists_zeros (hne : ds ≠ []) (hds : ∀ c ∈ ds, c.isDigit = true) :
    ∃ k, ds = List.replicate k '0' ++ digits (value ds) := by
  induction ds with
  | nil => exact absurd rfl hne
  | cons c ds ih =>
    have hrest : ∀ d ∈ ds, d.isDigit = true := fun d hd => hds d (List.mem_cons_of_mem _ hd)
    obtain ⟨hlt, hc⟩ := digitChar_of_isDigit (hds c (List.mem_cons_self ..))
    by_cases hzero : c = '0'
    · subst hzero
      cases ds with
      | nil => exact ⟨0, rfl⟩
      | cons d ds =>
        obtain ⟨k, hk⟩ := ih (List.cons_ne_nil _ _) hrest
        refine ⟨k + 1, ?_⟩
        have hvalue : value ('0' :: d :: ds) = value (d :: ds) := by simp [value]
        rw [hvalue, List.replicate_succ, List.cons_append, ← hk]
    · have hpos : 0 < c.toNat - '0'.toNat := by
        refine Nat.pos_of_ne_zero fun h => hzero ?_
        rw [← hc, h]
        rfl
      have hhead : digits (c.toNat - '0'.toNat) = [c] := by
        rw [digits, Nat.toDigits_of_lt_base hlt, hc]
      exact ⟨0, by rw [value, ← digits_append hpos hrest, hhead]; rfl⟩

theorem value_zeros (k n : Nat) : value (List.replicate k '0' ++ digits n) = n := by
  induction k with
  | zero =>
    rw [List.replicate_zero, List.nil_append, ← ofDigitChars_eq_value]
    exact Nat.ofDigitChars_ten_toDigits
  | succ k ih => rw [List.replicate_succ, List.cons_append, value, ih, Nat.sub_self, Nat.zero_mul, Nat.zero_add]

/-- **A text says a number EXACTLY if it is what is written for it**, with zeros in front, and a plus sign or none. -/
theorem spells_iff {cs : List Char} :
    Spells cs n ↔ ∃ sign k, (sign = [] ∨ sign = ['+']) ∧ cs = sign ++ List.replicate k '0' ++ digits n := by
  constructor
  · rintro (⟨ds, hne, hds⟩ | ⟨ds, hne, hds⟩)
    · obtain ⟨k, hk⟩ := exists_zeros hne hds
      exact ⟨[], k, .inl rfl, by rw [List.nil_append, ← hk]⟩
    · obtain ⟨k, hk⟩ := exists_zeros hne hds
      exact ⟨['+'], k, .inr rfl, by rw [List.append_assoc, ← hk]; rfl⟩
  · rintro ⟨sign, k, hsign, rfl⟩
    have hne : List.replicate k '0' ++ digits n ≠ [] := List.append_ne_nil_of_right_ne_nil _ (digits_ne_nil n)
    have hdigits : ∀ c ∈ List.replicate k '0' ++ digits n, c.isDigit = true := by
      intro c hc
      rcases List.mem_append.1 hc with hc | hc
      · rw [List.eq_of_mem_replicate hc]
        rfl
      · exact isDigit_of_mem_digits hc
    rw [List.append_assoc]
    rcases hsign with rfl | rfl
    · have h := Spells.plain _ hne hdigits
      rwa [value_zeros] at h
    · have h := Spells.signed _ hne hdigits
      rwa [value_zeros] at h

theorem digits_inj (h : digits m = digits n) : m = n := by
  have hread := readDigits_digits m
  rw [h, readDigits_digits] at hread
  exact (Option.some.inj hread).symm

end Writing

end Decimal

/-! ## Endpoints -/

namespace Endpoint

theorem toList_render (address : String) (port : UInt16) :
    (render address port).toList = address.toList ++ ':' :: Decimal.digits port.toNat :=
  String.toList_ofList

/-- The text of an endpoint has a slash EXACTLY when its address has. -/
theorem slash_mem_render {address : String} {port : UInt16} :
    '/' ∈ (render address port).toList ↔ '/' ∈ address.toList := by
  have hd : '/' ∉ Decimal.digits port.toNat := fun h =>
    absurd (Decimal.isDigit_of_mem_digits h) (by decide)
  simp [render, hd]

theorem render_ne_empty (address : String) (port : UInt16) : render address port ≠ "" := by
  intro h
  have := congrArg String.toList h
  simp [render] at this

/-- **Two endpoints have one text EXACTLY if they are one.** -/
theorem render_eq_iff {a b : String} {p q : UInt16} : render a p = render b q ↔ a = b ∧ p = q := by
  refine ⟨fun h => ?_, fun ⟨ha, hp⟩ => by rw [ha, hp]⟩
  have htext := congrArg String.toList h
  rw [toList_render, toList_render] at htext
  obtain ⟨haddress, hport⟩ := Text.append_last_inj htext (colon_not_mem_digits _) (colon_not_mem_digits _)
  exact ⟨String.toList_inj.1 haddress, UInt16.toNat_inj.1 (Decimal.digits_inj hport)⟩

/-- **A text is read as an endpoint EXACTLY if** it is an address with characters, the last colon, and a text that says
    a port. -/
theorem split_eq_some_iff {s a : String} {p : UInt16} :
    split s = some (a, p) ↔ ∃ (d : String) (n : Nat),
      s = a ++ ":" ++ d ∧ ':' ∉ d.toList ∧ a ≠ "" ∧ Decimal.Spells d.toList n ∧ n ≤ maxPort ∧ p.toNat = n := by
  have hcut (d : String) : s = a ++ ":" ++ d ∧ ':' ∉ d.toList ↔ Text.cutLast ':' s.toList = some (a.toList, d.toList) := by
    rw [Text.cutLast_eq_some_iff, ← String.toList_inj]
    simp
  have hport (n : Nat) (hn : n ≤ maxPort) : UInt16.ofNat n = p ↔ p.toNat = n := by
    have hlt : n < 2 ^ 16 := by unfold maxPort at hn; omega
    rw [← UInt16.toNat_inj, UInt16.toNat_ofNat_of_lt' hlt, eq_comm]
  unfold split
  constructor
  · intro h
    cases hlast : Text.cutLast ':' s.toList with
    | none => rw [hlast] at h; cases h
    | some q =>
      obtain ⟨address, port⟩ := q
      rw [hlast] at h
      dsimp only at h
      by_cases he : address = []
      · rw [if_pos he] at h
        cases h
      · rw [if_neg he] at h
        obtain ⟨n, hn, hpair⟩ := Option.map_eq_some_iff.1 h
        obtain ⟨rfl, hp⟩ := Prod.mk.inj hpair
        obtain ⟨hspells, hle⟩ := Decimal.read_eq_some_iff.1 hn
        obtain ⟨htext, hcolon⟩ := (hcut (String.ofList port)).2 (by simpa using hlast)
        exact ⟨String.ofList port, n, htext, hcolon, by simpa using he, by simpa using hspells, hle, (hport n hle).1 hp⟩
  · rintro ⟨d, n, htext, hcolon, ha, hspells, hle, hp⟩
    rw [(hcut d).1 ⟨htext, hcolon⟩]
    dsimp only
    rw [if_neg (by simpa using ha), Decimal.read_eq_some_iff.2 ⟨hspells, hle⟩, Option.map_some, String.ofList_toList,
      (hport n hle).2 hp]

end Endpoint

/-! ## Instances -/

/-- Two instances are one member EXACTLY if each is at the place of the other. -/
theorem Instance.endpoint_eq_iff {i j : Instance} : i.endpoint = j.endpoint ↔ i.isAt j.address j.port = true := by
  rw [endpoint, endpoint, Endpoint.render_eq_iff, isAt, Bool.and_eq_true, beq_iff_eq, beq_iff_eq]

open Endpoint in
/-- **The identity of endpoints.**  Two endpoints have one text exactly if address and port agree, whatever the address
    is; what was written is read back, unless the address is empty.  A text is read as an endpoint exactly if it is cut
    at its last colon into an address with characters and a port, which is a plus sign or none, and digits whose value
    is not above 65535 — those that are written for the port, with any number of zeros in front.  And two instances have
    one endpoint exactly if one is found at the address and port of the other. -/
theorem endpoints_identified :
    (∀ (a b : String) (p q : UInt16), render a p = render b q ↔ a = b ∧ p = q) ∧
    (∀ (a : String) (p : UInt16), split (render a p) = if a = "" then none else some (a, p)) ∧
    (∀ (s a : String) (p : UInt16), split s = some (a, p) ↔ ∃ (d : String) (n : Nat),
      s = a ++ ":" ++ d ∧ ':' ∉ d.toList ∧ a ≠ "" ∧ Decimal.Spells d.toList n ∧ n ≤ 65535 ∧ p.toNat = n) ∧
    (∀ (cs : List Char) (n : Nat), Decimal.Spells cs n ↔ ∃ sign k,
      (sign = [] ∨ sign = ['+']) ∧ cs = sign ++ List.replicate k '0' ++ Decimal.digits n) ∧
    ∀ i j : Instance, i.endpoint = j.endpoint ↔ i.isAt j.address j.port = true :=
  ⟨fun _ _ _ _ => render_eq_iff, split_render, fun _ _ _ => split_eq_some_iff, fun _ _ => Decimal.spells_iff,
    fun _ _ => Instance.endpoint_eq_iff⟩

/-! An address with colons, and a port with a sign and zeros in front; and a port that is one too large. -/

example : Endpoint.split "fe80::1:+000443" = some ("fe80::1", 443) := by decide +kernel

example : Endpoint.split "fe80::1:65536" = none := by decide +kernel

end Muster
