/-
  What is written as JSON is read back.

  A value is PLAIN if its text says all of it: it holds no number but integers, and no literal that
  denotes no text.  Every value that this library writes is plain.

  (1) `string?_quote` — a string literal gives its characters back, whatever they are;
  (2) `number?_render` — an integer literal gives its sign and digits back;
  (3) `value_chars` — a plain value gives itself back, and leaves what follows;
  (4) `parse_render` — hence so does a whole text.

  THE CRUX is what may FOLLOW a value: the digits of a number end where the next symbol is no digit,
  no point and no exponent.  After a value there stands a comma, a bracket, a brace, or nothing
  (`Ends`).

  The bound of every reader is the number of symbols that it gets, and a part of a text is shorter
  than the text, so no bound is ever met.
-/
import Muster.Announcement

namespace Muster.Json

/-! ## Characters of a string literal -/

theorem hexValue?_hexDigit (n : Nat) : hexValue? (hexDigit n) = some (n % 16) := by
  have h : ∀ d < 16, hexValue? (Nat.digitChar d) = some d := by decide
  exact h (n % 16) (Nat.mod_lt n (by decide))

/-- The character of a `\u00XX` escape. -/
theorem escape?_control {c : Char} (hc : c.toNat < 32) (rest : List Symbol) :
    escape? (some 'u' :: some '0' :: some '0' :: some (hexDigit (c.toNat / 16)) ::
      some (hexDigit c.toNat) :: rest) = some (some c, 5) := by
  have hzero : hexValue? '0' = some 0 := by decide
  have hn : ((0 * 16 + 0) * 16 + c.toNat / 16 % 16) * 16 + c.toNat % 16 = c.toNat := by omega
  simp only [escape?, hex4?, hzero, hexValue?_hexDigit, Option.bind_eq_bind, Option.bind_some,
    Option.pure_def]
  rw [hn, if_neg (by omega), if_neg (by omega), Char.ofNat_toNat]

/-- **One character of a string literal** is read as itself. -/
theorem string?_escape (c : Char) (rest : List Symbol) :
    string? ((escape c).map some ++ rest) = (string? rest).map (push (some c)) := by
  unfold escape
  split
  · rename_i h; subst h; simp [string?, escape?]
  split
  · rename_i h; subst h; simp [string?, escape?]
  split
  · rename_i h; subst h; simp [string?, escape?]
  split
  · rename_i h; subst h; simp [string?, escape?]
  split
  · rename_i h; subst h; simp [string?, escape?]
  split
  · rename_i h
    obtain rfl : Char.ofNat 8 = c := by rw [← h, Char.ofNat_toNat]
    simp [string?, escape?]
  split
  · rename_i h
    obtain rfl : Char.ofNat 12 = c := by rw [← h, Char.ofNat_toNat]
    simp [string?, escape?]
  split
  · rename_i h
    simp only [List.map_cons, List.map_nil, List.cons_append, List.nil_append]
    rw [string?, if_neg (by decide), if_pos rfl, escape?_control h]
    rfl
  · rename_i hquote hslash _ _ _ _ _ hc
    simp only [List.map_cons, List.map_nil, List.cons_append, List.nil_append]
    rw [string?, if_neg hquote, if_neg hslash, if_neg hc]

/-- **A string literal gives its characters back.** -/
theorem string?_quote (s : List Char) (rest : List Symbol) :
    string? ((s.flatMap escape ++ ['"']).map some ++ rest) = some (some s, rest) := by
  induction s with
  | nil => simp [string?]
  | cons c s ih =>
    rw [List.flatMap_cons, List.append_assoc, List.map_append, List.append_assoc, string?_escape, ih]
    rfl

/-! ## Numbers -/

/-- **What may follow a value**: nothing, or a symbol that parts it from others. -/
def Ends (rest : List Symbol) : Prop :=
  ∀ s, rest.head? = some s → s = some ',' ∨ s = some ']' ∨ s = some '}'

theorem ends_nil : Ends [] := fun _ h => by cases h

theorem ends_cons {c : Char} {rest : List Symbol} (h : c = ',' ∨ c = ']' ∨ c = '}') :
    Ends (some c :: rest) := by
  intro s hs
  obtain rfl := Option.some.inj hs
  rcases h with rfl | rfl | rfl <;> simp

/-- The digits of a number end where the value ends. -/
theorem digitRun_append {ds : List Char} {rest : List Symbol} (hd : ∀ d ∈ ds, d.isDigit = true)
    (hr : Ends rest) : digitRun (ds.map some ++ rest) = (ds, rest) := by
  induction ds with
  | nil =>
    cases rest with
    | nil => rfl
    | cons s rest =>
      rcases hr s rfl with rfl | rfl | rfl <;> rfl
  | cons d ds ih =>
    have hrest := ih fun x hx => hd x (List.mem_cons_of_mem _ hx)
    simp [digitRun, hd d (List.mem_cons_self ..), hrest]

theorem fraction?_ends {rest : List Symbol} (hr : Ends rest) :
    fraction? rest = some (false, rest) := by
  cases rest with
  | nil => rfl
  | cons s rest => rcases hr s rfl with rfl | rfl | rfl <;> rfl

theorem exponent?_ends {rest : List Symbol} (hr : Ends rest) :
    exponent? rest = some (false, rest) := by
  cases rest with
  | nil => rfl
  | cons s rest => rcases hr s rfl with rfl | rfl | rfl <;> rfl

/-- The digits of a positive number do not start with a zero. -/
theorem head?_digits_ne_zero {n : Nat} (h : 0 < n) : (Decimal.digits n).head? ≠ some '0' := by
  induction n using Nat.strongRecOn with
  | ind n ih =>
    unfold Decimal.digits
    by_cases hn : n < 10
    · rw [Nat.toDigits_of_lt_base hn]
      have : ∀ d < 10, 0 < d → [Nat.digitChar d].head? ≠ some '0' := by decide
      exact this n hn h
    · rw [Nat.toDigits_of_base_le (by decide) (by omega)]
      have := ih (n / 10) (by omega) (by omega)
      cases hd : Decimal.digits (n / 10) with
      | nil => exact absurd hd (Decimal.digits_ne_nil _)
      | cons d ds =>
        rw [hd] at this
        rw [show Nat.toDigits 10 (n / 10) = d :: ds from hd]
        exact this

/-- **An integer literal gives its digits back.** -/
theorem unsigned?_digits (negative : Bool) (n : Nat) {rest : List Symbol} (hr : Ends rest) :
    unsigned? negative ((Decimal.digits n).map some ++ rest) =
      some (.whole negative n, rest) := by
  have hrun := digitRun_append (fun d hd => Decimal.isDigit_of_mem_digits (n := n) hd) hr
  unfold unsigned?
  cases hd : Decimal.digits n with
  | nil => exact absurd hd (Decimal.digits_ne_nil n)
  | cons d ds =>
    -- only zero starts with a zero
    have hzero : ¬ (d = '0' ∧ ds ≠ []) := by
      rintro ⟨rfl, hne⟩
      rcases Nat.eq_zero_or_pos n with rfl | hn
      · cases hd; exact hne rfl
      · exact head?_digits_ne_zero hn (by rw [hd]; rfl)
    rw [hd] at hrun
    have hvalue : Nat.ofDigitChars 10 (d :: ds) 0 = n := by
      rw [← hd]; exact Nat.ofDigitChars_ten_toDigits
    simp only [hrun, if_neg hzero, fraction?_ends hr, exponent?_ends hr, hvalue]
    rfl

/-- No digit is a minus sign. -/
theorem number?_digits (n : Nat) {rest : List Symbol} (hr : Ends rest) :
    number? ((Decimal.digits n).map some ++ rest) = some (.whole false n, rest) := by
  rw [← unsigned?_digits false n hr]
  cases hd : Decimal.digits n with
  | nil => exact absurd hd (Decimal.digits_ne_nil n)
  | cons d ds =>
    unfold number?
    split
    · rename_i heq
      obtain ⟨hminus, -⟩ := List.cons_eq_cons.1 heq
      have := Decimal.isDigit_of_mem_digits (n := n) (c := d) (by rw [hd]; simp)
      rw [Option.some.inj hminus] at this
      cases this
    · rfl

/-- **An integer literal gives its sign and digits back.** -/
theorem number?_render (negative : Bool) (n : Nat) {rest : List Symbol} (hr : Ends rest) :
    number? ((Number.whole negative n).render.map some ++ rest) =
      some (.whole negative n, rest) := by
  cases negative with
  | true => exact unsigned?_digits true n hr
  | false => exact number?_digits n hr

/-! ## Values -/

mutual
/-- **The text of a value says all of it.** -/
def Plain : Json → Prop
  | .number .real | .garbled => False
  | .array vs => PlainItems vs
  | .object ms => PlainMembers ms
  | _ => True

/-- Every item of an array is plain. -/
def PlainItems : List Json → Prop
  | [] => True
  | v :: vs => Plain v ∧ PlainItems vs

/-- The value of every member of an object is plain. -/
def PlainMembers : List (String × Json) → Prop
  | [] => True
  | (_, v) :: ms => Plain v ∧ PlainMembers ms
end

theorem skipBlank_cons {s : Symbol} (h : isBlank s = false) (rest : List Symbol) :
    skipBlank (s :: rest) = s :: rest := by
  rw [skipBlank, List.dropWhile_cons_of_neg (by simp [h])]

/-- What can stand at the beginning of a value. -/
def starts (c : Char) : Bool :=
  c.isDigit || c == '-' || c == '"' || c == 'n' || c == 't' || c == 'f' || c == '[' || c == '{'

theorem isBlank_of_starts {c : Char} (h : starts c = true) : isBlank (some c) = false := by
  rw [isBlank]
  have hne : c ≠ ' ' ∧ c ≠ '\n' ∧ c ≠ '\t' ∧ c ≠ '\r' := by
    refine ⟨?_, ?_, ?_, ?_⟩ <;> (rintro rfl; revert h; decide)
  simp [hne]

/-- The text of a number begins with a digit or its sign. -/
theorem number_head (negative : Bool) (n : Nat) :
    ∃ c cs, (Number.whole negative n).render = c :: cs ∧ (c.isDigit = true ∨ c = '-') := by
  cases negative with
  | true => exact ⟨'-', Decimal.digits n, rfl, .inr rfl⟩
  | false =>
    cases hd : Decimal.digits n with
    | nil => exact absurd hd (Decimal.digits_ne_nil n)
    | cons d ds =>
      exact ⟨d, ds, hd, .inl (Decimal.isDigit_of_mem_digits (n := n) (by rw [hd]; simp))⟩

/-- The text of a plain value begins as values begin. -/
theorem chars_head {v : Json} (hv : v.Plain) : ∃ c cs, v.chars = c :: cs ∧ starts c = true := by
  cases v with
  | null => exact ⟨'n', "ull".toList, rfl, rfl⟩
  | bool b =>
    cases b with
    | true => exact ⟨'t', "rue".toList, rfl, rfl⟩
    | false => exact ⟨'f', "alse".toList, rfl, rfl⟩
  | number n =>
    cases n with
    | whole negative n =>
      obtain ⟨c, cs, hc, hd | rfl⟩ := number_head negative n
      · exact ⟨c, cs, by rw [chars, hc], by simp [starts, hd]⟩
      · exact ⟨'-', cs, by rw [chars, hc], rfl⟩
    | real => exact hv.elim
  | string s => exact ⟨'"', _, by rw [chars, quote], rfl⟩
  | garbled => exact hv.elim
  | array vs => exact ⟨'[', _, by rw [chars], rfl⟩
  | object ms => exact ⟨'{', _, by rw [chars], rfl⟩

/-- A value that is neither an array nor an object is a scalar. -/
theorem value_scalar {c : Char} {depth : Nat} {rest : List Symbol} (h : starts c = true)
    (ha : c ≠ '[') (ho : c ≠ '{') : value (depth + 1) (some c :: rest) = scalar? (some c :: rest) := by
  unfold value
  rw [skipBlank_cons (isBlank_of_starts h)]
  split
  · rename_i heq
    exact absurd (Option.some.inj (List.cons_eq_cons.1 heq).1) ha
  · rename_i heq
    exact absurd (Option.some.inj (List.cons_eq_cons.1 heq).1) ho
  · rfl

theorem value_number {depth : Nat} {rest : List Symbol} (negative : Bool) (n : Nat)
    (hr : Ends rest) :
    value (depth + 1) ((Number.whole negative n).render.map some ++ rest) =
      some (.number (.whole negative n), rest) := by
  have hnum := number?_render negative n hr
  obtain ⟨c, cs, hc, hd⟩ := number_head negative n
  have hne : starts c = true ∧ c ≠ '[' ∧ c ≠ '{' ∧ c ≠ '"' ∧ c ≠ 'n' ∧ c ≠ 't' ∧ c ≠ 'f' := by
    rcases hd with hd | rfl
    · refine ⟨by simp [starts, hd], ?_, ?_, ?_, ?_, ?_, ?_⟩ <;> (rintro rfl; cases hd)
    · decide
  rw [hc, List.map_cons, List.cons_append] at hnum ⊢
  rw [value_scalar hne.1 hne.2.1 hne.2.2.1]
  unfold scalar?
  split
  · rename_i heq; exact absurd (Option.some.inj (List.cons_eq_cons.1 heq).1) hne.2.2.2.1
  · rename_i heq; exact absurd (Option.some.inj (List.cons_eq_cons.1 heq).1) hne.2.2.2.2.1
  · rename_i heq; exact absurd (Option.some.inj (List.cons_eq_cons.1 heq).1) hne.2.2.2.2.2.1
  · rename_i heq; exact absurd (Option.some.inj (List.cons_eq_cons.1 heq).1) hne.2.2.2.2.2.2
  · rw [hnum]; rfl

theorem value_string {depth : Nat} (s : String) (rest : List Symbol) :
    value (depth + 1) ((quote s.toList).map some ++ rest) = some (.string s, rest) := by
  rw [quote, List.map_cons, List.cons_append, value_scalar rfl (by decide) (by decide), scalar?,
    string?_quote]
  simp

/-- A member's name is read back, and its colon with it. -/
theorem name?_quote (k : String) (rest : List Symbol) :
    name? ((quote k.toList).map some ++ some ':' :: rest) = some (some k, rest) := by
  unfold name?
  rw [quote, List.map_cons, List.cons_append, skipBlank_cons rfl]
  simp only [string?_quote]
  rw [skipBlank_cons rfl]
  simp

/-! ## Arrays and objects -/

theorem charsItems_cons (v w : Json) (vs : List Json) :
    charsItems (v :: w :: vs) = chars v ++ ',' :: charsItems (w :: vs) := rfl

theorem charsMembers_cons (k : String) (v : Json) (m : String × Json) (ms : List (String × Json)) :
    charsMembers ((k, v) :: m :: ms) =
      quote k.toList ++ ':' :: (chars v ++ ',' :: charsMembers (m :: ms)) := rfl

theorem value_bracket (depth : Nat) (rest : List Symbol) :
    value (depth + 1) (some '[' :: rest) =
      match skipBlank rest with
      | some ']' :: rest => some (.array [], rest)
      | _ => (items (value depth) (rest.length + 1) rest).map fun p => (.array p.1, p.2) := by
  rw [value, skipBlank_cons rfl]
  rfl

theorem value_brace (depth : Nat) (rest : List Symbol) :
    value (depth + 1) (some '{' :: rest) =
      match skipBlank rest with
      | some '}' :: rest => some (.object [], rest)
      | _ =>
        (members (value depth) (rest.length + 1) rest).map fun p =>
          (p.1.elim .garbled .object, p.2) := by
  rw [value, skipBlank_cons rfl]
  rfl

/-- An array with items begins with the first of them. -/
theorem value_array {v : Json} {vs : List Json} {depth : Nat} {rest : List Symbol} (hv : v.Plain)
    (h : items (value depth)
      (((charsItems (v :: vs)).map some ++ some ']' :: rest).length + 1)
      ((charsItems (v :: vs)).map some ++ some ']' :: rest) = some (v :: vs, rest)) :
    value (depth + 1) ((chars (.array (v :: vs))).map some ++ rest) =
      some (.array (v :: vs), rest) := by
  obtain ⟨c, cs, hc, hs⟩ := chars_head hv
  have hhead : ∃ cs', charsItems (v :: vs) = c :: cs' := by
    cases vs with
    | nil => exact ⟨cs, by rw [charsItems, hc]⟩
    | cons w vs => exact ⟨_, by rw [charsItems_cons, hc, List.cons_append]⟩
  obtain ⟨cs', hcs⟩ := hhead
  have hclose : c ≠ ']' := by rintro rfl; cases hs
  rw [chars]
  simp only [List.map_cons, List.map_append, List.map_nil, List.cons_append, List.append_assoc,
    List.nil_append]
  rw [hcs, List.map_cons, List.cons_append] at h ⊢
  rw [value_bracket, skipBlank_cons (isBlank_of_starts hs)]
  split
  · rename_i heq
    exact absurd (Option.some.inj (List.cons_eq_cons.1 heq).1) hclose
  · rw [h]; rfl

/-- An object with members begins with the name of the first of them. -/
theorem value_object {m : String × Json} {ms : List (String × Json)} {depth : Nat}
    {rest : List Symbol}
    (h : members (value depth)
      (((charsMembers (m :: ms)).map some ++ some '}' :: rest).length + 1)
      ((charsMembers (m :: ms)).map some ++ some '}' :: rest) = some (some (m :: ms), rest)) :
    value (depth + 1) ((chars (.object (m :: ms))).map some ++ rest) =
      some (.object (m :: ms), rest) := by
  have hhead : ∃ cs, charsMembers (m :: ms) = '"' :: cs := by
    cases ms with
    | nil => exact ⟨_, by rw [charsMembers, quote, List.cons_append]⟩
    | cons n ms => exact ⟨_, by rw [charsMembers_cons, quote, List.cons_append]⟩
  obtain ⟨cs, hcs⟩ := hhead
  rw [chars]
  simp only [List.map_cons, List.map_append, List.map_nil, List.cons_append, List.append_assoc,
    List.nil_append]
  rw [hcs, List.map_cons, List.cons_append] at h ⊢
  rw [value_brace, skipBlank_cons rfl]
  split
  · rename_i heq
    cases (List.cons_eq_cons.1 heq).1
  · rw [h]; rfl

/-- A reader of values gives back each of some values, whatever may follow. -/
def Reads (item : ValueReader) (vs : List Json) : Prop :=
  ∀ v ∈ vs, ∀ rest, Ends rest → item (v.chars.map some ++ rest) = some (v, rest)

/-- **The items of an array are given back** by whatever gives each of them back. -/
theorem items_chars {item : ValueReader} {v : Json} {vs : List Json} (h : Reads item (v :: vs))
    {n : Nat} (hn : (charsItems (v :: vs)).length < n) (rest : List Symbol) :
    items item n ((charsItems (v :: vs)).map some ++ some ']' :: rest) =
      some (v :: vs, rest) := by
  induction vs generalizing v n with
  | nil =>
    obtain ⟨n, rfl⟩ : ∃ m, n = m + 1 := ⟨n - 1, by omega⟩
    have hone := h v (by simp) (some ']' :: rest) (ends_cons (by simp))
    rw [charsItems, items, hone]
    simp [skipBlank_cons (s := some ']') rfl]
  | cons w vs ih =>
    obtain ⟨n, rfl⟩ : ∃ m, n = m + 1 := ⟨n - 1, by omega⟩
    rw [charsItems_cons, List.length_append, List.length_cons] at hn
    have hone := h v (by simp) (some ',' :: ((charsItems (w :: vs)).map some ++ some ']' :: rest))
      (ends_cons (by simp))
    have hmore := ih (v := w) (n := n) (fun u hu => h u (List.mem_cons_of_mem _ hu)) (by omega)
    rw [charsItems_cons, items, List.map_append, List.map_cons, List.append_assoc,
      List.cons_append, hone]
    simp [skipBlank_cons (s := some ',') rfl, hmore]

/-- **The members of an object are given back**, likewise. -/
theorem members_chars {item : ValueReader} {k : String} {v : Json} {ms : List (String × Json)}
    (h : Reads item (((k, v) :: ms).map Prod.snd)) {n : Nat}
    (hn : (charsMembers ((k, v) :: ms)).length < n) (rest : List Symbol) :
    members item n ((charsMembers ((k, v) :: ms)).map some ++ some '}' :: rest) =
      some (some ((k, v) :: ms), rest) := by
  induction ms generalizing k v n with
  | nil =>
    obtain ⟨n, rfl⟩ : ∃ m, n = m + 1 := ⟨n - 1, by omega⟩
    have hone := h v (by simp) (some '}' :: rest) (ends_cons (by simp))
    rw [charsMembers, members, List.map_append, List.map_cons, List.append_assoc,
      List.cons_append, name?_quote]
    simp [hone, skipBlank_cons (s := some '}') rfl, consMember]
  | cons m ms ih =>
    obtain ⟨l, w⟩ := m
    obtain ⟨n, rfl⟩ : ∃ m, n = m + 1 := ⟨n - 1, by omega⟩
    rw [charsMembers_cons, List.length_append, List.length_cons, List.length_append,
      List.length_cons] at hn
    have hone := h v (by simp)
      (some ',' :: ((charsMembers ((l, w) :: ms)).map some ++ some '}' :: rest)) (ends_cons (by simp))
    have hmore := ih (k := l) (v := w) (n := n) (fun u hu => h u (List.mem_cons_of_mem _ hu))
      (by omega)
    rw [charsMembers_cons, members, List.map_append, List.map_cons, List.append_assoc,
      List.cons_append, name?_quote]
    simp [hone, skipBlank_cons (s := some ',') rfl, hmore, consMember]

/-- An item is no longer than all of them, and plain if they are. -/
theorem item_of_items {u : Json} {vs : List Json} (hu : u ∈ vs) (hv : PlainItems vs) :
    u.Plain ∧ u.chars.length ≤ (charsItems vs).length := by
  induction vs with
  | nil => cases hu
  | cons v vs ih =>
    have hle : v.chars.length ≤ (charsItems (v :: vs)).length ∧
        (charsItems vs).length ≤ (charsItems (v :: vs)).length := by
      cases vs with
      | nil => simp [charsItems]
      | cons w vs => simp only [charsItems_cons, List.length_append, List.length_cons]; omega
    rcases List.mem_cons.1 hu with rfl | hu
    · exact ⟨hv.1, hle.1⟩
    · have := ih hu hv.2
      exact ⟨this.1, by omega⟩

theorem item_of_members {u : Json} {ms : List (String × Json)} (hu : u ∈ ms.map Prod.snd)
    (hv : PlainMembers ms) : u.Plain ∧ u.chars.length ≤ (charsMembers ms).length := by
  induction ms with
  | nil => cases hu
  | cons m ms ih =>
    obtain ⟨k, v⟩ := m
    have hle : v.chars.length ≤ (charsMembers ((k, v) :: ms)).length ∧
        (charsMembers ms).length ≤ (charsMembers ((k, v) :: ms)).length := by
      cases ms with
      | nil => simp only [charsMembers, List.length_append, List.length_cons, List.length_nil]; omega
      | cons m ms => simp only [charsMembers_cons, List.length_append, List.length_cons]; omega
    rcases List.mem_cons.1 hu with rfl | hu
    · exact ⟨hv.1, hle.1⟩
    · have := ih hu hv.2
      exact ⟨this.1, by omega⟩

/-- **A plain value gives itself back**, and leaves what follows. -/
theorem value_chars {v : Json} (hv : v.Plain) {depth : Nat} (hd : v.chars.length < depth)
    {rest : List Symbol} (hr : Ends rest) :
    value depth (v.chars.map some ++ rest) = some (v, rest) := by
  -- the reader recurses on the depth, and a part of a text is shorter than the text
  induction depth generalizing v rest with
  | zero => omega
  | succ depth ih =>
    cases v with
    | null =>
      rw [show chars .null = ['n', 'u', 'l', 'l'] from rfl, List.map_cons, List.cons_append,
        value_scalar rfl (by decide) (by decide)]
      rfl
    | bool b =>
      cases b with
      | true =>
        rw [show chars (.bool true) = ['t', 'r', 'u', 'e'] from rfl, List.map_cons,
          List.cons_append, value_scalar rfl (by decide) (by decide)]
        rfl
      | false =>
        rw [show chars (.bool false) = ['f', 'a', 'l', 's', 'e'] from rfl, List.map_cons,
          List.cons_append, value_scalar rfl (by decide) (by decide)]
        rfl
    | number n =>
      cases n with
      | whole negative n => rw [chars]; exact value_number negative n hr
      | real => exact hv.elim
    | string s => rw [chars]; exact value_string s rest
    | garbled => exact hv.elim
    | array vs =>
      cases vs with
      | nil => rfl
      | cons v vs =>
        have hlen : (chars (.array (v :: vs))).length = (charsItems (v :: vs)).length + 2 := by
          simp [chars]
        refine value_array hv.1 (items_chars (fun u hu rest hr => ?_) ?_ rest)
        · have hu := item_of_items hu hv
          exact ih hu.1 (by omega) hr
        · simp only [List.length_append, List.length_map]; omega
    | object ms =>
      cases ms with
      | nil => rfl
      | cons m ms =>
        obtain ⟨k, v⟩ := m
        have hlen : (chars (.object ((k, v) :: ms))).length =
            (charsMembers ((k, v) :: ms)).length + 2 := by simp [chars]
        refine value_object (members_chars (fun u hu rest hr => ?_) ?_ rest)
        · have hu := item_of_members hu hv
          exact ih hu.1 (by omega) hr
        · simp only [List.length_append, List.length_map]; omega

/-! ## Whole texts -/

/-- **What is written is read back.** -/
theorem parse_render {v : Json} (hv : v.Plain) : parse (v.render.toList.map some) = some v := by
  have hdepth : v.chars.length < (v.chars.map some).length + 1 := by simp
  have h := value_chars hv hdepth ends_nil
  rw [List.append_nil] at h
  simp only [parse, render, String.toList_ofList, h]
  rfl

theorem parseBytes_render {v : Json} (hv : v.Plain) :
    parseBytes v.render.toByteArray = some v := by
  rw [parseBytes, Utf8.symbols_toByteArray, parse_render hv]

end Muster.Json

namespace Muster.Instance

/-! ## Announcements -/

/-- An instance is read out of the object that it is written as. -/
theorem ofDatum?_toJson (i : Instance) : ofDatum? (.ofJson i.toJson) = some i := by
  have hport : (i.port.toNat : Int) ≤ 65535 := by have := i.port.toNat_lt; omega
  simp [ofDatum?, toJson, Json.ofNat, Json.Number.toInt?, Datum.ofJson, Datum.ofJsonMembers,
    Datum.record?, fields, Datum.Record.required, Datum.Record.get?, List.lookup_cons, Datum.text?,
    Datum.uint16?, Datum.within?, List.countP_cons, hport]

/-- **Whoever reads an announcement reads the instance that was announced**, with all its fields. -/
theorem decode?_encode (i : Instance) : decode? i.encode.toByteArray = some i := by
  have hplain : i.toJson.Plain := by simp [toJson, Json.ofNat, Json.Plain, Json.PlainMembers]
  rw [decode?, encode, Json.parseBytes_render hplain, Option.bind_some, ofDatum?_toJson]

end Muster.Instance
