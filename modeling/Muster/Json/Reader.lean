/-
  Reading JSON.

  The grammar is RFC 8259's and nothing more: no comments, no trailing commas, no leading zeros or
  plus signs, four kinds of blank.  The input is a list of symbols — a character, or `none` for a
  piece of bytes that is no UTF-8 — and an ill-formed piece is an error everywhere except inside a
  string literal, which it turns into `Json.garbled`; an object with such a name is garbled, too.

  (1) `string?`, `number?` — the two scalar tokens;
  (2) `items`, `members` — comma-separated sequences, given a reader for one value;
  (3) `value depth` — a value whose brackets nest at most `depth` deep;
  (4) `parse` — a whole text: one value with blanks around it.

  Every list shrinks by at least one symbol per token, so the length of the input bounds both the
  nesting and the number of items: no fuel is visible from outside.
-/
import Muster.Json.Basic
import Muster.Text.Cut
import Muster.Text.Utf8

namespace Muster.Json

/-- A character, or `none` for an ill-formed piece of the input. -/
abbrev Symbol := Option Char

/-- The four blanks of JSON. -/
def isBlank (s : Symbol) : Bool :=
  s = some ' ' || s = some '\n' || s = some '\t' || s = some '\r'

/-- The input without the blanks in front. -/
def skipBlank (s : List Symbol) : List Symbol := s.dropWhile isBlank

/-! ## String literals -/

/-- The value of a hexadecimal digit of either case. -/
def hexValue? (c : Char) : Option Nat :=
  if c.isDigit then some (c.toNat - 48)
  else if 'a' ≤ c ∧ c ≤ 'f' then some (c.toNat - 87)
  else if 'A' ≤ c ∧ c ≤ 'F' then some (c.toNat - 55)
  else none

/-- Four hexadecimal digits at the front. -/
def hex4? : List Symbol → Option Nat
  | some a :: some b :: some c :: some d :: _ => do
    let a ← hexValue? a
    let b ← hexValue? b
    let c ← hexValue? c
    let d ← hexValue? d
    return ((a * 16 + b) * 16 + c) * 16 + d
  | _ => none

/-- The low half of a surrogate pair, written as an escape of its own at the front. -/
def lowHalf? : List Symbol → Option Nat
  | some '\\' :: some 'u' :: rest =>
    (hex4? rest).filter fun n => 0xDC00 ≤ n && n ≤ 0xDFFF
  | _ => none

/-- **What stands after a backslash**: the character it denotes, `none` for half a surrogate pair,
    and the number of symbols that belong to it. -/
def escape? : List Symbol → Option (Option Char × Nat)
  | some 'u' :: rest =>
    match hex4? rest with
    | none => none
    | some n =>
      if 0xD800 ≤ n ∧ n ≤ 0xDBFF then
        match lowHalf? (rest.drop 4) with
        | some low => some (some (Char.ofNat (0x10000 + (n - 0xD800) * 0x400 + (low - 0xDC00))), 11)
        | none => some (none, 5)
      else if 0xDC00 ≤ n ∧ n ≤ 0xDFFF then some (none, 5)
      else some (some (Char.ofNat n), 5)
  | some '"' :: _ => some (some '"', 1)
  | some '\\' :: _ => some (some '\\', 1)
  | some '/' :: _ => some (some '/', 1)
  | some 'b' :: _ => some (some (Char.ofNat 8), 1)
  | some 'f' :: _ => some (some (Char.ofNat 12), 1)
  | some 'n' :: _ => some (some '\n', 1)
  | some 'r' :: _ => some (some '\r', 1)
  | some 't' :: _ => some (some '\t', 1)
  | _ => none

/-- A symbol in front of the rest of a literal: one garbled symbol garbles the whole. -/
def push (s : Symbol) (p : Option (List Char) × List Symbol) : Option (List Char) × List Symbol :=
  (match s, p.1 with
    | some c, some cs => some (c :: cs)
    | _, _ => none, p.2)

/-- **The rest of a string literal** after its opening quote: its characters, or `none` when it
    denotes no text, and what follows the closing quote. -/
def string? (input : List Symbol) : Option (Option (List Char) × List Symbol) :=
  match input with
  | [] => none
  | none :: rest => (string? rest).map (push none)
  | some c :: rest =>
    if c = '"' then some (some [], rest)
    else if c = '\\' then
      match escape? rest with
      | none => none
      | some (s, n) => (string? (rest.drop n)).map (push s)
    else if c.toNat < 32 then none
    else (string? rest).map (push (some c))
termination_by input.length
decreasing_by all_goals simp only [List.length_drop, List.length_cons]; omega

/-! ## Numbers -/

/-- The run of digits at the front, and the rest. -/
def digitRun : List Symbol → List Char × List Symbol
  | some c :: rest => if c.isDigit then (c :: (digitRun rest).1, (digitRun rest).2) else ([], some c :: rest)
  | s => ([], s)

/-- The rest after an optional fraction, and whether there was one. -/
def fraction? : List Symbol → Option (Bool × List Symbol)
  | some '.' :: rest =>
    match digitRun rest with
    | ([], _) => none
    | (_, rest) => some (true, rest)
  | s => some (false, s)

/-- The rest after an optional exponent, and whether there was one. -/
def exponent? : List Symbol → Option (Bool × List Symbol)
  | some c :: rest =>
    if c = 'e' ∨ c = 'E' then
      let rest := match rest with
        | some '+' :: r => r
        | some '-' :: r => r
        | r => r
      match digitRun rest with
      | ([], _) => none
      | (_, rest) => some (true, rest)
    else some (false, some c :: rest)
  | s => some (false, s)

/-- A number without its sign. -/
def unsigned? (negative : Bool) (s : List Symbol) : Option (Number × List Symbol) :=
  match digitRun s with
  | ([], _) => none
  | (d :: ds, rest) =>
    if d = '0' ∧ ds ≠ [] then none
    else
      match fraction? rest with
      | none => none
      | some (f, rest) =>
        match exponent? rest with
        | none => none
        | some (e, rest) =>
          if f || e then some (.real, rest)
          else some (.whole negative (Nat.ofDigitChars 10 (d :: ds) 0), rest)

/-- **A number literal.** -/
def number? : List Symbol → Option (Number × List Symbol)
  | some '-' :: rest => unsigned? true rest
  | s => unsigned? false s

/-! ## Values -/

/-- A reader of one value off the front. -/
abbrev ValueReader := List Symbol → Option (Json × List Symbol)

/-- The items of an array up to its bracket: `n` bounds their number. -/
def items (item : ValueReader) : Nat → List Symbol → Option (List Json × List Symbol)
  | 0, _ => none
  | n + 1, s => do
    let (v, rest) ← item s
    match skipBlank rest with
    | some ',' :: rest =>
      let (vs, rest) ← items item n rest
      return (v :: vs, rest)
    | some ']' :: rest => return ([v], rest)
    | _ => none

/-- A member's name, up to its colon; `none` for a name that denotes no text. -/
def name? (s : List Symbol) : Option (Option String × List Symbol) :=
  match skipBlank s with
  | some '"' :: rest =>
    match string? rest with
    | some (cs, rest) =>
      match skipBlank rest with
      | some ':' :: rest => some (cs.map String.ofList, rest)
      | _ => none
    | none => none
  | _ => none

/-- A member in front of others; a name that denotes no text spoils them all. -/
def consMember (k : Option String) (v : Json) (ms : Option (List (String × Json))) :
    Option (List (String × Json)) :=
  k.bind fun k => ms.map fun ms => (k, v) :: ms

/-- The members of an object up to its brace, unless a name spoils them: `n` bounds their number. -/
def members (item : ValueReader) :
    Nat → List Symbol → Option (Option (List (String × Json)) × List Symbol)
  | 0, _ => none
  | n + 1, s => do
    let (k, rest) ← name? s
    let (v, rest) ← item rest
    match skipBlank rest with
    | some ',' :: rest =>
      let (ms, rest) ← members item n rest
      return (consMember k v ms, rest)
    | some '}' :: rest => return (consMember k v (some []), rest)
    | _ => none

/-- A word of the grammar in front. -/
def word? (word : String) (v : Json) (s : List Symbol) : Option (Json × List Symbol) :=
  (Text.dropLead (word.toList.map some) s).map fun rest => (v, rest)

/-- A value that starts with neither bracket nor brace. -/
def scalar? : ValueReader
  | some '"' :: rest =>
    (string? rest).map fun p =>
      ((match p.1 with | some cs => Json.string (String.ofList cs) | none => .garbled), p.2)
  | some 'n' :: rest => word? "null" .null (some 'n' :: rest)
  | some 't' :: rest => word? "true" (.bool true) (some 't' :: rest)
  | some 'f' :: rest => word? "false" (.bool false) (some 'f' :: rest)
  | s => (number? s).map fun p => (.number p.1, p.2)

/-- **A value** whose brackets nest less than `depth` deep. -/
def value : Nat → ValueReader
  | 0, _ => none
  | depth + 1, s =>
    match skipBlank s with
    | some '[' :: rest =>
      match skipBlank rest with
      | some ']' :: rest => some (.array [], rest)
      | _ => (items (value depth) (rest.length + 1) rest).map fun p => (.array p.1, p.2)
    | some '{' :: rest =>
      match skipBlank rest with
      | some '}' :: rest => some (.object [], rest)
      | _ =>
        (members (value depth) (rest.length + 1) rest).map fun p =>
          (p.1.elim .garbled .object, p.2)
    | s => scalar? s

/-- **A whole text**: one value, with blanks around it. -/
def parse (s : List Symbol) : Option Json :=
  match value (s.length + 1) s with
  | some (v, rest) => if skipBlank rest = [] then some v else none
  | none => none

/-- A value out of raw bytes. -/
def parseBytes (b : ByteArray) : Option Json := parse (Utf8.symbols b)

/-- A value out of a text. -/
def parseText (s : String) : Option Json := parse (s.toList.map some)

end Muster.Json
