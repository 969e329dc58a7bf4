/-
  The scalars of TOML: strings, numbers, truth values, dates and times.

  Each reader takes a scalar off the front of a text and gives the rest, or refuses.

  (1) Strings — basic and literal, on one line or on many.  A basic string has escapes; in a string on
      many lines the first line break is dropped, and up to two quotes may stand before the closing
      three.
  (2) Integers — decimal with a sign, or hexadecimal, octal, binary without; underscores stand only
      BETWEEN digits, and a decimal has no leading zero.
  (3) Fractions — only their form and size are checked, because no field holds one: a number too large
      for a double is refused.
  (4) Dates and times — checked for form and for the calendar, then forgotten.
-/
import Muster.Text.Cut
import Muster.Datum

namespace Muster.Toml

/-! ## Characters -/

/-- A tab or a space. -/
def isSpace (c : Char) : Bool := c == ' ' || c == '\t'

/-- A character that may stand as it is in a comment or a literal string: no control character but
    the tab. -/
def isPlain (c : Char) : Bool := c == '\t' || (32 ≤ c.toNat && c.toNat ≠ 127)

/-- The text without tabs and spaces in front. -/
def skipSpace (s : List Char) : List Char := s.dropWhile isSpace

/-- What follows a line break at the front. -/
def newline? : List Char → Option (List Char)
  | '\n' :: r => some r
  | '\r' :: '\n' :: r => some r
  | _ => none

/-- The text without ONE line break in front. -/
def dropNewline (s : List Char) : List Char := (newline? s).getD s

/-! ## Strings -/

/-- The value of `n` hexadecimal digits at the front, and the rest. -/
def hexDigits? : Nat → Nat → List Char → Option (Nat × List Char)
  | 0, acc, s => some (acc, s)
  | _ + 1, _, [] => none
  | n + 1, acc, c :: s =>
    if c.isDigit then hexDigits? n (acc * 16 + (c.toNat - 48)) s
    else if 'a' ≤ c ∧ c ≤ 'f' then hexDigits? n (acc * 16 + (c.toNat - 87)) s
    else if 'A' ≤ c ∧ c ≤ 'F' then hexDigits? n (acc * 16 + (c.toNat - 55)) s
    else none

/-- A character given by the number of its code point, which must be a scalar value. -/
def scalarValue? (digits : Nat) (s : List Char) : Option (Char × List Char) :=
  match hexDigits? digits 0 s with
  | some (n, r) => if n.isValidChar then some (Char.ofNat n, r) else none
  | none => none

/-- **What stands after a backslash** in a basic string: the character, and the rest. -/
def escape? : List Char → Option (Char × List Char)
  | 'b' :: r => some (Char.ofNat 8, r)
  | 't' :: r => some ('\t', r)
  | 'n' :: r => some ('\n', r)
  | 'f' :: r => some (Char.ofNat 12, r)
  | 'r' :: r => some ('\r', r)
  | 'e' :: r => some (Char.ofNat 27, r)
  | '"' :: r => some ('"', r)
  | '\\' :: r => some ('\\', r)
  | 'x' :: r => scalarValue? 2 r
  | 'u' :: r => scalarValue? 4 r
  | 'U' :: r => scalarValue? 8 r
  | _ => none

/-- What a text starts with, put in front of a string that is read from the rest. -/
def push (c : Char) (p : List Char × List Char) : List Char × List Char := (c :: p.1, p.2)

/-- A basic string on one line, after its quote.  `n` bounds its length. -/
def basic? : Nat → List Char → Option (List Char × List Char)
  | 0, _ => none
  | _ + 1, [] => none
  | _ + 1, '"' :: r => some ([], r)
  | n + 1, '\\' :: r =>
    match escape? r with
    | some (c, r) => (basic? n r).map (push c)
    | none => none
  | n + 1, c :: r => if isPlain c then (basic? n r).map (push c) else none

/-- A literal string on one line, after its quote. -/
def literal? : List Char → Option (List Char × List Char)
  | [] => none
  | c :: r =>
    if c = '\x27' then some ([], r)
    else if isPlain c then (literal? r).map (push c) else none

/-- The closing quotes of a string on many lines: three end it, and up to two before them belong to
    it.  Gives those two and the rest. -/
def closing? (quote : Char) (s : List Char) : Option (List Char × List Char) :=
  let run := s.takeWhile (· == quote)
  if run.length < 3 ∨ 5 < run.length then none
  else some (run.drop 3, s.dropWhile (· == quote))

/-- The text after a backslash that ends a line: all blanks and line breaks go. -/
def joinLines? (s : List Char) : Option (List Char) :=
  match newline? (skipSpace s) with
  | some r => some (r.dropWhile fun c => isSpace c || c == '\n' || c == '\r')
  | none => none

/-- A basic string on many lines, after its three quotes.  `n` bounds its length. -/
def basicLines? : Nat → List Char → Option (List Char × List Char)
  | 0, _ => none
  | _ + 1, [] => none
  | n + 1, '"' :: r =>
    match closing? '"' ('"' :: r) with
    | some p => some p
    | none => if ('"' :: r).take 3 = ['"', '"', '"'] then none else (basicLines? n r).map (push '"')
  | n + 1, '\\' :: r =>
    match joinLines? r with
    | some r => basicLines? n r
    | none =>
      match escape? r with
      | some (c, r) => (basicLines? n r).map (push c)
      | none => none
  | n + 1, c :: r =>
    match newline? (c :: r) with
    | some rest =>
      if c = '\n' then (basicLines? n rest).map (push '\n')
      else (basicLines? n rest).map fun p => push '\r' (push '\n' p)
    | none => if isPlain c then (basicLines? n r).map (push c) else none

/-- A literal string on many lines, after its three quotes.  `n` bounds its length. -/
def literalLines? : Nat → List Char → Option (List Char × List Char)
  | 0, _ => none
  | _ + 1, [] => none
  | n + 1, c :: r =>
    if c = '\x27' then
      match closing? '\x27' (c :: r) with
      | some p => some p
      | none =>
        if (c :: r).take 3 = ['\x27', '\x27', '\x27'] then none
        else (literalLines? n r).map (push c)
    else
      match newline? (c :: r) with
      | some rest =>
        if c = '\n' then (literalLines? n rest).map (push '\n')
        else (literalLines? n rest).map fun p => push '\r' (push '\n' p)
      | none => if isPlain c then (literalLines? n r).map (push c) else none

/-- A string on one line, quotes included: the form that a key may have. -/
def lineString? : List Char → Option (List Char × List Char)
  | '"' :: r => basic? (r.length + 1) r
  | c :: r => if c = '\x27' then literal? r else none
  | [] => none

/-- **A string**, quotes included. -/
def string? (s : List Char) : Option (List Char × List Char) :=
  match Text.dropLead ['"', '"', '"'] s with
  | some r => basicLines? (r.length + 1) (dropNewline r)
  | none =>
    match Text.dropLead ['\x27', '\x27', '\x27'] s with
    | some r => literalLines? (r.length + 1) (dropNewline r)
    | none => lineString? s

/-! ## Numbers -/

/-- The digits of a run in which single underscores stand between digits only. -/
def grouped? (isDigit : Char → Bool) : List Char → Option (List Char)
  | [] => none
  | [c] => if isDigit c then some [c] else none
  | c :: '_' :: r => if isDigit c then (grouped? isDigit r).map (c :: ·) else none
  | c :: r => if isDigit c then (grouped? isDigit r).map (c :: ·) else none

/-- The value of a hexadecimal digit. -/
def hexValue (c : Char) : Nat :=
  if c.isDigit then c.toNat - 48 else if 'a' ≤ c then c.toNat - 87 else c.toNat - 55

/-- A hexadecimal digit of either case. -/
def isHexDigit (c : Char) : Bool :=
  c.isDigit || ('a' ≤ c && c ≤ 'f') || ('A' ≤ c && c ≤ 'F')

/-- The number with these digits in a base. -/
def ofDigits (base : Nat) (ds : List Char) : Nat := ds.foldl (fun n c => n * base + hexValue c) 0

/-- Decimal digits without a leading zero, other than zero itself. -/
def decimal? (s : List Char) : Option (List Char) :=
  match grouped? Char.isDigit s with
  | some ('0' :: _ :: _) => none
  | r => r

/-- A sign, true for a minus, and the rest. -/
def sign : List Char → Bool × List Char
  | '-' :: r => (true, r)
  | '+' :: r => (false, r)
  | r => (false, r)

/-- **An integer**: the whole atom. -/
def integer? (s : List Char) : Option Int :=
  match s with
  | '0' :: 'x' :: r => (grouped? isHexDigit r).map fun ds => (ofDigits 16 ds : Int)
  | '0' :: 'o' :: r =>
    (grouped? (fun c => '0' ≤ c && c ≤ '7') r).map fun ds => (ofDigits 8 ds : Int)
  | '0' :: 'b' :: r =>
    (grouped? (fun c => c == '0' || c == '1') r).map fun ds => (ofDigits 2 ds : Int)
  | s =>
    (decimal? (sign s).2).map fun ds =>
      if (sign s).1 then -(ofDigits 10 ds : Int) else (ofDigits 10 ds : Int)

/-- Whether `m * 10^e` is too large for a double: at or above the midpoint between the largest double
    and the power of two after it. -/
def exceedsDouble (m : Nat) (e : Int) : Bool :=
  let limit := Nat.pow 2 1024 - Nat.pow 2 970
  if m = 0 then false
  else if e ≥ 0 then
    if e > 400 then true else limit ≤ m * Nat.pow 10 e.toNat
  else
    let shift := e.natAbs
    if (Decimal.digits m).length < shift then false else limit * Nat.pow 10 shift ≤ m

/-- A fraction with or without an exponent: the whole atom.  Gives false when it is too large. -/
def fraction? (s : List Char) : Option Bool :=
  let body := (sign s).2
  if body = "inf".toList ∨ body = "nan".toList then some true
  else
    let isExp := fun c : Char => c == 'e' || c == 'E'
    let mantissa := body.takeWhile fun c => !isExp c
    let whole := mantissa.takeWhile (· != '.')
    let exponent : Option (Option Int) :=
      match body.dropWhile fun c => !isExp c with
      | [] => some none
      | _ :: r =>
        match grouped? Char.isDigit (sign r).2 with
        | some ds =>
          some (some (if (sign r).1 then -(ofDigits 10 ds : Int) else (ofDigits 10 ds : Int)))
        | none => none
    let part : Option (Option (List Char)) :=
      match mantissa.dropWhile (· != '.') with
      | [] => some none
      | _ :: r => (grouped? Char.isDigit r).map some
    match decimal? whole, part, exponent with
    | some _, some none, some none => none
    | some ds, some f, some e =>
      let fs := f.getD []
      some (!exceedsDouble (ofDigits 10 (ds ++ fs)) (e.getD 0 - fs.length))
    | _, _, _ => none

/-! ## Dates and times -/

/-- A number of exactly `n` digits at the front, and the rest. -/
def fixed? (n : Nat) (s : List Char) : Option (Nat × List Char) :=
  let ds := s.take n
  if ds.length = n ∧ ds.all Char.isDigit then some (ofDigits 10 ds, s.drop n) else none

/-- How many days a month has. -/
def daysIn (year month : Nat) : Nat :=
  if month = 2 then
    if year % 4 = 0 ∧ (year % 100 ≠ 0 ∨ year % 400 = 0) then 29 else 28
  else if month = 4 ∨ month = 6 ∨ month = 9 ∨ month = 11 then 30
  else 31

/-- A date of the calendar at the front. -/
def date? (s : List Char) : Option (List Char) := do
  let (year, r) ← fixed? 4 s
  let r ← Text.dropLead ['-'] r
  let (month, r) ← fixed? 2 r
  let r ← Text.dropLead ['-'] r
  let (day, r) ← fixed? 2 r
  if 1 ≤ month ∧ month ≤ 12 ∧ 1 ≤ day ∧ day ≤ daysIn year month then some r else none

/-- A time of day at the front; seconds may be missing, and a second may have decimals. -/
def time? (s : List Char) : Option (List Char) := do
  let (hour, r) ← fixed? 2 s
  let r ← Text.dropLead [':'] r
  let (minute, r) ← fixed? 2 r
  if 23 < hour ∨ 59 < minute then none
  else
    match r with
    | ':' :: r =>
      let (second, r) ← fixed? 2 r
      if 60 < second then none
      else
        match r with
        | '.' :: r =>
          if (r.takeWhile Char.isDigit) = [] then none else some (r.dropWhile Char.isDigit)
        | r => some r
    | r => some r

/-- An optional offset from universal time at the front. -/
def offset? : List Char → Option (List Char)
  | 'Z' :: r => some r
  | 'z' :: r => some r
  | c :: r =>
    if c = '+' ∨ c = '-' then do
      let (hour, r) ← fixed? 2 r
      let r ← Text.dropLead [':'] r
      let (minute, r) ← fixed? 2 r
      if hour ≤ 23 ∧ minute ≤ 59 then some r else none
    else some (c :: r)
  | [] => some []

/-- **A date, a time, or both**, off the front of a text. -/
def moment? (s : List Char) : Option (List Char) :=
  match date? s with
  | some r =>
    match r with
    | 'T' :: t => (time? t).bind offset?
    | 't' :: t => (time? t).bind offset?
    | ' ' :: d :: t => if d.isDigit then (time? (d :: t)).bind offset? else some r
    | r => some r
  | none => time? s

end Muster.Toml
