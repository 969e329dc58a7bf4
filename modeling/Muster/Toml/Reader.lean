/-
  Reading a TOML document, version 1.1.

  (1) `key?` — a key, bare, quoted or dotted;
  (2) `value depth` — a value whose brackets nest at most `depth` deep; inline tables may run over
      several lines and may end in a comma;
  (3) `line?` — one line of the document: nothing, a header, or a key and its value;
  (4) `parse` — the whole document, a byte order mark in front allowed.

  Brackets may nest 80 deep, and an integer must fit 128 bits.
-/
import Muster.Toml.Scalar
import Muster.Toml.Document

namespace Muster.Toml

/-! ## Blanks, comments, keys -/

/-- The rest after an optional comment, which runs up to the end of its line. -/
def comment? : List Char → Option (List Char)
  | '#' :: r =>
    match r.dropWhile isPlain with
    | [] => some []
    | rest => (newline? rest).map fun _ => rest
  | s => some s

/-- What follows the end of a line: blanks, an optional comment, then a line break or the end. -/
def lineEnd? (s : List Char) : Option (List Char) :=
  match comment? (skipSpace s) with
  | some [] => some []
  | some rest => newline? rest
  | none => none

/-- The text without blanks, comments and line breaks in front.  `n` bounds their number. -/
def skipFiller : Nat → List Char → Option (List Char)
  | 0, s => some s
  | n + 1, s =>
    match comment? (skipSpace s) with
    | none => none
    | some rest =>
      match newline? rest with
      | some rest => skipFiller n rest
      | none => some rest

/-- A character of a bare key. -/
def isBare (c : Char) : Bool := c.isAlphanum || c == '_' || c == '-'

/-- One part of a key. -/
def keyPart? (s : List Char) : Option (String × List Char) :=
  match s with
  | [] => none
  | c :: _ =>
    if c = '"' ∨ c = '\x27' then (lineString? s).map fun p => (String.ofList p.1, p.2)
    else if isBare c then some (String.ofList (s.takeWhile isBare), s.dropWhile isBare)
    else none

/-- **A key**: parts with dots between, blanks around the dots allowed.  `n` bounds their number. -/
def key? : Nat → List Char → Option (List String × List Char)
  | 0, _ => none
  | n + 1, s => do
    let (part, rest) ← keyPart? s
    match skipSpace rest with
    | '.' :: rest =>
      let (parts, rest) ← key? n (skipSpace rest)
      return (part :: parts, rest)
    | rest => return ([part], rest)

/-! ## Values -/

/-- A character that ends a number, a date or a word. -/
def isDelimiter (c : Char) : Bool :=
  isSpace c || c == '\n' || c == '\r' || c == '#' || c == '=' || c == ',' || c == '[' || c == ']' ||
    c == '{' || c == '}' || c == '"' || c == '\x27'

/-- A date or time as a datum: it reads as a table of one entry that no record knows. -/
def momentDatum : Datum := .table [("$moment", .other)]

/-- The largest magnitude of an integer. -/
def maxMagnitude : Int := 340282366920938463463374607431768211455

/-- The smallest integer of 128 bits. -/
def minMagnitude : Int := -170141183460469231731687303715884105728

/-- A value that starts with neither quote, bracket nor brace. -/
def atom? (s : List Char) : Option (Datum × List Char) :=
  let atom := s.takeWhile fun c => !isDelimiter c
  let rest := s.dropWhile fun c => !isDelimiter c
  if atom = "true".toList then some (.bool true, rest)
  else if atom = "false".toList then some (.bool false, rest)
  else
    match integer? atom with
    | some n => if minMagnitude ≤ n ∧ n ≤ maxMagnitude then some (.integer n, rest) else none
    | none =>
      match fraction? atom with
      | some fits => if fits then some (.other, rest) else none
      | none =>
        match moment? s with
        | some rest =>
          match rest with
          | [] => some (momentDatum, [])
          | c :: _ => if isDelimiter c then some (momentDatum, rest) else none
        | none => none

/-- A reader of one value off the front. -/
abbrev ValueReader := List Char → Option (Datum × List Char)

/-- The items of an array up to its bracket.  `n` bounds their number. -/
def items (item : ValueReader) : Nat → List Char → Option (List Datum × List Char)
  | 0, _ => none
  | n + 1, s => do
    let s ← skipFiller s.length s
    match s with
    | ']' :: rest => return ([], rest)
    | s =>
      let (v, rest) ← item s
      let rest ← skipFiller rest.length rest
      match rest with
      | ',' :: rest =>
        let (vs, rest) ← items item n rest
        return (v :: vs, rest)
      | ']' :: rest => return ([v], rest)
      | _ => none

/-- A key and its value. -/
def entry? (item : ValueReader) (s : List Char) : Option (List String × Datum × List Char) := do
  let (path, rest) ← key? (s.length + 1) s
  match skipSpace rest with
  | '=' :: rest =>
    let (v, rest) ← item (skipSpace rest)
    return (path, v, rest)
  | _ => none

/-- The entries of an inline table up to its brace, added to `ms`.  `n` bounds their number. -/
def entries (item : ValueReader) : Nat → Members → List Char → Option (Members × List Char)
  | 0, _, _ => none
  | n + 1, ms, s => do
    let s ← skipFiller s.length s
    match s with
    | '}' :: rest => return (ms, rest)
    | s =>
      let (path, v, rest) ← entry? item s
      let ms ← assignIn path v (false, ms)
      let rest ← skipFiller rest.length rest
      match rest with
      | ',' :: rest => entries item n ms rest
      | '}' :: rest => return (ms, rest)
      | _ => none

/-- **A value** whose brackets nest at most `depth` deep. -/
def value : Nat → ValueReader
  | depth, s =>
    match s with
    | '[' :: rest =>
      match depth with
      | 0 => none
      | depth + 1 =>
        (items (value depth) (rest.length + 1) rest).map fun p => (.list p.1, p.2)
    | '{' :: rest =>
      match depth with
      | 0 => none
      | depth + 1 =>
        (entries (value depth) (rest.length + 1) [] rest).map fun p =>
          (.table (membersToData p.1), p.2)
    | s =>
      if s.head? = some '"' ∨ s.head? = some '\x27' then
        (string? s).map fun p => (.text (String.ofList p.1), p.2)
      else atom? s

/-- How deep brackets may nest. -/
def maxDepth : Nat := 80

/-! ## The document -/

/-- The header that is open, and the tables so far. -/
structure Draft where
  header : List String
  root : Members

/-- The rest of a header after its key: the closing brackets, then the end of the line. -/
def headerEnd? (brackets : List Char) (s : List Char) : Option (List Char) :=
  (Text.dropLead brackets (skipSpace s)).bind lineEnd?

/-- **One line** of a document. -/
def line? (d : Draft) (s : List Char) : Option (Draft × List Char) :=
  match skipSpace s with
  | '[' :: '[' :: rest => do
    let (path, rest) ← key? (rest.length + 1) (skipSpace rest)
    let rest ← headerEnd? [']', ']'] rest
    let root ← openItem path d.root
    return (⟨path, root⟩, rest)
  | '[' :: rest => do
    let (path, rest) ← key? (rest.length + 1) (skipSpace rest)
    let rest ← headerEnd? [']'] rest
    let root ← openTable path d.root
    return (⟨path, root⟩, rest)
  | s =>
    match lineEnd? s with
    | some rest => some (d, rest)
    | none => do
      let (path, v, rest) ← entry? (value maxDepth) s
      let rest ← lineEnd? rest
      let root ← assign d.header path v d.root
      return (⟨d.header, root⟩, rest)

/-- The lines of a document.  `n` bounds their number. -/
def lines : Nat → Draft → List Char → Option Draft
  | _, d, [] => some d
  | 0, _, _ :: _ => none
  | n + 1, d, s =>
    match line? d s with
    | some (d, rest) => lines n d rest
    | none => none

/-- **A whole document**, as a table. -/
def parse (s : String) : Option Datum :=
  let cs := match s.toList with
    | '\uFEFF' :: r => r
    | r => r
  (lines (cs.length + 1) ⟨[], []⟩ cs).map fun d => .table (membersToData d.root)

end Muster.Toml
