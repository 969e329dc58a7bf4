/-
  JSON values and their compact text.

  (1) `Json` — the values.  A number is kept by its CLASS: an integer literal with its sign and
      magnitude, or any other literal.  `garbled` is a string literal that denotes no text (a lone
      surrogate, or bytes that are not UTF-8), or an object with such a name: it may stand where a
      value is skipped.
  (2) `render` — the compact text: no blanks, members in the order given, and in strings exactly the
      quote, the backslash and the control characters below U+0020 escaped.
  (3) `sortMembers` — the same value with the members of every object in the order of their names.
-/
import Muster.Text.Decimal

namespace Muster

/-! ## Values -/

/-- What is kept of a number literal. -/
inductive Json.Number where
  /-- An integer literal: whether a minus sign stands in front, and the digits' value. -/
  | whole (negative : Bool) (magnitude : Nat)
  /-- A literal with a fraction or an exponent. -/
  | real
deriving DecidableEq, Repr

/-- A JSON value. -/
inductive Json where
  | null
  | bool (b : Bool)
  | number (n : Json.Number)
  | string (s : String)
  | garbled
  | array (items : List Json)
  | object (members : List (String × Json))
deriving Repr, Inhabited

namespace Json

/-- **The integer a literal denotes.**  Minus zero is not an integer: the sign would be lost. -/
def Number.toInt? : Number → Option Int
  | .whole false m => some m
  | .whole true 0 => none
  | .whole true (m + 1) => some (-(m + 1 : Int))
  | .real => none

/-- An integer as a JSON number. -/
def ofInt (n : Int) : Json := .number (.whole (n < 0) n.natAbs)

/-- A natural number as a JSON number. -/
def ofNat (n : Nat) : Json := .number (.whole false n)

/-- An optional value, `null` standing for its absence. -/
def ofOption {α : Type} (f : α → Json) : Option α → Json
  | none => .null
  | some a => f a

/-- An array of texts. -/
def strings (l : List String) : Json := .array (l.map .string)

/-! ## The compact text -/

/-- A hexadecimal digit, in lower case. -/
def hexDigit (n : Nat) : Char := Nat.digitChar (n % 16)

/-- **One character inside a string literal.** -/
def escape (c : Char) : List Char :=
  if c = '"' then ['\\', '"']
  else if c = '\\' then ['\\', '\\']
  else if c = '\n' then ['\\', 'n']
  else if c = '\r' then ['\\', 'r']
  else if c = '\t' then ['\\', 't']
  else if c.toNat = 8 then ['\\', 'b']
  else if c.toNat = 12 then ['\\', 'f']
  else if c.toNat < 32 then
    ['\\', 'u', '0', '0', hexDigit (c.toNat / 16), hexDigit c.toNat]
  else [c]

/-- A string literal. -/
def quote (s : List Char) : List Char := '"' :: (s.flatMap escape ++ ['"'])

/-- The text of a number: digits with their sign.  Other literals are never written. -/
def Number.render : Number → List Char
  | .whole negative m => (if negative then ['-'] else []) ++ Decimal.digits m
  | .real => ['0', '.', '0']

mutual
/-- **The compact text of a value.** -/
def chars : Json → List Char
  | .null => "null".toList
  | .bool true => "true".toList
  | .bool false => "false".toList
  | .number n => n.render
  | .string s => quote s.toList
  | .garbled => quote []
  | .array items => '[' :: (charsItems items ++ [']'])
  | .object members => '{' :: (charsMembers members ++ ['}'])

/-- The items of an array, with commas between. -/
def charsItems : List Json → List Char
  | [] => []
  | [v] => chars v
  | v :: vs => chars v ++ ',' :: charsItems vs

/-- The members of an object, with commas between. -/
def charsMembers : List (String × Json) → List Char
  | [] => []
  | [(k, v)] => quote k.toList ++ ':' :: chars v
  | (k, v) :: ms => quote k.toList ++ ':' :: (chars v ++ ',' :: charsMembers ms)
end

/-- The compact text of a value, as a string. -/
def render (v : Json) : String := String.ofList v.chars

/-! ## Members in the order of their names -/

mutual
/-- The value with the members of every object, at any depth, in the order of their names. -/
def sortMembers : Json → Json
  | .array items => .array (sortItems items)
  | .object members => .object ((sortValues members).mergeSort fun a b => a.1 ≤ b.1)
  | v => v

/-- `sortMembers` on each item. -/
def sortItems : List Json → List Json
  | [] => []
  | v :: vs => sortMembers v :: sortItems vs

/-- `sortMembers` on each member's value. -/
def sortValues : List (String × Json) → List (String × Json)
  | [] => []
  | (k, v) :: ms => (k, sortMembers v) :: sortValues ms
end

end Json

end Muster
