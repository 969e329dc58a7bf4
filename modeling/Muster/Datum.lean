/-
  Data without types, and records read out of them.

  Configuration comes as TOML or as JSON.  Both are first reduced to a `Datum`; a record is then read
  out of a datum, field by field, in ONE way for both formats:

  (1) A table gives each field by its name; names that the record does not know are skipped, and a
      known name must not stand twice.
  (2) A list gives the fields by their position; fields at the end may be missing.
  (3) A missing field takes its default, and without one the whole record is refused.

  What the two formats do NOT share is in `Format`: whether a list may be longer than the record, and
  what may stand beside a name where a choice of names is written as a table of one entry.
-/
import Muster.Json.Basic

namespace Muster

/-- Data without types. -/
inductive Datum where
  | null
  | bool (b : Bool)
  | integer (n : Int)
  | text (s : String)
  | list (items : List Datum)
  | table (members : List (String × Datum))
  /-- Something that no field can hold: a fraction, or a string that denotes no text. -/
  | other
deriving Repr, Inhabited

namespace Datum

/-- The rules in which the formats differ. -/
structure Format where
  /-- Whether a list may hold more than the record has fields. -/
  surplus : Bool
  /-- What may stand beside the name of a choice. -/
  payload : Datum → Bool

/-- JSON: lists are exact, and beside the name of a choice stands `null`. -/
def Format.json : Format where
  surplus := false
  payload
    | .null => true
    | _ => false

/-- TOML: lists may be longer, and beside the name of a choice stands something empty. -/
def Format.toml : Format where
  surplus := true
  payload
    | .list [] => true
    | .table [] => true
    | _ => false

mutual
/-- A JSON value as a datum. -/
def ofJson : Json → Datum
  | .null => .null
  | .bool b => .bool b
  | .number n => match n.toInt? with
    | some i => .integer i
    | none => .other
  | .string s => .text s
  | .garbled => .other
  | .array items => .list (ofJsonItems items)
  | .object members => .table (ofJsonMembers members)

/-- The items of a JSON array as data. -/
def ofJsonItems : List Json → List Datum
  | [] => []
  | v :: vs => ofJson v :: ofJsonItems vs

/-- The members of a JSON object as data. -/
def ofJsonMembers : List (String × Json) → List (String × Datum)
  | [] => []
  | (k, v) :: ms => (k, ofJson v) :: ofJsonMembers ms
end

/-! ## Scalars -/

/-- A text. -/
def text? : Datum → Option String
  | .text s => some s
  | _ => none

/-- A truth value. -/
def bool? : Datum → Option Bool
  | .bool b => some b
  | _ => none

/-- An integer between two bounds, inclusive. -/
def within? (low high : Int) : Datum → Option Int
  | .integer n => if low ≤ n ∧ n ≤ high then some n else none
  | _ => none

/-- An unsigned integer of 16 bits. -/
def uint16? (d : Datum) : Option UInt16 := (d.within? 0 65535).map fun n => UInt16.ofNat n.toNat

/-- An unsigned integer of 64 bits. -/
def uint64? (d : Datum) : Option UInt64 :=
  (d.within? 0 18446744073709551615).map fun n => UInt64.ofNat n.toNat

/-- A signed integer of 64 bits. -/
def int64? (d : Datum) : Option Int := d.within? (-9223372036854775808) 9223372036854775807

/-- What `read` makes of a datum that is not null; null is absence. -/
def optional {α : Type} (read : Datum → Option α) : Datum → Option (Option α)
  | .null => some none
  | d => (read d).map some

/-- **A choice of names**: the name itself, or a table whose one entry carries it. -/
def choice? (f : Format) : Datum → Option String
  | .text s => some s
  | .table [(k, v)] => if f.payload v then some k else none
  | _ => none

/-! ## Records -/

/-- The contents of a record before its fields are read. -/
inductive Record where
  | named (members : List (String × Datum))
  | listed (fields : List String) (items : List Datum)

/-- **The record in a datum**, given the names of its fields in their order. -/
def record? (f : Format) (fields : List String) : Datum → Option Record
  | .table members =>
    if fields.all fun k => members.countP (fun m => m.1 == k) ≤ 1 then some (.named members)
    else none
  | .list items =>
    if f.surplus || items.length ≤ fields.length then some (.listed fields items) else none
  | _ => none

/-- The datum of a field, if it is there. -/
def Record.get? (field : String) : Record → Option Datum
  | .named members => members.lookup field
  | .listed fields items => items[fields.idxOf field]?

/-- A field that must be there. -/
def Record.required {α : Type} (r : Record) (field : String) (read : Datum → Option α) : Option α :=
  (r.get? field).bind read

/-- A field with a default. -/
def Record.withDefault {α : Type} (r : Record) (field : String) (read : Datum → Option α)
    (default : α) : Option α :=
  match r.get? field with
  | none => some default
  | some d => read d

end Datum

end Muster
