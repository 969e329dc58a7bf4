/-
  The tables of a TOML document while it is read.

  A document is a tree of tables.  WHO MAY EXTEND A TABLE depends on how it came to be:

  (1) a table under its own header `[a]` is complete — a second header for it is an error, and dotted
      keys from elsewhere may not enter it;
  (2) a table implied by a longer header `[a.b]` may still get its own header, once;
  (3) a table made by a dotted key `a.b = 1` may be extended by further dotted keys and by longer
      headers, and never gets a header of its own;
  (4) an array of tables `[[a]]` grows by one table per header, and paths lead into its LAST table;
  (5) a value — an inline table or a written-out array included — is closed.

  `enter` walks down a path and creates what is missing; the three ways of adding to a document are
  `openTable`, `openItem` and `assign`.
-/
import Muster.Datum

namespace Muster.Toml

/-- What stands under a name. -/
inductive Node where
  /-- A value. -/
  | leaf (v : Datum)
  /-- A table: whether it is only implied, whether dotted keys made it, and its members. -/
  | table (implied dotted : Bool) (members : List (String × Node))
  /-- An array of tables, the last one first. -/
  | tables (items : List (List (String × Node)))

/-- The members of a table. -/
abbrev Members := List (String × Node)

/-- The members with `v` under `k`, in the place of what stood there. -/
def Members.put (k : String) (v : Node) : Members → Members
  | [] => [(k, v)]
  | m :: ms => if m.1 = k then (k, v) :: ms else m :: put k v ms

/-- **Walks down a path** and changes the table at its end.  The table given is its members and
    whether dotted keys made it; `dotted` says whether the path is that of a dotted key. -/
def enter (dotted : Bool) : List String → (Bool × Members → Option Members) → Bool × Members →
    Option Members
  | [], change, t => change t
  | k :: ks, change, (_, ms) =>
    match ms.lookup k with
    | none => do
      let sub ← enter dotted ks change (dotted, [])
      some (Members.put k (.table true dotted sub) ms)
    | some (.leaf _) => none
    | some (.table implied made sub) =>
      if dotted && !implied then none
      else do
        let sub ← enter dotted ks change (made, sub)
        some (Members.put k (.table implied made sub) ms)
    | some (.tables []) => none
    | some (.tables (last :: older)) => do
      let last ← enter dotted ks change (false, last)
      some (Members.put k (.tables (last :: older)) ms)

/-- The path to the parent, and the last name. -/
def parting (path : List String) : Option (List String × String) :=
  match path.reverse with
  | [] => none
  | k :: ks => some (ks.reverse, k)

/-- **A header `[path]`**: the table must be new, or only implied. -/
def openTable (path : List String) (root : Members) : Option Members := do
  let (parent, k) ← parting path
  enter false parent (fun (_, ms) =>
    match ms.lookup k with
    | none => some (Members.put k (.table false false []) ms)
    | some (.table true false sub) => some (Members.put k (.table false false sub) ms)
    | some _ => none) (false, root)

/-- **A header `[[path]]`**: one more table in an array of tables. -/
def openItem (path : List String) (root : Members) : Option Members := do
  let (parent, k) ← parting path
  enter false parent (fun (_, ms) =>
    match ms.lookup k with
    | none => some (Members.put k (.tables [[]]) ms)
    | some (.tables items) => some (Members.put k (.tables ([] :: items)) ms)
    | some _ => none) (false, root)

/-- A key and its value in one table: the name must be free, and a dotted key may only end in a table
    that dotted keys made. -/
def assignIn (path : List String) (v : Datum) (t : Bool × Members) : Option Members := do
  let (parent, k) ← parting path
  enter true parent (fun (made, ms) =>
    if made = parent.isEmpty then none
    else
      match ms.lookup k with
      | none => some (Members.put k (.leaf v) ms)
      | some _ => none) t

/-- **A key and its value** under the header that is open. -/
def assign (header path : List String) (v : Datum) (root : Members) : Option Members :=
  enter false header (fun t => assignIn path v (false, t.2)) (false, root)

mutual
/-- The datum that a node is. -/
def Node.toDatum : Node → Datum
  | .leaf v => v
  | .table _ _ members => .table (membersToData members)
  | .tables items => .list (itemsToData items).reverse

/-- The data of the members of a table. -/
def membersToData : List (String × Node) → List (String × Datum)
  | [] => []
  | (k, v) :: ms => (k, v.toDatum) :: membersToData ms

/-- The data of an array of tables, in the same order. -/
def itemsToData : List (List (String × Node)) → List Datum
  | [] => []
  | t :: ts => .table (membersToData t) :: itemsToData ts
end

end Muster.Toml
