/-
  Rolls of members that are handed out.

  Whoever asks for the roll of a service gets hold of it and keeps it: what one caller writes into a roll that it has
  had for long, every other one sees in its own.  So a name leads to the NUMBER of a roll, and the roll stands under
  its number.

  (1) `Members.act` — what is asked of a roll that one holds, and what is answered.
  (2) `create` — the roll of a name, a new one if it has none: the one way in which rolls come to be.  Names are only
      ever ADDED, and no roll is taken away from its name.
  (3) `act` — what is asked of all of them together.  It fails for a number that was not given out, and for nothing
      else.

  The numbers are given out in order, one for a name — this is part of the type, so that no number leads nowhere and no
  roll is that of two names.
-/
import Muster.Members

namespace Muster

/-! ## One roll -/

/-- **What is asked of a roll.** -/
inductive Members.Act where
  /-- To add an instance. -/
  | put (i : Instance)
  /-- To take the member at the endpoint of an instance away. -/
  | remove (i : Instance)
  /-- Whether the endpoint of an instance is a member's. -/
  | has (i : Instance)
  /-- How many members there are. -/
  | size
  /-- Whether there are none. -/
  | isEmpty
  /-- Which they are. -/
  | list
deriving DecidableEq, Repr

/-- **What is answered.** -/
inductive Rolls.Answer where
  | flag (b : Bool)
  | count (n : Nat)
  | instances (l : List Instance)
  | names (l : List String)
  /-- The number of a roll, if there is one. -/
  | roll (number : Option Nat)
deriving DecidableEq, Repr

/-- **The answer of a roll**, and the roll afterwards. -/
def Members.act (m : Members) : Act → Rolls.Answer × Members
  | .put i => (.flag (m.put i).1, (m.put i).2)
  | .remove i => (.flag (m.remove i).1, (m.remove i).2)
  | .has i => (.flag (m.has i.endpoint), m)
  | .size => (.count m.size, m)
  | .isEmpty => (.flag (m.size == 0), m)
  | .list => (.instances m.list, m)

/-! ## All of them -/

/-- **The rolls**, and the names that lead to them. -/
structure Rolls where
  /-- The rolls, each at its number. -/
  rolls : List Members
  /-- The number that a name leads to. -/
  numbers : List (String × Nat)
  /-- No name stands twice. -/
  distinct : (numbers.map Prod.fst).Nodup
  /-- Every roll has one name, in the order in which they were made. -/
  numbered : numbers.map Prod.snd = List.range rolls.length

namespace Rolls

/-- No rolls. -/
def empty : Rolls := ⟨[], [], List.nodup_nil, rfl⟩

instance : Inhabited Rolls := ⟨empty⟩

/-- The number of the roll of a name, if it has one. -/
def number? (d : Rolls) (name : String) : Option Nat := d.numbers.lookup name

/-- The roll under a number. -/
def roll? (d : Rolls) (number : Nat) : Option Members := d.rolls[number]?

/-- The names that have a roll. -/
def names (d : Rolls) : List String := d.numbers.map Prod.fst

theorem not_mem_names_of_number? {d : Rolls} {name : String} (h : d.number? name = none) : name ∉ d.names := by
  intro hmem
  obtain ⟨p, hp, rfl⟩ := List.mem_map.1 hmem
  simpa using List.lookup_eq_none_iff.1 h p hp

/-- Adds an empty roll, for a name that has none. -/
def append (d : Rolls) (name : String) (new : d.number? name = none) : Rolls where
  rolls := d.rolls ++ [.empty]
  numbers := d.numbers ++ [(name, d.rolls.length)]
  distinct := by
    rw [List.map_append, List.nodup_append]
    refine ⟨d.distinct, by simp, fun a ha b hb he => ?_⟩
    obtain rfl := List.mem_singleton.1 hb
    exact not_mem_names_of_number? new (he ▸ ha)
  numbered := by
    rw [List.map_append, d.numbered, List.length_append, List.length_singleton, List.range_succ]
    rfl

/-- **The number of the roll of a name**, which has one afterwards. -/
def create (d : Rolls) (name : String) : Nat × Rolls :=
  match h : d.number? name with
  | some k => (k, d)
  | none => (d.rolls.length, d.append name h)

/-- Puts a roll in the place of the one under a number. -/
def write (d : Rolls) (number : Nat) (m : Members) : Rolls where
  rolls := d.rolls.set number m
  numbers := d.numbers
  distinct := d.distinct
  numbered := by rw [List.length_set, d.numbered]

/-- **What is asked of the rolls.** -/
inductive Act where
  /-- For the roll of a name, a new one if it has none. -/
  | create (name : String)
  /-- For the roll of a name, if it has one. -/
  | find (name : String)
  /-- Whether a name has a roll. -/
  | knows (name : String)
  /-- For the names that have one. -/
  | names
  /-- Something of the roll that one holds. -/
  | on (number : Nat) (act : Members.Act)
deriving DecidableEq, Repr

/-- **The answer of the rolls**, and the rolls afterwards; there is none for a number that was not given out. -/
def act (d : Rolls) : Act → Option (Answer × Rolls)
  | .create name => some (.roll (d.create name).1, (d.create name).2)
  | .find name => some (.roll (d.number? name), d)
  | .knows name => some (.flag (d.number? name).isSome, d)
  | .names => some (.names d.names, d)
  | .on number a => (d.roll? number).map fun m => ((m.act a).1, d.write number (m.act a).2)

end Rolls

end Muster
