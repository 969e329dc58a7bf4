/-
  What it is to hold a roll.

  A roll is reached in two ways: through the number that somebody was given, for however long ago, and through the name
  that leads to it.  Both lead to the same members.

  (1) `number?_inj`, `exists_number?_iff` — numbers are those of rolls, and each is that of one name;
  (2) `members` — what stands under a name, and what the operations do to it: `members_create`, `members_write`;
  (3) `act_on` — a roll that one holds answers as the members under its name do;
  (4) `registry` — members by the name of their service, as the backends keep them, are what one sees of the rolls, and
      `registry_commutes`: it makes no difference for how long one has held a roll.

  THE CRUX: a write to a number is a write to a NAME, since no number is that of two; everything else is looking up.
-/
import Mathlib.Data.List.Nodup
import Muster.Registry
import Muster.Rolls

namespace Muster

/-! ## Names and numbers -/

namespace Rolls

section Numbers

variable {d : Rolls} {m n : String} {j k : Nat}

theorem number?_eq_some_iff : d.number? n = some k ↔ (n, k) ∈ d.numbers := by
  have hdistinct := d.distinct
  rw [number?]
  revert hdistinct
  generalize d.numbers = l
  intro hdistinct
  induction l with
  | nil => simp
  | cons p l ih =>
    obtain ⟨name, number⟩ := p
    rw [List.map_cons, List.nodup_cons] at hdistinct
    by_cases h : n = name
    · subst h
      have hnot : (n, k) ∉ l := fun hmem => hdistinct.1 (List.mem_map.2 ⟨_, hmem, rfl⟩)
      simp [hnot, eq_comm]
    · rw [List.lookup_cons, beq_eq_false_iff_ne.2 h]
      simpa [h] using ih hdistinct.2

theorem mem_names_iff : n ∈ d.names ↔ ∃ k, d.number? n = some k := by
  simp only [number?_eq_some_iff, names, List.mem_map, Prod.exists, exists_and_right, exists_eq_right]

/-- A number is given out EXACTLY if it is that of a roll, -/
theorem exists_number?_iff : (∃ n, d.number? n = some k) ↔ k < d.rolls.length := by
  have hmem : k ∈ d.numbers.map Prod.snd ↔ k < d.rolls.length := by rw [d.numbered, List.mem_range]
  simp only [number?_eq_some_iff, ← hmem, List.mem_map, Prod.exists, exists_eq_right]

/-- and no two names lead to one. -/
theorem number?_inj (hm : d.number? m = some k) (hn : d.number? n = some k) : m = n := by
  have hnodup : (d.numbers.map Prod.snd).Nodup := by
    rw [d.numbered]
    exact List.nodup_range
  have hpair := List.inj_on_of_nodup_map hnodup (number?_eq_some_iff.1 hm) (number?_eq_some_iff.1 hn) rfl
  exact congrArg Prod.fst hpair

/-- The roll of a name is there, once and for all. -/
theorem create_of_some (h : d.number? n = some k) : d.create n = (k, d) := by
  unfold create
  split
  · rename_i hk
    rw [Option.some.inj (hk.symm.trans h)]
  · rename_i hnone
    cases hnone.symm.trans h

theorem create_of_none (h : d.number? n = none) : d.create n = (d.rolls.length, d.append n h) := by
  unfold create
  split
  · rename_i hk
    cases hk.symm.trans h
  · rfl

theorem number?_append (h : d.number? m = none) (n : String) :
    (d.append m h).number? n = if n = m then some d.rolls.length else d.number? n := by
  show (d.numbers ++ [(m, d.rolls.length)]).lookup n = _
  rw [List.lookup_append, ← number?]
  by_cases hn : n = m
  · rw [hn, h]
    simp
  · simp [hn, List.lookup_cons, beq_eq_false_iff_ne.2 hn]

/-- **Only a name that is created gets a number**, and it keeps the one that it has. -/
theorem number?_create (d : Rolls) (m n : String) :
    (d.create m).2.number? n = if n = m then some (d.create m).1 else d.number? n := by
  cases h : d.number? m with
  | some k =>
    rw [create_of_some h]
    split
    · rename_i hn
      rw [hn, h]
    · rfl
  | none => rw [create_of_none h, number?_append]

end Numbers

/-! ## The members under a name -/

/-- The members under a name; one without a roll has none. -/
def members (d : Rolls) (name : String) : Members := ((d.number? name).bind d.roll?).getD .empty

section Members

variable {d : Rolls} {m n : String} {k : Nat} {x : Members}

theorem roll?_of_number? (h : d.number? n = some k) : d.roll? k = some (d.members n) := by
  have hlt : k < d.rolls.length := exists_number?_iff.1 ⟨n, h⟩
  rw [members, h, Option.bind_some, roll?, List.getElem?_eq_getElem hlt, Option.getD_some]

theorem members_eq (h : d.number? n = some k) (hx : d.roll? k = some x) : d.members n = x := by
  rw [members, h, Option.bind_some, hx, Option.getD_some]

theorem members_of_none (h : d.number? n = none) : d.members n = .empty := by
  rw [members, h, Option.bind_none, Option.getD_none]

/-- A new roll is empty, and no other one changes. -/
theorem members_create (d : Rolls) (m n : String) : (d.create m).2.members n = d.members n := by
  cases h : d.number? m with
  | some k => rw [create_of_some h]
  | none =>
    rw [create_of_none h]
    by_cases hn : n = m
    · subst hn
      have hnumber : (d.append n h).number? n = some d.rolls.length := (number?_append h n).trans (if_pos rfl)
      have hroll : (d.append n h).roll? d.rolls.length = some .empty := List.getElem?_concat_length
      rw [members_eq hnumber hroll, members_of_none h]
    · have hnumber : (d.append m h).number? n = d.number? n := (number?_append h n).trans (if_neg hn)
      cases hk : d.number? n with
      | none => rw [members_of_none (hnumber.trans hk), members_of_none hk]
      | some k =>
        have hlt : k < d.rolls.length := exists_number?_iff.1 ⟨n, hk⟩
        have hroll : (d.append m h).roll? k = some (d.members n) :=
          (List.getElem?_append_left hlt).trans (roll?_of_number? hk)
        exact members_eq (hnumber.trans hk) hroll

/-- **What is written into a roll is seen under its name**, and under no other. -/
theorem members_write (h : d.number? m = some k) (x : Members) (n : String) :
    (d.write k x).members n = if n = m then x else d.members n := by
  have hnumber : (d.write k x).number? n = d.number? n := rfl
  by_cases hn : n = m
  · subst hn
    have hlt : k < d.rolls.length := exists_number?_iff.1 ⟨n, h⟩
    have hroll : (d.write k x).roll? k = some x := List.getElem?_set_self hlt
    rw [members_eq (hnumber.trans h) hroll, if_pos rfl]
  · rw [if_neg hn]
    cases hj : d.number? n with
    | none => rw [members_of_none (hnumber.trans hj), members_of_none hj]
    | some j =>
      have hne : k ≠ j := fun he => hn (number?_inj hj (he ▸ h))
      have hroll : (d.write k x).roll? j = some (d.members n) :=
        (List.getElem?_set_ne hne).trans (roll?_of_number? hj)
      exact members_eq (hnumber.trans hj) hroll

/-- Nothing is changed by writing what is there. -/
theorem write_self (h : d.number? n = some k) : d.write k (d.members n) = d := by
  have hlt : k < d.rolls.length := exists_number?_iff.1 ⟨n, h⟩
  have hroll := roll?_of_number? h
  rw [roll?, List.getElem?_eq_getElem hlt] at hroll
  have hset : d.rolls.set k (d.members n) = d.rolls := by
    rw [← Option.some.inj hroll, List.set_getElem_self]
  cases d
  simp only [write, Rolls.mk.injEq, and_true]
  exact hset

/-- A roll that one holds answers as the members under its name do. -/
theorem act_on (h : d.number? n = some k) (b : Members.Act) :
    d.act (.on k b) = some (((d.members n).act b).1, d.write k ((d.members n).act b).2) := by
  rw [act, roll?_of_number? h, Option.map_some]

end Members

/-! ## The cache of the backends -/

/-- **What one sees of the rolls**: the members by the name of their service. -/
def registry (d : Rolls) : Registry where
  entries := d.names.map fun n => (n, d.members n)
  distinct := by
    rw [List.map_map, show Prod.fst ∘ (fun n => (n, d.members n)) = id from rfl, List.map_id]
    exact d.distinct

section View

variable {d : Rolls} {m n : String} {k : Nat}

theorem get?_registry (d : Rolls) (n : String) :
    d.registry.get? n = if n ∈ d.names then some (d.members n) else none := by
  show (d.names.map fun n => (n, d.members n)).lookup n = _
  induction d.names with
  | nil => rfl
  | cons name names ih =>
    by_cases h : n = name
    · simp [h]
    · rw [List.map_cons, List.lookup_cons, beq_eq_false_iff_ne.2 h, ih]
      simp [h]

theorem members_registry (d : Rolls) (n : String) : d.registry.members n = d.members n := by
  rw [Registry.members, get?_registry]
  split
  · rfl
  · rename_i hn
    have hnone : d.number? n = none :=
      Option.eq_none_iff_forall_ne_some.2 fun k hk => hn (mem_names_iff.2 ⟨k, hk⟩)
    rw [members_of_none hnone, Option.getD_none]

/-- **It makes no difference for how long a roll has been held**: to make one, and to write into one, is to make the
    name known, and to write under it. -/
theorem registry_commutes (d : Rolls) (m n : String) :
    (d.create m).2.registry.get? n = (d.registry.create m).get? n ∧
    ∀ k, d.number? m = some k → ∀ i,
      (∃ d', d.act (.on k (.put i)) = some (.flag (d.registry.put m i).1, d') ∧
        d'.registry.get? n = (d.registry.put m i).2.get? n) ∧
      ∃ d', d.act (.on k (.remove i)) = some (.flag (d.registry.remove m i).1, d') ∧
        d'.registry.get? n = (d.registry.remove m i).2.get? n := by
  have hwrite {k : Nat} (hk : d.number? m = some k) (f : Members → Members) :
      (d.write k (f (d.members m))).registry.get? n = (d.registry.modify m f).get? n := by
    have hnames : (d.write k (f (d.members m))).names = d.names := rfl
    rw [get?_registry, hnames, members_write hk, Registry.get?_modify, members_registry, get?_registry]
    by_cases hn : n = m
    · rw [if_pos (hn ▸ mem_names_iff.2 ⟨k, hk⟩), if_pos hn, if_pos hn]
    · rw [if_neg hn, if_neg hn]
  refine ⟨?_, fun k hk i => ⟨⟨_, ?_, hwrite hk (·.insert i)⟩, ⟨_, ?_, hwrite hk (·.erase i.endpoint)⟩⟩⟩
  · have hname : n ∈ (d.create m).2.names ↔ n = m ∨ n ∈ d.names := by
      simp only [mem_names_iff, number?_create]
      by_cases hn : n = m <;> simp [hn]
    rw [get?_registry, members_create, Registry.create, Registry.get?_modify, members_registry, get?_registry]
    by_cases hn : n = m
    · rw [if_pos (hname.2 (.inl hn)), if_pos hn, hn]
      rfl
    · simp [hname, hn]
  · rw [act_on hk, Registry.put, members_registry]
    rfl
  · rw [act_on hk, Registry.remove, members_registry]
    rfl

end View

end Rolls

end Muster
