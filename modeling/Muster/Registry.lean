/-
  The cache of a registry: the members of each service by its name.

  Names are only ever ADDED: a service all of whose members are gone keeps its name, because "known, but
  without members" and "never heard of" are answered differently.

  (1) `get?` — the view: the members under a name, if the name is known.
  (2) `modify` — the one way to change the cache: it changes the members under one name, which it makes
      known if it was not.  Its single law, `get?_modify`, is all that the rest of the library uses.
-/
import Muster.Members

namespace Muster

/-- **Members by the name of their service.** -/
structure Registry where
  /-- The names with their members, in the order in which the names became known. -/
  entries : List (String × Members)
  /-- No name stands twice. -/
  distinct : (entries.map Prod.fst).Nodup

namespace Registry

/-- Nothing known. -/
def empty : Registry := ⟨[], List.nodup_nil⟩

instance : Inhabited Registry := ⟨empty⟩

/-- The members under a name, if it is known. -/
def get? (r : Registry) (name : String) : Option Members := r.entries.lookup name

/-- Whether a name is known. -/
def contains (r : Registry) (name : String) : Bool := (r.get? name).isSome

/-- The members under a name; an unknown one has none. -/
def members (r : Registry) (name : String) : Members := (r.get? name).getD .empty

/-- The known names. -/
def names (r : Registry) : List String := r.entries.map Prod.fst

/-- Puts members under a name, in its place if it has one and otherwise at the end. -/
def assign (name : String) (m : Members) : List (String × Members) → List (String × Members)
  | [] => [(name, m)]
  | (n, old) :: rest => if n = name then (n, m) :: rest else (n, old) :: assign name m rest

theorem mem_assign_names {name n : String} {m : Members} {l : List (String × Members)}
    (h : n ∈ (assign name m l).map Prod.fst) : n = name ∨ n ∈ l.map Prod.fst := by
  induction l with
  | nil => left; simpa [assign] using h
  | cons p l ih =>
    obtain ⟨k, old⟩ := p
    unfold assign at h
    split at h
    · right; simpa using h
    · rw [List.map_cons, List.mem_cons] at h
      rw [List.map_cons, List.mem_cons]
      rcases h with h | h
      · exact .inr (.inl h)
      · exact (ih h).imp id .inr

theorem nodup_assign {name : String} {m : Members} {l : List (String × Members)}
    (h : (l.map Prod.fst).Nodup) : ((assign name m l).map Prod.fst).Nodup := by
  induction l with
  | nil => simp [assign]
  | cons p l ih =>
    obtain ⟨k, old⟩ := p
    rw [List.map_cons, List.nodup_cons] at h
    unfold assign
    split
    · simpa using h
    · rename_i hk
      rw [List.map_cons, List.nodup_cons]
      refine ⟨fun hm => ?_, ih h.2⟩
      rcases mem_assign_names hm with hm | hm
      · exact hk hm
      · exact h.1 hm

theorem lookup_assign (name n : String) (m : Members) (l : List (String × Members)) :
    (assign name m l).lookup n = if n = name then some m else l.lookup n := by
  induction l with
  | nil =>
    by_cases h : n = name
    · simp [assign, h]
    · simp [assign, List.lookup_cons, h, beq_eq_false_iff_ne.2 h]
  | cons p l ih =>
    obtain ⟨k, old⟩ := p
    unfold assign
    split
    · rename_i hk
      subst hk
      by_cases h : n = k
      · simp [h]
      · simp [List.lookup_cons, h, beq_eq_false_iff_ne.2 h]
    · rename_i hk
      by_cases h : n = k
      · subst h
        simp [hk]
      · rw [List.lookup_cons, List.lookup_cons, beq_eq_false_iff_ne.2 h]
        exact ih

/-- **Changes the members under a name**, which is known afterwards. -/
def modify (r : Registry) (name : String) (f : Members → Members) : Registry :=
  ⟨assign name (f (r.members name)) r.entries, nodup_assign r.distinct⟩

/-- Makes a name known. -/
def create (r : Registry) (name : String) : Registry := r.modify name id

/-- Adds an instance under a name. -/
def insert (r : Registry) (name : String) (i : Instance) : Registry := r.modify name (·.insert i)

/-- Takes the member at an endpoint away from a name. -/
def erase (r : Registry) (name endpoint : String) : Registry := r.modify name (·.erase endpoint)

/-- Adds an instance under a name and reports whether it is new. -/
def put (r : Registry) (name : String) (i : Instance) : Bool × Registry :=
  (((r.members name).put i).1, r.insert name i)

/-- Takes the member with the instance's endpoint away from a name and reports whether there was
    one. -/
def remove (r : Registry) (name : String) (i : Instance) : Bool × Registry :=
  (((r.members name).remove i).1, r.erase name i.endpoint)

/-- Keeps, under each name, the members whose endpoints `keep` accepts. -/
def restrict (r : Registry) (keep : String → String → Bool) : Registry :=
  ⟨r.entries.map fun p => (p.1, p.2.restrict (keep p.1)), by
    rw [List.map_map]; exact r.distinct⟩

/-- Whether an endpoint is a member's under a name. -/
def has (r : Registry) (name endpoint : String) : Bool := (r.members name).has endpoint

/-! ## The view after each operation -/

@[simp] theorem get?_empty (n : String) : empty.get? n = none := rfl

/-- A change under one name is seen under that name, and under no other. -/
theorem get?_modify (r : Registry) (name n : String) (f : Members → Members) :
    (r.modify name f).get? n = if n = name then some (f (r.members name)) else r.get? n :=
  lookup_assign name n (f (r.members name)) r.entries

@[simp] theorem members_modify (r : Registry) (name n : String) (f : Members → Members) :
    (r.modify name f).members n = if n = name then f (r.members name) else r.members n := by
  unfold members
  rw [get?_modify]
  by_cases h : n = name <;> simp [h, members]

/-- A known name stays known. -/
theorem contains_modify (r : Registry) (name n : String) (f : Members → Members) :
    (r.modify name f).contains n = (r.contains n || n == name) := by
  unfold contains
  rw [get?_modify]
  by_cases h : n = name <;> simp [h]

theorem lookup_map_snd (f : String → Members → Members) (n : String)
    (l : List (String × Members)) :
    (l.map fun p => (p.1, f p.1 p.2)).lookup n = (l.lookup n).map (f n) := by
  induction l with
  | nil => rfl
  | cons p l ih =>
    obtain ⟨k, m⟩ := p
    by_cases h : n = k
    · subst h; simp
    · rw [List.map_cons, List.lookup_cons, List.lookup_cons, beq_eq_false_iff_ne.2 h]
      exact ih

/-- Restricting keeps every name. -/
theorem get?_restrict (r : Registry) (keep : String → String → Bool) (n : String) :
    (r.restrict keep).get? n = (r.get? n).map (·.restrict (keep n)) :=
  lookup_map_snd (fun n m => m.restrict (keep n)) n r.entries

@[simp] theorem members_create (r : Registry) (name n : String) :
    (r.create name).members n = r.members n := by
  unfold create
  by_cases h : n = name <;> simp [h]

@[simp] theorem has_insert (r : Registry) (name n : String) (i : Instance) (e : String) :
    (r.insert name i).has n e = (r.has n e || (n == name && i.endpoint == e)) := by
  unfold has insert
  by_cases h : n = name <;> simp [h]

@[simp] theorem has_erase (r : Registry) (name n d e : String) :
    (r.erase name d).has n e = (r.has n e && !(n == name && d == e)) := by
  unfold has erase
  by_cases h : n = name <;> simp [h, bne]

@[simp] theorem has_create (r : Registry) (name n e : String) :
    (r.create name).has n e = r.has n e := by
  simp [has]

@[simp] theorem has_restrict (r : Registry) (keep : String → String → Bool) (n e : String) :
    (r.restrict keep).has n e = (r.has n e && keep n e) := by
  unfold has members
  rw [get?_restrict]
  cases r.get? n <;> simp

/-- The member at an endpoint after an insertion: the one that was there first. -/
theorem get?_members_insert (r : Registry) (m : String) (j : Instance) (n e : String) :
    ((r.insert m j).members n).get? e =
      ((r.members n).get? e).or (if n = m ∧ e = j.endpoint then some j else none) := by
  rw [insert, members_modify]
  by_cases hn : n = m
  · subst hn
    rw [if_pos rfl, Members.get?_insert]
    by_cases he : j.endpoint = e
    · rw [if_pos he, if_pos ⟨rfl, he.symm⟩]
    · rw [if_neg he, if_neg fun h => he h.2.symm]
  · rw [if_neg hn, if_neg fun h => hn h.1, Option.or_none]

/-- — after one is taken away — -/
theorem get?_members_erase (r : Registry) (m d n e : String) :
    ((r.erase m d).members n).get? e =
      if n = m ∧ e = d then none else (r.members n).get? e := by
  rw [erase, members_modify]
  by_cases hn : n = m
  · subst hn
    rw [if_pos rfl, Members.get?_erase]
    by_cases he : d = e
    · rw [if_pos he, if_pos ⟨rfl, he.symm⟩]
    · rw [if_neg he, if_neg fun h => he h.2.symm]
  · rw [if_neg hn, if_neg fun h => hn h.1]

/-- — and after only some are kept. -/
theorem get?_members_restrict (r : Registry) (keep : String → String → Bool) (n e : String) :
    ((r.restrict keep).members n).get? e = if keep n e then (r.members n).get? e else none := by
  rw [members, get?_restrict, members]
  cases r.get? n with
  | none => simp
  | some m => exact m.get?_restrict _ e

theorem has_eq_false_iff {r : Registry} {n e : String} :
    r.has n e = false ↔ (r.members n).get? e = none := by
  rw [has, Members.has, Option.isSome_eq_false_iff, Option.isNone_iff_eq_none]

end Registry

end Muster
