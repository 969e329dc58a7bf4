/-
  The members of one service.

  A `Members` holds instances with PAIRWISE DISTINCT endpoints — the distinctness is part of the type.
  Two instances with the same endpoint are the same member, whatever their names say, so

  (1) `insert` keeps the instance that was there first;
  (2) `erase` removes by endpoint;
  (3) `put` and `remove` are the same two steps, and report whether anything changed.

  Everything is said through one view, `get?`: the instance at an endpoint, if there is one.  `has` is
  the question whether there is.
-/
import Muster.Instance

namespace Muster

/-- **The members of a service**, one instance for an endpoint. -/
structure Members where
  /-- The instances, longest known first. -/
  list : List Instance
  /-- No endpoint stands twice. -/
  distinct : (list.map Instance.endpoint).Nodup

namespace Members

/-- No members. -/
def empty : Members := ⟨[], List.nodup_nil⟩

instance : Inhabited Members := ⟨empty⟩

/-- How many members there are. -/
def size (m : Members) : Nat := m.list.length

/-- The instance at an endpoint. -/
def get? (m : Members) (endpoint : String) : Option Instance :=
  m.list.find? fun i => i.endpoint == endpoint

/-- Whether an endpoint is a member's. -/
def has (m : Members) (endpoint : String) : Bool := (m.get? endpoint).isSome

theorem has_eq_false_iff {m : Members} {e : String} :
    m.has e = false ↔ e ∉ m.list.map Instance.endpoint := by
  simp [has, get?]

/-- **Adds an instance**, unless its endpoint is a member's already. -/
def insert (m : Members) (i : Instance) : Members :=
  if h : m.has i.endpoint = false then
    ⟨m.list ++ [i], by
      have := has_eq_false_iff.1 h
      rw [List.map_append, List.nodup_append]
      refine ⟨m.distinct, by simp, ?_⟩
      intro a ha b hb hab
      have hb : b = i.endpoint := by simpa using hb
      exact this (hb ▸ hab ▸ ha)⟩
  else m

/-- **Takes a member away** by its endpoint. -/
def erase (m : Members) (endpoint : String) : Members :=
  ⟨m.list.filter fun i => i.endpoint != endpoint,
    m.distinct.sublist (List.filter_sublist.map _)⟩

/-- Keeps the members whose endpoints `keep` accepts. -/
def restrict (m : Members) (keep : String → Bool) : Members :=
  ⟨m.list.filter fun i => keep i.endpoint, m.distinct.sublist (List.filter_sublist.map _)⟩

/-- Adds an instance and reports whether it is new. -/
def put (m : Members) (i : Instance) : Bool × Members := (!m.has i.endpoint, m.insert i)

/-- Takes the member with the instance's endpoint away and reports whether there was one. -/
def remove (m : Members) (i : Instance) : Bool × Members := (m.has i.endpoint, m.erase i.endpoint)

/-! ## The view after each operation -/

@[simp] theorem get?_empty (e : String) : empty.get? e = none := rfl

@[simp] theorem has_empty (e : String) : empty.has e = false := rfl

/-- The instance at an endpoint after an insertion: the one that was there first. -/
theorem get?_insert (m : Members) (i : Instance) (e : String) :
    (m.insert i).get? e = (m.get? e).or (if i.endpoint = e then some i else none) := by
  unfold insert
  split
  · rename_i h
    by_cases he : i.endpoint = e
    · simp [get?, List.find?_append, he]
    · simp [get?, List.find?_append, he]
  · rename_i h
    by_cases he : i.endpoint = e
    · subst he
      obtain ⟨j, hj⟩ := Option.isSome_iff_exists.1 ((Bool.not_eq_false _).mp h)
      rw [hj]
      rfl
    · simp [he]

/-- The instance at an endpoint after a removal. -/
theorem get?_erase (m : Members) (d e : String) :
    (m.erase d).get? e = if d = e then none else m.get? e := by
  unfold erase get?
  rw [List.find?_filter]
  by_cases h : d = e
  · subst h
    simp
  · rw [if_neg h]
    congr 1
    funext i
    by_cases hi : i.endpoint = e
    · simp [hi, Ne.symm h]
    · simp [hi]

/-- The instance at an endpoint when only some are kept. -/
theorem get?_restrict (m : Members) (keep : String → Bool) (e : String) :
    (m.restrict keep).get? e = if keep e then m.get? e else none := by
  unfold restrict get?
  rw [List.find?_filter]
  by_cases h : keep e = true
  · rw [if_pos h]
    congr 1
    funext i
    by_cases hi : i.endpoint = e
    · simp [hi, h]
    · simp [hi]
  · rw [if_neg h, List.find?_eq_none]
    intro i _
    by_cases hi : i.endpoint = e
    · simp [hi, h]
    · simp [hi]

@[simp] theorem has_insert (m : Members) (i : Instance) (e : String) :
    (m.insert i).has e = (m.has e || i.endpoint == e) := by
  unfold has
  rw [get?_insert]
  by_cases h : i.endpoint = e <;> simp [h]

@[simp] theorem has_erase (m : Members) (d e : String) :
    (m.erase d).has e = (m.has e && d != e) := by
  unfold has
  rw [get?_erase]
  by_cases h : d = e <;> simp [h]

@[simp] theorem has_restrict (m : Members) (keep : String → Bool) (e : String) :
    (m.restrict keep).has e = (m.has e && keep e) := by
  unfold has
  rw [get?_restrict]
  by_cases h : keep e = true <;> simp [h]

/-- The listed instances are those that the view shows. -/
theorem mem_list_iff {m : Members} {i : Instance} :
    i ∈ m.list ↔ m.get? i.endpoint = some i := by
  constructor
  · intro h
    have hd := m.distinct
    unfold get?
    revert h hd
    generalize m.list = l
    intro h hd
    induction l with
    | nil => simp at h
    | cons j l ih =>
      rw [List.map_cons, List.nodup_cons] at hd
      by_cases hj : j.endpoint = i.endpoint
      · have : i = j := by
          rcases List.mem_cons.1 h with h | h
          · exact h
          · exact absurd (hj ▸ List.mem_map_of_mem h) hd.1
        subst this
        simp
      · have : i ∈ l := by
          rcases List.mem_cons.1 h with h | h
          · exact absurd (h ▸ rfl) hj
          · exact h
        simpa [List.find?_cons, hj] using ih this hd.2
  · intro h
    exact List.mem_of_find?_eq_some h

end Members

end Muster
