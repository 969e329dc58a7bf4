/-
  What the parts of a probing backend's steps change.

  Everything that a watch or a query does to the cache, it does under ONE name; and the rest of the books
  stays as it was.

  (1) `passes` — whether the LAST report of an endpoint says that it passes.  A result may report an
      endpoint twice, and reports are taken one by one, so the last one decides.
  (2) `apply_has` — a changed result REPLACES what was cached: the members are those that pass, and
      nothing of what there was before shows through.
  (3) `merge_has` — a first load only ADDS: the instances it takes come in, and nobody goes.
  (4) `Registry.Only` — a change under one name is seen under no other.

  THE CRUX (`applyAll_has`): after the reports have been taken one by one, an endpoint that is mentioned
  is a member exactly if it passes, and one that is not mentioned is what it was.  The sweep then takes
  the second kind away.
-/
import Muster.Probed.Step
import Muster.Proofs.Books

namespace Muster

/-! ## One name -/

namespace Registry

/-- **Nothing changed but what is known under one name.** -/
def Only (name : String) (r r' : Registry) : Prop := ∀ n, n ≠ name → r'.get? n = r.get? n

namespace Only

variable {name : String} {r r' r'' : Registry}

theorem refl (name : String) (r : Registry) : r.Only name r := fun _ _ => rfl

theorem trans (h : r.Only name r') (g : r'.Only name r'') : r.Only name r'' :=
  fun n hn => (g n hn).trans (h n hn)

theorem modify (name : String) (r : Registry) (f : Members → Members) :
    r.Only name (r.modify name f) := by
  intro n hn
  rw [get?_modify, if_neg hn]

/-- Under another name the members are the same. -/
theorem has (h : r.Only name r') {n : String} (hn : n ≠ name) (e : String) :
    r'.has n e = r.has n e := by
  unfold Registry.has members
  rw [h n hn]

end Only

end Registry

namespace Probed

/-! ## The last report of an endpoint -/

/-- **Whether an endpoint passes**: it is reported, and the LAST report of it says so. -/
def passes (l : List Report) (endpoint : String) : Bool :=
  ((l.filter fun r => r.service.endpoint == endpoint).getLast?).any (·.status.isPassing)

theorem passes_cons (r : Report) (l : List Report) (e : String) :
    passes (r :: l) e =
      if mentions l e then passes l e else r.service.endpoint == e && r.status.isPassing := by
  have hmem : (l.filter fun q => q.service.endpoint == e) = [] ↔ mentions l e = false := by
    simp [mentions, List.filter_eq_nil_iff]
  unfold passes
  rw [List.filter_cons]
  cases hl : l.filter fun q => q.service.endpoint == e with
  | nil =>
    have hm := hmem.1 hl
    by_cases he : r.service.endpoint = e <;> simp [he, hm]
  | cons q qs =>
    have hm : mentions l e = true := by
      cases h : mentions l e with
      | true => rfl
      | false => rw [hmem.2 h] at hl; cases hl
    rw [if_pos hm]
    -- whatever stands before it, the last one is the same
    by_cases he : r.service.endpoint = e <;> simp [he]

/-- Who passes is mentioned. -/
theorem mentions_of_passes {l : List Report} {e : String} (h : passes l e = true) :
    mentions l e = true := by
  unfold passes at h
  obtain ⟨r, hr, -⟩ := Option.any_eq_true _ _ |>.1 h
  obtain ⟨hmem, he⟩ := List.mem_filter.1 (List.mem_of_getLast? hr)
  exact List.any_eq_true.2 ⟨r, hmem, he⟩

/-! ## A changed result -/

theorem applyReport_alike (service : String) (s : State) (r : Report) :
    (applyReport service s r).Alike s := by
  unfold applyReport
  split
  · constructor <;> simp
  · constructor <;> simp

theorem applyAll_alike (service : String) (s : State) (l : List Report) :
    (l.foldl (applyReport service) s).Alike s := by
  induction l generalizing s with
  | nil => exact .refl s
  | cons r l ih => exact (ih (applyReport service s r)).trans (applyReport_alike service s r)

/-- **A changed result changes the cache and the log only.** -/
theorem apply_alike (service : String) (l : List Report) (s : State) :
    (apply service l s).Alike s := by
  have h := applyAll_alike service { s with registry := s.registry.create service } l
  constructor <;> simp [apply, sweep, h.flags, h.closed, h.process?, h.nextId, h.own, h.requests]

theorem applyReport_only (service : String) (s : State) (r : Report) :
    s.registry.Only service (applyReport service s r).registry := by
  unfold applyReport
  split
  · rw [(Session.insertNoted_books ..).2.1]
    exact .modify service s.registry _
  · rw [(Session.eraseNoted_books ..).2.1]
    exact .modify service s.registry _

/-- **A changed result changes one name.** -/
theorem apply_only (service : String) (l : List Report) (s : State) :
    s.registry.Only service (apply service l s).registry := by
  have hall (u : State) : u.registry.Only service (l.foldl (applyReport service) u).registry := by
    induction l generalizing u with
    | nil => exact .refl service _
    | cons r l ih => exact (applyReport_only service u r).trans (ih (applyReport service u r))
  have hcreate : s.registry.Only service (s.registry.create service) := .modify service _ id
  have hsweep (u : State) : u.registry.Only service (sweep service l u).registry := by
    unfold sweep
    rw [(Session.notes_books ..).2.1]
    exact .modify service _ _
  unfold apply
  exact hcreate.trans ((hall { s with registry := s.registry.create service }).trans (hsweep _))

/-- A report decides on its endpoint, and on no other. -/
theorem applyReport_has (service : String) (s : State) (r : Report) (e : String) :
    (applyReport service s r).registry.has service e =
      if r.service.endpoint = e then r.status.isPassing else s.registry.has service e := by
  unfold applyReport
  split
  · rename_i hp
    by_cases he : r.service.endpoint = e <;> simp [he, hp]
  · rename_i hp
    by_cases he : r.service.endpoint = e <;> simp [he, hp]

/-- Reports decide on the endpoints that they mention. -/
theorem applyAll_has (service : String) (s : State) (l : List Report) (e : String) :
    (l.foldl (applyReport service) s).registry.has service e =
      if mentions l e then passes l e else s.registry.has service e := by
  induction l generalizing s with
  | nil => rfl
  | cons r l ih =>
    rw [List.foldl_cons, ih, passes_cons, applyReport_has]
    by_cases hm : mentions l e = true
    · rw [if_pos hm, if_pos hm, if_pos (by simpa [mentions] using Or.inr hm)]
    · have hcons : mentions (r :: l) e = (r.service.endpoint == e) := by
        have hm : mentions l e = false := by simpa using hm
        show (r.service.endpoint == e || mentions l e) = _
        rw [hm, Bool.or_false]
      rw [if_neg hm, if_neg hm, hcons]
      by_cases he : r.service.endpoint = e <;> simp [he]

/-- **After a changed result the members are those that pass**, whatever was cached before. -/
theorem apply_has (service : String) (l : List Report) (s : State) (e : String) :
    (apply service l s).registry.has service e = passes l e := by
  let u : State := { s with registry := s.registry.create service }
  have hsweep : (apply service l s).registry.has service e =
      ((l.foldl (applyReport service) u).registry.has service e && mentions l e) := by
    simp [apply, sweep, u, Registry.has]
  rw [hsweep, applyAll_has]
  cases hm : mentions l e with
  | true => simp
  | false =>
    cases hp : passes l e with
    | false => simp
    | true => rw [mentions_of_passes hp] at hm; cases hm

/-- The last report of an endpoint decides, also against an earlier one. -/
example : passes [⟨⟨"order", "10.0.0.1", 9000⟩, .passing⟩, ⟨⟨"order", "10.0.0.1", 9000⟩, .critical⟩]
    "10.0.0.1:9000" = false := by decide +kernel

/-! ## A first load -/

theorem insertAll_has (r : Registry) (service n : String) (l : List Instance) (e : String) :
    (insertAll r service l).has n e =
      (r.has n e || (n == service && l.any fun i => i.endpoint == e)) := by
  unfold insertAll
  have hall (q : Registry) : (l.foldl (fun r i => r.insert service i) q).has n e =
      (q.has n e || (n == service && l.any fun i => i.endpoint == e)) := by
    induction l generalizing q with
    | nil => simp
    | cons i l ih =>
      rw [List.foldl_cons, ih, Registry.has_insert, List.any_cons, Bool.and_or_distrib_left,
        Bool.or_assoc]
  rw [hall, Registry.has_create]

theorem insertAll_only (r : Registry) (service : String) (l : List Instance) :
    r.Only service (insertAll r service l) := by
  have hall (q : Registry) : q.Only service (l.foldl (fun r i => r.insert service i) q) := by
    induction l generalizing q with
    | nil => exact .refl service q
    | cons i l ih => exact (Registry.Only.modify service q _).trans (ih (q.insert service i))
  exact (Registry.Only.modify service r id).trans (hall (r.create service))

/-- **A load changes the cache and the log only.** -/
theorem merge_alike (service : String) (l : List Report) (s : State) :
    (merge service l s).Alike s := by
  unfold merge
  split
  · constructor <;> simp
  · dsimp only
    split <;> constructor <;> simp

theorem merge_registry (service : String) (l : List Report) (s : State) :
    (merge service l s).registry =
      if l.isEmpty then s.registry else insertAll s.registry service (eligible l) := by
  unfold merge
  cases l.isEmpty with
  | true => simp
  | false =>
    simp only [Bool.false_eq_true, if_false]
    split <;> simp

/-- **A load changes one name.** -/
theorem merge_only (service : String) (l : List Report) (s : State) :
    s.registry.Only service (merge service l s).registry := by
  rw [merge_registry]
  split
  · exact .refl service _
  · exact insertAll_only s.registry service _

/-- **After a load the members are those that there were, and those that it takes.** -/
theorem merge_has (service n : String) (l : List Report) (s : State) (e : String) :
    (merge service l s).registry.has n e =
      (s.registry.has n e || (n == service && (eligible l).any fun i => i.endpoint == e)) := by
  rw [merge_registry]
  cases l with
  | nil => simp [eligible]
  | cons r l => exact insertAll_has ..

/-! ## Watches that begin and end -/

@[simp] theorem ensureWatch_books (service : String) (s : State) :
    (ensureWatch service s).flags = s.flags ∧ (ensureWatch service s).registry = s.registry ∧
      (ensureWatch service s).closed = s.closed ∧
      (∀ k, (ensureWatch service s).process? k =
        if s.closed || s.isWatched service then s.process? k
        else (s.process? k).or (if k = s.nextId then some (.watch service .fresh) else none)) ∧
      (ensureWatch service s).nextId =
        (if s.closed || s.isWatched service then s.nextId else s.nextId + 1) ∧
      (ensureWatch service s).own =
        (if s.closed || s.isWatched service then s.own else ⟨s.own.services ++ [service]⟩) ∧
      (ensureWatch service s).requests = s.requests := by
  unfold ensureWatch
  split
  · simp
  · simp [Session.process?_spawn]

@[simp] theorem endWatch_books (s : State) (id : Nat) (service : String) :
    (endWatch s id service).flags =
        (if (s.own.services.filter (· != service)).isEmpty then { s.flags with watching := false }
          else s.flags) ∧
      (endWatch s id service).registry = s.registry ∧
      (endWatch s id service).closed = s.closed ∧
      (∀ k, (endWatch s id service).process? k = (s.finish id).process? k) ∧
      (endWatch s id service).nextId = s.nextId ∧
      (endWatch s id service).own = ⟨s.own.services.filter (· != service)⟩ ∧
      (endWatch s id service).requests = s.requests := by
  unfold endWatch
  dsimp only
  split <;> simp

end Probed

end Muster
