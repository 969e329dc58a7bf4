/-
  What each operation on a session leaves alone.

  A session keeps seven books: the flags, the cache, whether it is closed, the processes by number,
  the next number, what only its kind keeps, and the requests it has sent.  An operation writes ONE or
  two of them; the lemmas here say, operation by operation, what every book holds afterwards, so that
  no later proof has to unfold an operation.

  (1) `requests` — the requests among the entries of the journal: log lines and returns are no request.
  (2) One lemma `…_books` for each operation, all its equations in one conjunction.
  (3) A process is looked up by its number; `process?_spawn` needs no side condition, since a number
      that is in use is found first.
  (4) `Alike` — sessions that differ in the cache and the log only.
  (5) `Sole` — among the processes of a session, one has a certain role, or none has.
-/
import Mathlib.Logic.ExistsUnique
import Muster.Session

namespace Muster.Session

variable {ξ π κ : Type}

/-! ## Requests -/

/-- **The requests sent so far**, each with its process, the newest first. -/
def requests (s : Session ξ π κ) : List (Nat × κ) :=
  s.journal.filterMap fun
    | .request id r => some (id, r)
    | _ => none

/-! ## Processes by number -/

@[simp] theorem process?_mk (f : Flags) (r : Registry) (b : Bool) (ps : List (Nat × π)) (n : Nat)
    (j : List (Entry κ)) (o : ξ) (k : Nat) :
    (Session.mk f r b ps n j o).process? k = ps.lookup k := rfl

@[simp] theorem lookup_processes (s : Session ξ π κ) (k : Nat) :
    s.processes.lookup k = s.process? k := rfl

@[simp] theorem requests_mk (s : Session ξ π κ) (f : Flags) (r : Registry) (b : Bool)
    (ps : List (Nat × π)) (n : Nat) (o : ξ) :
    (Session.mk f r b ps n s.journal o).requests = s.requests := rfl

/-- A process that is started is found unless its number was in use. -/
theorem process?_spawn (s : Session ξ π κ) (p : π) (k : Nat) :
    (s.spawn p).process? k = (s.process? k).or (if k = s.nextId then some p else none) := by
  show (s.processes ++ [(s.nextId, p)]).lookup k = _
  rw [List.lookup_append]
  by_cases hk : k = s.nextId
  · simp [hk]
  · simp [hk, List.lookup_cons, beq_eq_false_iff_ne.2 hk]

/-- Where the same processes stand, the same stand after one of them has gone on. -/
theorem process?_become_congr {s t : Session ξ π κ} (h : ∀ k, t.process? k = s.process? k)
    (id : Nat) (p : π) (k : Nat) : (t.become id p).process? k = (s.become id p).process? k := by
  rw [process?_become, process?_become, h, h]

/-- Numbers are fresh EXACTLY when none from the next on is in use. -/
theorem numbered_iff {s : Session ξ π κ} :
    s.Numbered ↔ ∀ k, s.nextId ≤ k → s.process? k = none := by
  constructor
  · intro h k hk
    rw [process?, List.lookup_eq_none_iff]
    intro q hq
    have := h q hq
    exact bne_iff_ne.2 (by omega)
  · intro h q hq
    rcases Nat.lt_or_ge q.1 s.nextId with hlt | hge
    · exact hlt
    · have := h q.1 hge
      rw [process?, List.lookup_eq_none_iff] at this
      exact absurd rfl (bne_iff_ne.1 (this q hq))

/-- A number in use is not the next one. -/
theorem Numbered.ne_nextId {s : Session ξ π κ} (h : s.Numbered) {k : Nat} {p : π}
    (hk : s.process? k = some p) : k ≠ s.nextId := by
  intro he
  rw [he, h.process?_nextId] at hk
  cases hk

/-- Numbers stay fresh as long as no process gets one from the next on. -/
theorem Numbered.of_books {s t : Session ξ π κ} (h : s.Numbered) (hn : s.nextId ≤ t.nextId)
    (hp : ∀ k, t.nextId ≤ k → s.process? k = none → t.process? k = none) : t.Numbered :=
  numbered_iff.2 fun k hk => hp k hk (numbered_iff.1 h k (by omega))

/-! ## The journal -/

@[simp] theorem note_books (s : Session ξ π κ) (l : Logging.Line) :
    (s.note l).flags = s.flags ∧ (s.note l).registry = s.registry ∧
      (s.note l).closed = s.closed ∧ (∀ k, (s.note l).process? k = s.process? k) ∧
      (s.note l).nextId = s.nextId ∧ (s.note l).own = s.own ∧
      (s.note l).requests = s.requests :=
  ⟨rfl, rfl, rfl, fun _ => rfl, rfl, rfl, rfl⟩

@[simp] theorem log_books (s : Session ξ π κ) (v : Logging.Severity) (m : String)
    (fs : List (String × String)) :
    (s.log v m fs).flags = s.flags ∧ (s.log v m fs).registry = s.registry ∧
      (s.log v m fs).closed = s.closed ∧ (∀ k, (s.log v m fs).process? k = s.process? k) ∧
      (s.log v m fs).nextId = s.nextId ∧ (s.log v m fs).own = s.own ∧
      (s.log v m fs).requests = s.requests :=
  note_books s ⟨v, m, fs⟩

@[simp] theorem notes_books (s : Session ξ π κ) (ls : List Logging.Line) :
    (s.notes ls).flags = s.flags ∧ (s.notes ls).registry = s.registry ∧
      (s.notes ls).closed = s.closed ∧ (∀ k, (s.notes ls).process? k = s.process? k) ∧
      (s.notes ls).nextId = s.nextId ∧ (s.notes ls).own = s.own ∧
      (s.notes ls).requests = s.requests := by
  unfold notes
  induction ls generalizing s with
  | nil => exact ⟨rfl, rfl, rfl, fun _ => rfl, rfl, rfl, rfl⟩
  | cons l ls ih => simpa using ih (s.note l)

/-! ## The processes -/

@[simp] theorem spawn_books (s : Session ξ π κ) (p : π) :
    (s.spawn p).flags = s.flags ∧ (s.spawn p).registry = s.registry ∧
      (s.spawn p).closed = s.closed ∧ (s.spawn p).nextId = s.nextId + 1 ∧
      (s.spawn p).own = s.own ∧ (s.spawn p).requests = s.requests :=
  ⟨rfl, rfl, rfl, rfl, rfl, rfl⟩

@[simp] theorem become_books (s : Session ξ π κ) (id : Nat) (p : π) :
    (s.become id p).flags = s.flags ∧ (s.become id p).registry = s.registry ∧
      (s.become id p).closed = s.closed ∧ (s.become id p).nextId = s.nextId ∧
      (s.become id p).own = s.own ∧ (s.become id p).requests = s.requests :=
  ⟨rfl, rfl, rfl, rfl, rfl, rfl⟩

@[simp] theorem finish_books (s : Session ξ π κ) (id : Nat) :
    (s.finish id).flags = s.flags ∧ (s.finish id).registry = s.registry ∧
      (s.finish id).closed = s.closed ∧ (s.finish id).nextId = s.nextId ∧
      (s.finish id).own = s.own ∧ (s.finish id).requests = s.requests :=
  ⟨rfl, rfl, rfl, rfl, rfl, rfl⟩

@[simp] theorem ask_books (s : Session ξ π κ) (id : Nat) (r : κ) (p : π) :
    (s.ask id r p).flags = s.flags ∧ (s.ask id r p).registry = s.registry ∧
      (s.ask id r p).closed = s.closed ∧
      (∀ k, (s.ask id r p).process? k = (s.become id p).process? k) ∧
      (s.ask id r p).nextId = s.nextId ∧ (s.ask id r p).own = s.own ∧
      (s.ask id r p).requests = (id, r) :: s.requests :=
  ⟨rfl, rfl, rfl, fun _ => rfl, rfl, rfl, rfl⟩

@[simp] theorem begin_books (s : Session ξ π κ) (r : κ) (p : π) :
    (s.begin r p).flags = s.flags ∧ (s.begin r p).registry = s.registry ∧
      (s.begin r p).closed = s.closed ∧
      (∀ k, (s.begin r p).process? k = ((s.spawn p).become s.nextId p).process? k) ∧
      (s.begin r p).nextId = s.nextId + 1 ∧ (s.begin r p).own = s.own ∧
      (s.begin r p).requests = (s.nextId, r) :: s.requests :=
  ⟨rfl, rfl, rfl, fun _ => rfl, rfl, rfl, rfl⟩

@[simp] theorem instant_books (s : Session ξ π κ) (o : Outcome) :
    (s.instant o).flags = s.flags ∧ (s.instant o).registry = s.registry ∧
      (s.instant o).closed = s.closed ∧ (∀ k, (s.instant o).process? k = s.process? k) ∧
      (s.instant o).nextId = s.nextId + 1 ∧ (s.instant o).own = s.own ∧
      (s.instant o).requests = s.requests :=
  ⟨rfl, rfl, rfl, fun _ => rfl, rfl, rfl, rfl⟩

@[simp] theorem answer_books (s : Session ξ π κ) (id : Nat) (o : Outcome) :
    (s.answer id o).flags = s.flags ∧ (s.answer id o).registry = s.registry ∧
      (s.answer id o).closed = s.closed ∧
      (∀ k, (s.answer id o).process? k = (s.finish id).process? k) ∧
      (s.answer id o).nextId = s.nextId ∧ (s.answer id o).own = s.own ∧
      (s.answer id o).requests = s.requests :=
  ⟨rfl, rfl, rfl, fun _ => rfl, rfl, rfl, rfl⟩

@[simp] theorem succeed_eq (s : Session ξ π κ) (id : Nat) :
    s.succeed id = s.answer id (.status (.ok ())) := rfl

@[simp] theorem fail_eq (s : Session ξ π κ) (id : Nat) (f : Failure) :
    s.fail id f = s.answer id (.status (.error f)) := rfl

/-! ## The flags -/

@[simp] theorem setDegraded_books (s : Session ξ π κ) (b : Bool) :
    (s.setDegraded b).flags = { s.flags with degraded := b } ∧
      (s.setDegraded b).registry = s.registry ∧ (s.setDegraded b).closed = s.closed ∧
      (∀ k, (s.setDegraded b).process? k = s.process? k) ∧
      (s.setDegraded b).nextId = s.nextId ∧ (s.setDegraded b).own = s.own ∧
      (s.setDegraded b).requests = s.requests := by
  unfold setDegraded
  split
  · exact ⟨rfl, rfl, rfl, fun _ => rfl, rfl, rfl, rfl⟩
  · exact ⟨rfl, rfl, rfl, fun _ => rfl, rfl, rfl, rfl⟩

@[simp] theorem setWatching_books (s : Session ξ π κ) (b : Bool) :
    (s.setWatching b).flags = { s.flags with watching := b } ∧
      (s.setWatching b).registry = s.registry ∧ (s.setWatching b).closed = s.closed ∧
      (∀ k, (s.setWatching b).process? k = s.process? k) ∧
      (s.setWatching b).nextId = s.nextId ∧ (s.setWatching b).own = s.own ∧
      (s.setWatching b).requests = s.requests :=
  ⟨rfl, rfl, rfl, fun _ => rfl, rfl, rfl, rfl⟩

@[simp] theorem setRegistered_books (s : Session ξ π κ) (b : Bool) :
    (s.setRegistered b).flags = { s.flags with registered := b } ∧
      (s.setRegistered b).registry = s.registry ∧ (s.setRegistered b).closed = s.closed ∧
      (∀ k, (s.setRegistered b).process? k = s.process? k) ∧
      (s.setRegistered b).nextId = s.nextId ∧ (s.setRegistered b).own = s.own ∧
      (s.setRegistered b).requests = s.requests :=
  ⟨rfl, rfl, rfl, fun _ => rfl, rfl, rfl, rfl⟩

@[simp] theorem close_books (s : Session ξ π κ) :
    s.close.flags = s.flags ∧ s.close.registry = s.registry ∧ s.close.closed = true ∧
      (∀ k, s.close.process? k = s.process? k) ∧ s.close.nextId = s.nextId ∧
      s.close.own = s.own ∧ s.close.requests = s.requests :=
  ⟨rfl, rfl, rfl, fun _ => rfl, rfl, rfl, rfl⟩

/-! ## The cache -/

@[simp] theorem insertNoted_books (s : Session ξ π κ) (name shown : String) (i : Instance) :
    (s.insertNoted name shown i).flags = s.flags ∧
      (s.insertNoted name shown i).registry = s.registry.insert name i ∧
      (s.insertNoted name shown i).closed = s.closed ∧
      (∀ k, (s.insertNoted name shown i).process? k = s.process? k) ∧
      (s.insertNoted name shown i).nextId = s.nextId ∧
      (s.insertNoted name shown i).own = s.own ∧
      (s.insertNoted name shown i).requests = s.requests := by
  unfold insertNoted
  split
  · exact ⟨rfl, rfl, rfl, fun _ => rfl, rfl, rfl, rfl⟩
  · exact ⟨rfl, rfl, rfl, fun _ => rfl, rfl, rfl, rfl⟩

@[simp] theorem eraseNoted_books (s : Session ξ π κ) (name : String) (i : Instance)
    (l : Logging.Line) :
    (s.eraseNoted name i l).flags = s.flags ∧
      (s.eraseNoted name i l).registry = s.registry.erase name i.endpoint ∧
      (s.eraseNoted name i l).closed = s.closed ∧
      (∀ k, (s.eraseNoted name i l).process? k = s.process? k) ∧
      (s.eraseNoted name i l).nextId = s.nextId ∧ (s.eraseNoted name i l).own = s.own ∧
      (s.eraseNoted name i l).requests = s.requests := by
  unfold eraseNoted
  split
  · exact ⟨rfl, rfl, rfl, fun _ => rfl, rfl, rfl, rfl⟩
  · exact ⟨rfl, rfl, rfl, fun _ => rfl, rfl, rfl, rfl⟩

/-! ## Sessions that differ in the cache and the log only -/

/-- **The same books**, except for the cache and the lines of the log. -/
structure Alike (s t : Session ξ π κ) : Prop where
  flags : s.flags = t.flags
  closed : s.closed = t.closed
  process? : ∀ k, s.process? k = t.process? k
  nextId : s.nextId = t.nextId
  own : s.own = t.own
  requests : s.requests = t.requests

namespace Alike

variable {s t u : Session ξ π κ}

theorem refl (s : Session ξ π κ) : s.Alike s := ⟨rfl, rfl, fun _ => rfl, rfl, rfl, rfl⟩

theorem trans (h : s.Alike t) (g : t.Alike u) : s.Alike u :=
  ⟨h.flags.trans g.flags, h.closed.trans g.closed, fun k => (h.process? k).trans (g.process? k),
    h.nextId.trans g.nextId, h.own.trans g.own, h.requests.trans g.requests⟩

theorem numbered (h : s.Alike t) (ht : t.Numbered) : s.Numbered :=
  ht.of_books (Nat.le_of_eq h.nextId.symm) fun k _ hk => (h.process? k).trans hk

end Alike

/-! ## Roles -/

/-- What the process with a number is in some respect, if it is anything there. -/
def role {α : Type} (s : Session ξ π κ) (f : π → Option α) (k : Nat) : Option α :=
  (s.process? k).bind f

/-- **One process has a role**, or none has. -/
def Sole {α : Type} (s : Session ξ π κ) (f : π → Option α) (o : Option (Nat × α)) : Prop :=
  ∀ k a, s.role f k = some a ↔ o = some (k, a)

section Roles

variable {α : Type} {f : π → Option α} {s t : Session ξ π κ} {id : Nat} {p q : π}

theorem role_of_process? (h : s.process? id = some p) : s.role f id = f p := by
  rw [role, h, Option.bind_some]

/-- Where only one process is somebody in a role, to have the role is to be this process. -/
theorem role_eq_some_iff {a : α} (hf : ∀ r, f r = some a ↔ r = p) {k : Nat} :
    s.role f k = some a ↔ s.process? k = some p := by
  constructor
  · intro h
    obtain ⟨r, hr, ha⟩ := Option.bind_eq_some_iff.1 h
    rw [hr, (hf r).1 ha]
  · intro h
    exact (role_of_process? h).trans ((hf p).2 rfl)

/-- A process that goes on has the role that it goes on in. -/
theorem role_become (hid : s.process? id = some p)
    (ht : ∀ k, t.process? k = (s.become id q).process? k) (k : Nat) :
    t.role f k = if k = id then f q else s.role f k := by
  rw [role, ht, process?_become]
  by_cases hk : k = id
  · rw [if_pos hk, if_pos hk, hid]; rfl
  · rw [if_neg hk, if_neg hk, role]

/-- A process that ends has none. -/
theorem role_finish (ht : ∀ k, t.process? k = (s.finish id).process? k) (k : Nat) :
    t.role f k = if k = id then none else s.role f k := by
  rw [role, ht, process?_finish]
  by_cases hk : k = id
  · rw [if_pos hk, if_pos hk]; rfl
  · rw [if_neg hk, if_neg hk, role]

/-- A process that begins has the role that it begins in. -/
theorem role_spawn (hn : s.Numbered)
    (ht : ∀ k, t.process? k = (s.process? k).or (if k = s.nextId then some q else none)) (k : Nat) :
    t.role f k = if k = s.nextId then f q else s.role f k := by
  rw [role, ht]
  by_cases hk : k = s.nextId
  · rw [if_pos hk, if_pos hk, hk, hn.process?_nextId]; rfl
  · rw [if_neg hk, if_neg hk, Option.or_none, role]

/-- Whoever begins with a request, in no role, changes no role. -/
theorem role_begin_none (hn : s.Numbered) (r : κ) (hq : f q = none) (k : Nat) :
    (s.begin r q).role f k = s.role f k := by
  have hspawn : (s.spawn q).process? s.nextId = some q := by
    rw [process?_spawn, hn.process?_nextId]; simp
  rw [role_become hspawn (begin_books s r q).2.2.2.1, hq, role_spawn hn (process?_spawn s q), hq]
  by_cases hk : k = s.nextId
  · rw [if_pos hk, hk, role, hn.process?_nextId]; rfl
  · rw [if_neg hk, if_neg hk]

/-- Whoever begins without a role is one of many. -/
theorem role_or_none (hq : f q = none) {b : Nat → Prop} [∀ k, Decidable (b k)]
    (ht : ∀ k, t.process? k = (s.process? k).or (if b k then some q else none)) (k : Nat) :
    t.role f k = s.role f k := by
  rw [role, ht, role]
  cases s.process? k with
  | some p => rfl
  | none => by_cases hb : b k <;> simp [hb, hq]

namespace Sole

variable {o : Option (Nat × α)} {a : α}

theorem congr (h : s.Sole f o) (ht : ∀ k, t.role f k = s.role f k) : t.Sole f o := by
  intro k a
  rw [ht, h k a]

theorem eq_of_role (h : s.Sole f o) (hid : s.role f id = some a) : o = some (id, a) := (h id a).1 hid

/-- Without anybody in a role, somebody may begin in it. -/
theorem starts (h : s.Sole f none) (ht : ∀ k, t.role f k = if k = id then some a else s.role f k) :
    t.Sole f (some (id, a)) := by
  intro k b
  rw [ht]
  by_cases hk : k = id
  · rw [if_pos hk, hk]
    simp
  · have hnone : s.role f k ≠ some b := fun hb => by cases (h k b).1 hb
    rw [if_neg hk]
    simp [hnone, Ne.symm hk]

/-- Whoever has it may go on in it. -/
theorem goesOn {b : α} (h : s.Sole f o) (hid : s.role f id = some a)
    (ht : ∀ k, t.role f k = if k = id then some b else s.role f k) : t.Sole f (some (id, b)) := by
  intro k d
  rw [ht]
  by_cases hk : k = id
  · rw [if_pos hk, hk]
    simp
  · rw [if_neg hk, h k d, h.eq_of_role hid]
    simp [Ne.symm hk]

/-- Once it has ended, nobody has the role. -/
theorem ends (h : s.Sole f o) (hid : s.role f id = some a)
    (ht : ∀ k, t.role f k = if k = id then none else s.role f k) : t.Sole f none := by
  intro k d
  rw [ht]
  by_cases hk : k = id
  · simp [hk]
  · rw [if_neg hk, h k d, h.eq_of_role hid]
    simp [Ne.symm hk]

/-- **The books know of it**: a flag that is raised while somebody has the role, is raised EXACTLY when
    one process has it. -/
theorem existsUnique_iff (h : s.Sole f o) {b : Bool} (hb : b = o.isSome) :
    (b = true ↔ ∃! k, ∃ a, s.role f k = some a) ∧
      ∀ k k' a a', s.role f k = some a → s.role f k' = some a' → k = k' := by
  have hone (k k' : Nat) (a a' : α) (hk : s.role f k = some a) (hk' : s.role f k' = some a') :
      k = k' := by
    have he := (h.eq_of_role hk).symm.trans (h.eq_of_role hk')
    exact (Prod.mk.inj (Option.some.inj he)).1
  refine ⟨?_, hone⟩
  rw [hb]
  constructor
  · intro hsome
    obtain ⟨⟨k, a⟩, rfl⟩ := Option.isSome_iff_exists.1 hsome
    have hk : s.role f k = some a := (h k a).2 rfl
    refine ⟨k, ⟨a, hk⟩, ?_⟩
    rintro k' ⟨a', hk'⟩
    exact hone k' k a' a hk' hk
  · rintro ⟨k, ⟨a, hk⟩, -⟩
    rw [h.eq_of_role hk]; rfl

end Sole

end Roles

end Muster.Session
