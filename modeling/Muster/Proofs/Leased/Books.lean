/-
  What the parts of a lease backend's steps change.

  Two parts touch the standing of the registration beyond a single flag, and both can only LOSE it:
  a batch of events and a full snapshot.  Everything else they do is done to the cache.  So each of
  them is, in all books but the cache, one of two things:

  (1) nothing at all, or
  (2) `scheduleRestore false`, ONCE — a second loss in the same batch finds the restoring arranged.

  `lose` is that choice; `observeAll_alike` and `synchronise_alike` say that it is all there is.

  THE CRUX (`scheduleRestore_twice`): arranging what is arranged changes nothing but the log.
-/
import Muster.Leased.Step
import Muster.Proofs.Books

namespace Muster

namespace Leased.Settings

variable (c : Settings)

/-! ## A loss -/

/-- Whether an event takes away an instance at the own address and port. -/
def hits (e : Event) : Bool :=
  match e.finding c.scope with
  | .withdrawn _ i => i.isAt c.self.address c.self.port
  | _ => false

/-- The registration is lost, or nothing happens. -/
def lose (b : Bool) (s : State) : State := if b then c.scheduleRestore false s else s

@[simp] theorem scheduleRestore_books (forced : Bool) (s : State) :
    (c.scheduleRestore forced s).flags = { s.flags with degraded := true } ∧
      (c.scheduleRestore forced s).registry = s.registry ∧
      (c.scheduleRestore forced s).closed = s.closed ∧
      (∀ k, (c.scheduleRestore forced s).process? k =
        if s.own.restoring then s.process? k
        else (s.process? k).or (if k = s.nextId then some (.restore .delaying) else none)) ∧
      (c.scheduleRestore forced s).nextId =
        (if s.own.restoring then s.nextId else s.nextId + 1) ∧
      (c.scheduleRestore forced s).own =
        { s.own with restoring := true, forced := forced || s.own.forced } ∧
      (c.scheduleRestore forced s).requests = s.requests := by
  obtain ⟨flags, registry, closed, processes, nextId, journal, own⟩ := s
  obtain ⟨called, lease, renewal, restoring, isForced, watching⟩ := own
  cases restoring with
  | true => cases forced <;> simp [scheduleRestore]
  | false => cases forced <;> simp [scheduleRestore, Session.process?_spawn]

/-- A loss only needs the books that are alike. -/
theorem scheduleRestore_congr {s t : State} (h : s.Alike t) (forced : Bool) :
    (c.scheduleRestore forced s).Alike (c.scheduleRestore forced t) := by
  constructor <;> simp [h.flags, h.closed, h.process?, h.nextId, h.own, h.requests]

/-- **A loss after a loss changes nothing.** -/
theorem scheduleRestore_twice (s : State) :
    (c.scheduleRestore false (c.scheduleRestore false s)).Alike (c.scheduleRestore false s) := by
  constructor <;> simp

theorem lose_congr {s t : State} (h : s.Alike t) (b : Bool) : (c.lose b s).Alike (c.lose b t) := by
  unfold lose
  cases b with
  | true => exact c.scheduleRestore_congr h false
  | false => exact h

/-- Two chances to lose are one. -/
theorem lose_lose (a b : Bool) (s : State) : (c.lose b (c.lose a s)).Alike (c.lose (a || b) s) := by
  cases a <;> cases b
  · exact .refl _
  · exact .refl _
  · exact .refl _
  · exact c.scheduleRestore_twice s

@[simp] theorem lose_books (b : Bool) (s : State) :
    (c.lose b s).flags = { s.flags with degraded := b || s.flags.degraded } ∧
      (c.lose b s).registry = s.registry ∧ (c.lose b s).closed = s.closed ∧
      (∀ k, (c.lose b s).process? k =
        if b && !s.own.restoring then
          (s.process? k).or (if k = s.nextId then some (.restore .delaying) else none)
        else s.process? k) ∧
      (c.lose b s).nextId =
        (if b && !s.own.restoring then s.nextId + 1 else s.nextId) ∧
      (c.lose b s).own = { s.own with restoring := b || s.own.restoring } ∧
      (c.lose b s).requests = s.requests := by
  unfold lose
  cases b with
  | true => cases hr : s.own.restoring <;> simp [hr]
  | false => simp

/-! ## Events -/

theorem observe_alike (s : State) (e : Event) :
    (c.observe s e).Alike (c.lose (s.flags.registered && c.hits e) s) := by
  unfold observe hits
  cases he : e.finding c.scope with
  | foreign => constructor <;> simp [lose]
  | garbled service => constructor <;> simp [lose, known]
  | announced service i => constructor <;> simp [lose]
  | misplaced service => constructor <;> simp [lose, known]
  | withdrawn service i =>
    let line := Logging.Line.about i.name "service instance removed" i
    have hs : (s.eraseNoted service i line).Alike s := by constructor <;> simp
    have hr : (s.eraseNoted service i line).flags.registered = s.flags.registered := by simp
    have := c.lose_congr hs (s.flags.registered && i.isAt c.self.address c.self.port)
    simpa only [lose, line, hr] using this

@[simp] theorem observe_registry (s : State) (e : Event) :
    (c.observe s e).registry = (e.finding c.scope).apply s.registry := by
  unfold observe
  cases e.finding c.scope with
  | withdrawn service i =>
    dsimp only
    split <;> simp [Finding.apply]
  | _ => simp [Finding.apply, known]

/-- **A batch of events is one loss or none**, as far as the books beside the cache go. -/
theorem observeAll_alike (s : State) (batch : List Event) :
    (c.observeAll s batch).Alike (c.lose (s.flags.registered && batch.any c.hits) s) := by
  unfold observeAll
  induction batch generalizing s with
  | nil => simpa [lose] using Session.Alike.refl s
  | cons e es ih =>
    -- the first event is one chance to lose, and the others are another
    have he := c.observe_alike s e
    have hr : (c.observe s e).flags.registered = s.flags.registered := by rw [he.flags]; simp
    have h := (ih (c.observe s e)).trans ((c.lose_congr he _).trans (c.lose_lose _ _ s))
    rw [hr, ← Bool.and_or_distrib_left, ← List.any_cons] at h
    exact h

@[simp] theorem observeAll_registry (s : State) (batch : List Event) :
    (c.observeAll s batch).registry =
      batch.foldl (fun r e => (e.finding c.scope).apply r) s.registry := by
  unfold observeAll
  induction batch generalizing s with
  | nil => rfl
  | cons e es ih => simpa using ih (c.observe s e)

/-! ## Snapshots -/

theorem absorb_alike (s : State) (p : String × ByteArray) : (c.absorb s p).Alike s := by
  unfold absorb
  split
  · constructor <;> simp
  · constructor <;> simp
  · constructor <;> simp

theorem absorbAll_alike (s : State) (pairs : List (String × ByteArray)) :
    (pairs.foldl c.absorb s).Alike s := by
  induction pairs generalizing s with
  | nil => exact .refl s
  | cons p ps ih => exact (ih (c.absorb s p)).trans (c.absorb_alike s p)

end Leased.Settings

namespace Leased

theorem sweep_alike (announced : List (String × Instance)) (s : State) :
    (sweep announced s).Alike s := by
  constructor <;> simp [sweep]

@[simp] theorem sweep_registry (announced : List (String × Instance)) (s : State) :
    (sweep announced s).registry = s.registry.restrict (holds announced) := by
  simp [sweep]

namespace Settings

variable (c : Settings)

/-- Whether a full snapshot shows that the own registration is gone. -/
def misses (full : Bool) (snap : Snapshot) : Bool :=
  full && !holds (snap.announced c.scope) c.self.name c.self.endpoint

/-- **A snapshot is one loss or none**, as far as the books beside the cache go. -/
theorem synchronise_alike (full : Bool) (snap : Snapshot) (s : State) :
    (c.synchronise full snap s).Alike
      (c.lose (s.flags.registered && c.misses full snap) s) := by
  have hp := c.absorbAll_alike s snap.pairs
  unfold synchronise misses
  cases full with
  | false => simpa [lose] using hp
  | true =>
    have hs := (sweep_alike (snap.announced c.scope) (snap.pairs.foldl c.absorb s)).trans hp
    simp only [if_true, Bool.true_and, hs.flags]
    unfold lose
    split
    · refine c.scheduleRestore_congr ?_ false
      constructor <;> simp [hs.flags, hs.closed, hs.process?, hs.nextId, hs.own, hs.requests]
    · exact hs

/-- Merging the pairs of a snapshot adds what they announce. -/
theorem absorbAll_registry (s : State) (pairs : List (String × ByteArray)) (rev : Int) :
    (pairs.foldl c.absorb s).registry =
      (Snapshot.announced c.scope ⟨rev, pairs⟩).foldl (fun g q => g.insert q.1 q.2) s.registry := by
  induction pairs generalizing s with
  | nil => rfl
  | cons p ps ih =>
    rw [List.foldl_cons, ih]
    unfold Snapshot.announced absorb
    rw [List.filterMap_cons]
    cases findPut c.scope p.1 p.2 <;> simp

/-- **The cache after a snapshot**: what it announces is added, and of a full one nothing else stays. -/
theorem synchronise_registry (full : Bool) (snap : Snapshot) (s : State) :
    (c.synchronise full snap s).registry =
      let added := (snap.announced c.scope).foldl (fun g q => g.insert q.1 q.2) s.registry
      if full then added.restrict (holds (snap.announced c.scope)) else added := by
  have hp : (snap.pairs.foldl c.absorb s).registry = _ :=
    c.absorbAll_registry s snap.pairs snap.revision
  unfold synchronise
  cases full with
  | false => exact hp
  | true =>
    simp only [if_true]
    split
    · simp [hp]
    · simp [hp]

/-! ## Registrations -/

@[simp] theorem enrol_books (lease : Int) (stream : Nat) (s : State) :
    (c.enrol lease stream s).flags = { s.flags with registered := true, degraded := false } ∧
      (c.enrol lease stream s).registry = s.registry ∧
      (c.enrol lease stream s).closed = s.closed ∧
      (∀ k, (c.enrol lease stream s).process? k =
        (s.process? k).or (if k = s.nextId then some (.renewal lease stream) else none)) ∧
      (c.enrol lease stream s).nextId = s.nextId + 1 ∧
      (c.enrol lease stream s).own =
        { s.own with lease := some lease, renewal := some s.nextId } ∧
      (c.enrol lease stream s).requests = s.requests := by
  simp [enrol, Session.process?_spawn]

end Settings

/-! ## Tasks that begin and end -/

@[simp] theorem armWatch_books (start : Option Int) (s : State) :
    (armWatch start s).flags = s.flags ∧ (armWatch start s).registry = s.registry ∧
      (armWatch start s).closed = s.closed ∧
      (∀ k, (armWatch start s).process? k =
        if s.closed || s.own.watching then s.process? k
        else (s.process? k).or (if k = s.nextId then some (.watch (.fresh start)) else none)) ∧
      (armWatch start s).nextId =
        (if s.closed || s.own.watching then s.nextId else s.nextId + 1) ∧
      (armWatch start s).own =
        (if s.closed || s.own.watching then s.own else { s.own with watching := true }) ∧
      (armWatch start s).requests = s.requests := by
  unfold armWatch
  split
  · simp
  · simp [Session.process?_spawn]

@[simp] theorem endWatch_books (s : State) (id : Nat) :
    (endWatch s id).flags = { s.flags with watching := false } ∧
      (endWatch s id).registry = s.registry ∧ (endWatch s id).closed = s.closed ∧
      (∀ k, (endWatch s id).process? k = (s.finish id).process? k) ∧
      (endWatch s id).nextId = s.nextId ∧
      (endWatch s id).own = { s.own with watching := false } ∧
      (endWatch s id).requests = s.requests := by
  simp [endWatch]

@[simp] theorem endRestore_books (s : State) (id : Nat) :
    (endRestore s id).flags = s.flags ∧ (endRestore s id).registry = s.registry ∧
      (endRestore s id).closed = s.closed ∧
      (∀ k, (endRestore s id).process? k = (s.finish id).process? k) ∧
      (endRestore s id).nextId = s.nextId ∧
      (endRestore s id).own = { s.own with restoring := false } ∧
      (endRestore s id).requests = s.requests := by
  simp [endRestore]

/-- **A deregistration gives the registration up**, with its lease and the task that renews it. -/
@[simp] theorem deregister_books (s : State) :
    (deregister s).flags = { s.flags with registered := false } ∧
      (deregister s).registry = s.registry ∧ (deregister s).closed = s.closed ∧
      (deregister s).own = { s.own with called := false, renewal := none, lease := none } := by
  unfold deregister
  cases s.own.lease <;> simp

end Leased

end Muster
