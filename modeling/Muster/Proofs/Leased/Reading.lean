/-
  The processes that read the store, and everything beside them.

  Three kinds of processes merge what a store reports: the first load, a query for a name that is not
  cached, and the watch.  They are the READERS.  Whoever is none of them leaves the cache alone, and the
  readers with what they have asked for: it stands `Aside`.

  (1) `Turn.aside`, `Turn.registry_eq` — every turn of another process stands aside;
  (2) `aside_deregister`, `Aside.begin` — and so do the calls that start no reader;
  (3) `Turn.reads_of_contents`, `Turn.reading_of_changes` — snapshots and changes are only taken by
      readers.
-/
import Muster.Proofs.Leased.Standing

namespace Muster.Leased

/-! ## Readers -/

/-- Whether a process merges what a store reports. -/
def Process.reads : Process → Bool
  | .starting | .querying _ | .watch _ => true
  | _ => false

namespace State

/-- The process with a number, if it is a reader. -/
def readers (s : State) (k : Nat) : Option Process := (s.process? k).filter Process.reads

/-- The last request of a process. -/
def asked (s : State) (k : Nat) : Option Request := s.requests.lookup k

end State

/-- One of the readers has a number EXACTLY when the readers have it there. -/
theorem readers_iff {s : State} {k : Nat} {p : Process} (hp : p.reads = true) :
    s.readers k = some p ↔ s.process? k = some p := by
  rw [State.readers, Option.filter_eq_some_iff]
  exact ⟨fun h => h.1, fun h => ⟨h, hp⟩⟩

theorem readers_none {s : State} {k : Nat} {p : Process} (h : s.process? k = some p)
    (hp : p.reads = false) : s.readers k = none := by
  simp [State.readers, h, Option.filter, hp]

/-- A reader that goes on as a reader is the only one that is another. -/
theorem readers_become {s : State} {id : Nat} {p q : Process} (hid : s.readers id = some p)
    (hq : q.reads = true) (k : Nat) :
    State.readers (s.become id q) k = if k = id then some q else s.readers k := by
  obtain ⟨hp, -⟩ := Option.filter_eq_some_iff.1 hid
  rw [State.readers, Session.process?_become, hp]
  split
  · simp [Option.filter, hq]
  · rfl

theorem readers_finish (s : State) (id k : Nat) :
    State.readers (s.finish id) k = if k = id then none else s.readers k := by
  rw [State.readers, Session.process?_finish]
  split <;> rfl

/-- **Nothing happened to the readers**: there is a watch if there was one, and the readers are the
    same and wait for the same answers. -/
structure Aside (s t : State) : Prop where
  watching : t.own.watching = s.own.watching
  readers : ∀ k, t.readers k = s.readers k
  asked : ∀ k p, s.readers k = some p → t.asked k = s.asked k

namespace Aside

variable {s t u : State} {id : Nat}

theorem refl (s : State) : Aside s s := ⟨rfl, fun _ => rfl, fun _ _ _ => rfl⟩

theorem trans (h : Aside s t) (g : Aside t u) : Aside s u where
  watching := g.watching.trans h.watching
  readers k := (g.readers k).trans (h.readers k)
  asked k p hk := (g.asked k p ((h.readers k).trans hk)).trans (h.asked k p hk)

/-- What leaves the processes and their requests alone. -/
theorem of_books (hw : t.own.watching = s.own.watching)
    (hp : ∀ k, t.process? k = s.process? k) (hq : t.requests = s.requests) : Aside s t where
  watching := hw
  readers k := by rw [State.readers, hp, State.readers]
  asked k _ _ := by rw [State.asked, hq, State.asked]

theorem note (s : State) (l : Logging.Line) : Aside s (s.note l) :=
  .of_books (by simp) (by simp) (by simp)

theorem notes (s : State) (ls : List Logging.Line) : Aside s (s.notes ls) :=
  .of_books (by simp) (by simp) (by simp)

theorem instant (s : State) (o : Outcome) : Aside s (s.instant o) :=
  .of_books (by simp) (by simp) (by simp)

/-- A number that is no reader's can be taken by anybody but a reader. -/
theorem become (h : s.readers id = none) {q : Process} (hq : q.reads = false) :
    Aside s (s.become id q) where
  watching := rfl
  readers k := by
    rw [State.readers, Session.process?_become]
    by_cases hk : k = id
    · subst hk
      rw [if_pos rfl, h]
      cases s.process? k <;> simp [Option.filter, hq]
    · rw [if_neg hk, State.readers]
  asked _ _ _ := rfl

theorem finish (h : s.readers id = none) : Aside s (s.finish id) where
  watching := rfl
  readers k := by
    rw [State.readers, Session.process?_finish]
    by_cases hk : k = id
    · subst hk; rw [if_pos rfl, h]; rfl
    · rw [if_neg hk, State.readers]
  asked _ _ _ := rfl

theorem ask (h : s.readers id = none) (r : Request) {q : Process} (hq : q.reads = false) :
    Aside s (s.ask id r q) where
  watching := rfl
  readers := (become h hq).readers
  asked k p hk := by
    have hne : k ≠ id := fun he => by rw [he, h] at hk; cases hk
    have hreq : (s.ask id r q).requests = (id, r) :: s.requests := by simp
    rw [State.asked, hreq, List.lookup_cons, beq_eq_false_iff_ne.2 hne, State.asked]

theorem answer (h : s.readers id = none) (o : Outcome) : Aside s (s.answer id o) :=
  (finish h).trans (.of_books (by simp) (by simp) (by simp))

theorem spawn (s : State) {p : Process} (hp : p.reads = false) : Aside s (s.spawn p) where
  watching := rfl
  readers k := by rw [State.readers, Session.process?_spawn, filter_or_neg _ hp, State.readers]
  asked _ _ _ := rfl

theorem scheduleRestore (c : Settings) (forced : Bool) (s : State) :
    Aside s (c.scheduleRestore forced s) where
  watching := by simp
  readers k := by
    simp only [State.readers, Settings.scheduleRestore_books]
    split
    · rfl
    · exact filter_or_neg _ rfl _
  asked k _ _ := by simp [State.asked]

theorem enrol (c : Settings) (lease : Int) (stream : Nat) (s : State) :
    Aside s (c.enrol lease stream s) where
  watching := by simp
  readers k := by
    simp only [State.readers, Settings.enrol_books]
    exact filter_or_neg _ rfl _
  asked k _ _ := by simp [State.asked]

theorem endRestore (h : s.readers id = none) : Aside s (endRestore s id) :=
  (finish h).trans (.of_books (by simp) (by simp) (by simp))

/-- A loss is no concern of the readers. -/
theorem of_lose {c : Settings} {b : Bool} (h : t.Alike (c.lose b s)) : Aside s t := by
  refine trans (t := c.lose b s) ?_ (.of_books (by rw [h.own]) h.process? h.requests)
  cases b with
  | true => exact scheduleRestore c false s
  | false => exact refl s

theorem begin (h : s.Numbered) (r : Request) {p : Process} (hp : p.reads = false) :
    Aside s (s.begin r p) := by
  have hs := spawn s hp
  refine hs.trans (ask ?_ r hp)
  rw [hs.readers, State.readers, h.process?_nextId]; rfl

end Aside

/-! ## Turns -/

/-- **Every turn of a process that is no reader stands aside.** -/
theorem Turn.aside {c : Settings} {s t : State} {id : Nat} {p : Process}
    {sig : Signal Reply Item} (h : Turn c s id p sig t) (hid : s.process? id = some p)
    (hp : p.reads = false) : Aside s t := by
  have hs : s.readers id = none := readers_none hid hp
  have hthen {u : State} (hu : Aside s u) : u.readers id = none := (hu.readers id).trans hs
  cases h with
  | asks q next | restoreAsks q next => exact .ask hs q rfl
  | retries => exact .ask hs _ rfl
  | enrols lease stream =>
    have hu := Aside.enrol c lease stream s
    exact hu.trans (.answer (hthen hu) _)
  | refused f l =>
    have hu : Aside s (({ s with own := { s.own with called := false } } : State).note l) :=
      .of_books (by simp) (by simp) (by simp)
    exact hu.trans (.answer (hthen hu) _)
  | revokes l =>
    have hu := Aside.note s l
    exact hu.trans (.answer (hthen hu) _)
  | revokeFails f => exact .answer hs _
  | closes l =>
    have hu : Aside s ((s.setWatching false).note l) :=
      .of_books (by simp) (by simp) (by simp)
    exact hu.trans (.answer (hthen hu) _)
  | renews ttl l => exact .note s l
  | renewalLost ls l =>
    have hu := Aside.notes s ls
    have hv := (hu.trans (.finish (hthen hu))).trans (.note _ l)
    exact hv.trans (.scheduleRestore c true _)
  | renewalEnds ls l =>
    have hu := Aside.notes s ls
    exact (hu.trans (.finish (hthen hu))).trans (.note _ l)
  | renewalStops l =>
    have hu := Aside.note s l
    exact hu.trans (.finish (hthen hu))
  | skips l =>
    have hu : Aside s
        ((({ s with own := { s.own with forced := false } } : State).note l).setDegraded false) :=
      .of_books (by simp) (by simp) (by simp)
    exact hu.trans (.endRestore (hthen hu))
  | wakes =>
    have hu : Aside s { s with own := { s.own with forced := false } } :=
      .of_books rfl (fun _ => rfl) rfl
    exact hu.trans (.ask (hthen hu) _ rfl)
  | yields forced l =>
    have hu : Aside s (({ s with own := { s.own with forced := forced } } : State).note l) :=
      .of_books (by simp) (by simp) (by simp)
    exact hu.trans (.endRestore (hthen hu))
  | restoreStops => exact .endRestore hs
  | restores lease stream l =>
    have hu := (Aside.enrol c lease stream s).trans (.note _ l)
    exact hu.trans (.endRestore (hthen hu))
  | backsOff f l =>
    have hu := Aside.note s l
    exact hu.trans (.become (hthen hu) rfl)
  | givesUp f l =>
    have hu := Aside.note s l
    exact hu.trans (.endRestore (hthen hu))
  | _ => cases hp

/-- It leaves the cache alone, too. -/
theorem Turn.registry_eq {c : Settings} {s t : State} {id : Nat} {p : Process}
    {sig : Signal Reply Item} (h : Turn c s id p sig t) (hp : p.reads = false) :
    t.registry = s.registry := by
  cases h with
  | loads | loadFails | finds | findFails | watches | syncs | synced | opens | observes | breaks =>
    cases hp
  | _ => simp

/-- **A snapshot is only taken by readers**: by the first load, by a query, or by a watch that has
    asked for it. -/
theorem Turn.reads_of_contents {c : Settings} {s t : State} {id : Nat} {p : Process}
    {snap : Snapshot} (h : Turn c s id p (.reply (.ok (.contents snap))) t) : p.reads = true := by
  cases h with
  | loads | finds | synced => rfl
  | breaks _ _ hno => exact absurd rfl (hno snap)
  | asks q next hr hg | enrols lease stream hr hg | refused f l hr hg | restoreAsks q next hr hg
  | restores lease stream l hr hg | backsOff f l hr hg hp | givesUp f l hr hg hp =>
    obtain rfl := Option.some.inj hr
    rename_i stage
    cases stage <;> cases hg
  | revokeFails f hr | findFails f l hr => cases hr

/-- **Changes are only taken by a watch.** -/
theorem Turn.reading_of_changes {c : Settings} {s t : State} {id : Nat} {p : Process}
    {batch : List Event} (h : Turn c s id p (.item (some (.ok (.changes batch)))) t) :
    ∃ stream, p = .watch (.reading stream) := by
  cases h with
  | observes => exact ⟨_, rfl⟩
  | breaks _ hno => exact absurd rfl (hno batch)
  | renewalLost _ _ hno | renewalEnds _ _ hno => exact absurd rfl (hno _)
  | asks _ _ hr | enrols _ _ hr | refused _ _ hr | revokeFails _ hr | findFails _ _ hr
  | restoreAsks _ _ hr | restores _ _ _ hr | backsOff _ _ hr | givesUp _ _ hr => cases hr

/-! ## Calls -/

theorem aside_deregister {s : State} (h : s.Numbered) : Aside s (deregister s) := by
  let u : State := { s.setRegistered false with
    own := { s.own with called := false, renewal := none, lease := none } }
  have hu : Aside s u := .of_books rfl (fun _ => rfl) rfl
  have hn : u.Numbered := h
  unfold deregister
  cases s.own.lease with
  | some lease => exact hu.trans (.begin hn _ rfl)
  | none => exact hu.trans (.instant u _)

end Muster.Leased
