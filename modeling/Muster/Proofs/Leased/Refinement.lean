/-
  The cache of a lease backend follows the store.

  A backend and a store together are a `World`.  Either of them moves: somebody changes a key, the store
  delivers changes to a watch, or the backend acts.  The store keeps three promises (`Honest`):

  (1) its revisions grow, and under the lead of the namespace nobody writes but registrations;
  (2) a snapshot is what the store held at some moment after the snapshot was asked for;
  (3) a watch is delivered every change under its lead from its start on, in their order, in batches of
      any size; but it may fail or end at any moment.

  Nothing is promised about WHEN anything happens, nor that it does.  The backend may be called in any
  way, but it is loaded only once, and it is asked only for names that it knows: the snapshot that it
  takes for an unknown name is merged without taking anything away.

  `follows_store` — at every moment, the cache is what the store held at ONE revision, and this revision
  never decreases.  The ghost `World.seen` is that revision: that of the last snapshot or change.

  THE CRUX is `Stage`, what a watch may rely on at each stage.  A change after `seen` and before the
  `cursor` of a watch that reads would be lost for ever.  There is none (`Stage.reading`), because the
  stream was asked for from the revision after `seen`.
-/
import Muster.Proofs.Leased.Reading
import Muster.Proofs.Leased.Store

namespace Muster.Leased

/-! ## Worlds -/

/-- **A backend and a store.** -/
structure World where
  session : State
  store : Store
  /-- The revision of the last snapshot or change that was merged. -/
  seen : Int
  /-- The revision of the store when a task had its first turn. -/
  since : Nat → Int
  /-- The first revision that was not yet delivered to a watch. -/
  cursor : Nat → Int

/-- What can happen in a world. -/
inductive Move where
  /-- Somebody changes a key. -/
  | commit (q : Change)
  /-- The store delivers to a watch what it has before a revision. -/
  | deliver (id : Nat) (next : Int)
  /-- The backend acts. -/
  | act (a : Act)

/-- A function with another value at one number. -/
def assign (f : Nat → Int) (id : Nat) (x : Int) : Nat → Int := fun k => if k = id then x else f k

namespace World

/-- The lead and the start that a process has asked to watch, if it has. -/
def watched (w : World) (id : Nat) : Option (String × Int) :=
  match w.session.asked id with
  | some (.watch lead start) => some (lead, start)
  | _ => none

/-- The revision that the cache has reached after an act. -/
def seenAfter (w : World) : Act → Int
  | .signal _ (.reply (.ok (.contents snap))) => snap.revision
  | _ => w.seen

/-- A task that has its first turn may ask from now on. -/
def sinceAfter (w : World) : Act → Nat → Int
  | .signal id .turn => assign w.since id w.store.revision
  | _ => w.since

/-- A stream that is opened delivers from its start on. -/
def cursorAfter (w : World) : Act → Nat → Int
  | .signal id (.reply (.ok (.opened _))) =>
    match w.watched id with
    | some (_, start) => assign w.cursor id start
    | none => w.cursor
  | _ => w.cursor

/-- The changes that are delivered to a process that watches a lead. -/
def batch (w : World) (id : Nat) (lead : String) (next : Int) : List Change :=
  w.store.between lead (w.cursor id) next

/-- **The world after a move**, if it can happen. -/
def move (c : Settings) (w : World) : Move → Option World
  | .commit q => some { w with store := w.store.commit q }
  | .deliver id next => (w.watched id).bind fun p =>
    let qs := w.batch id p.1 next
    (c.act w.session (.signal id (.item (some (.ok (.changes (qs.map Prod.snd))))))).map fun t =>
      { w with session := t, seen := reached w.seen qs, cursor := assign w.cursor id next }
  | .act a => (c.act w.session a).map fun t =>
    { w with session := t, seen := w.seenAfter a, since := w.sinceAfter a, cursor := w.cursorAfter a }

/-- **The store keeps its promises, and the backend is called as it should be.** -/
def Honest (c : Settings) (w : World) : Move → Prop
  | .commit q => w.store.revision < q.1 ∧
      (Text.startsWith c.lead q.2.key = true → Written c.scope q.2)
  | .deliver id next => w.cursor id ≤ next ∧ next ≤ w.store.revision + 1
  | .act (.call .start) => False
  | .act (.call (.instances service)) => w.session.registry.contains service = true
  | .act (.signal id (.reply (.ok (.contents snap)))) =>
      ∀ lead, w.session.asked id = some (.range lead) →
        w.since id ≤ snap.revision ∧ w.store.Reports lead snap
  | .act (.signal _ (.item (some (.ok (.changes _))))) => False
  | .act _ => True

/-- **A run of a world** on which the store keeps its promises. -/
structure Trail (c : Settings) (w : World) (turns : List (World × Move)) (u : World) : Prop where
  run : Run (move c) w turns u
  honest : ∀ p ∈ turns, p.1.Honest c p.2

theorem Trail.nil (c : Settings) (w : World) : Trail c w [] w := ⟨.nil w, fun _ hp => nomatch hp⟩

theorem Trail.cons {c : Settings} {w v u : World} {m : Move} {turns : List (World × Move)}
    (hm : w.move c m = some v) (hh : w.Honest c m) (h : Trail c v turns u) :
    Trail c w ((w, m) :: turns) u :=
  ⟨.cons hm h.run, List.forall_mem_cons.2 ⟨hh, h.honest⟩⟩

/-- **A new backend has just been loaded.** -/
structure Loaded (c : Settings) (w : World) : Prop where
  valid : w.store.Valid c.scope
  load : ∃ snap, w.store.Reports c.lead snap ∧ snap.revision = w.seen ∧
    c.act (c.call .initial .start) (.signal 0 (.reply (.ok (.contents snap)))) = some w.session

variable {w : World}

/-- A number with its new value has it. -/
@[simp] theorem assign_self (f : Nat → Int) (id : Nat) (x : Int) : assign f id x id = x := if_pos rfl

theorem assign_of_ne {f : Nat → Int} {id k : Nat} {x : Int} (h : k ≠ id) : assign f id x k = f k :=
  if_neg h

theorem seenAfter_eq {id : Nat} {sig : Signal Reply Item}
    (h : ∀ snap, sig ≠ .reply (.ok (.contents snap))) : w.seenAfter (.signal id sig) = w.seen := by
  unfold seenAfter
  split
  · rename_i he
    exact absurd (Act.signal.inj he).2 (h _)
  · rfl

/-- A signal is nothing to the tasks that do not get it. -/
theorem sinceAfter_of_ne {id k : Nat} {sig : Signal Reply Item} (h : k ≠ id) :
    w.sinceAfter (.signal id sig) k = w.since k := by
  cases sig with
  | turn => exact assign_of_ne h
  | _ => rfl

theorem cursorAfter_of_ne {id k : Nat} {sig : Signal Reply Item} (h : k ≠ id) :
    w.cursorAfter (.signal id sig) k = w.cursor k := by
  cases sig with
  | reply r =>
    cases r with
    | ok q =>
      cases q with
      | opened stream =>
        simp only [cursorAfter]
        cases w.watched id with
        | some p => exact assign_of_ne h
        | none => rfl
      | _ => rfl
    | error => rfl
  | _ => rfl

theorem watched_eq {id : Nat} {lead : String} {start : Int}
    (h : w.session.asked id = some (.watch lead start)) : w.watched id = some (lead, start) := by
  rw [watched, h]

/-! ## The invariant -/

/-- **What a watch may rely on**, at each of its stages. -/
inductive Stage (c : Settings) (w : World) (id : Nat) : Watch → Prop
  | begins : Stage c w id (.fresh none)
  /-- It will read on from where the cache is. -/
  | continues : Stage c w id (.fresh (some (w.seen + 1)))
  /-- Whatever snapshot it gets, the cache is not ahead of it. -/
  | syncing : w.session.asked id = some (.range c.lead) → w.seen ≤ w.since id →
      Stage c w id .syncing
  | opening : w.session.asked id = some (.watch c.lead (w.seen + 1)) →
      Stage c w id (.opening (w.seen + 1))
  /-- There is no change between what the cache has and what is delivered next. -/
  | reading {stream : Nat} (start : Int) : w.session.asked id = some (.watch c.lead start) →
      w.seen < w.cursor id → w.cursor id ≤ w.store.revision + 1 →
      (∀ q ∈ w.store.under c.lead, q.1 ≤ w.seen ∨ w.cursor id ≤ q.1) →
      Stage c w id (.reading stream)

/-- What a watch may rely on is a matter of its own books, of the store, and of the cache. -/
theorem Stage.congr {c : Settings} {w v : World} {id : Nat} {x : Watch} (h : Stage c w id x)
    (hseen : v.seen = w.seen) (hstore : v.store = w.store)
    (hasked : v.session.asked id = w.session.asked id) (hsince : v.since id = w.since id)
    (hcursor : v.cursor id = w.cursor id) : Stage c v id x := by
  cases h with
  | begins => exact .begins
  | continues => rw [← hseen]; exact .continues
  | syncing ha hs => exact .syncing (hasked.trans ha) (by rw [hseen, hsince]; exact hs)
  | opening ha => rw [← hseen] at ha ⊢; exact .opening (hasked.trans ha)
  | reading start ha hlt hle hgap =>
    refine .reading start (hasked.trans ha) ?_ ?_ ?_
    · rw [hseen, hcursor]; exact hlt
    · rw [hstore, hcursor]; exact hle
    · rw [hstore, hseen, hcursor]; exact hgap

/-- **The cache follows the store**: it shows the history up to a revision, and the only process that
    reads is a watch which may rely on its stage. -/
structure Follows (c : Settings) (w : World) : Prop where
  numbered : w.session.Numbered
  valid : w.store.Valid c.scope
  bounded : w.seen ≤ w.store.revision
  shows : Shows c.scope w.session.registry (w.store.shown c.scope w.seen)
  watching : ∀ k p, w.session.readers k = some p → w.session.own.watching = true
  alone : ∀ k k' p p', w.session.readers k = some p → w.session.readers k' = some p' → k = k'
  stage : ∀ k p, w.session.readers k = some p → ∃ x, p = .watch x ∧ Stage c w k x

namespace Follows

variable {c : Settings} {w v : World}

/-- With a single watch, that watch is all that has to be seen to. -/
theorem of_alone (id : Nat) (x : Watch) (hn : v.session.Numbered) (hvalid : v.store.Valid c.scope)
    (hbounded : v.seen ≤ v.store.revision)
    (hshows : Shows c.scope v.session.registry (v.store.shown c.scope v.seen))
    (hwatching : v.session.own.watching = true)
    (hlone : ∀ k p, v.session.readers k = some p → k = id ∧ p = .watch x)
    (hstage : Stage c v id x) : Follows c v := by
  refine ⟨hn, hvalid, hbounded, hshows, fun _ _ _ => hwatching, ?_, ?_⟩
  · intro k k' p p' hk hk'
    rw [(hlone k p hk).1, (hlone k' p' hk').1]
  · intro k p hk
    obtain ⟨rfl, rfl⟩ := hlone k p hk
    exact ⟨x, rfl, hstage⟩

theorem fitting (h : Follows c w) : Fitting w.session.registry :=
  h.shows.fitting (h.valid.written_shown w.seen)

/-! ## Moves of the store -/

theorem under_commit (st : Store) (q : Change) (lead : String) :
    (st.commit q).under lead =
      st.under lead ++ if Text.startsWith lead q.2.key then [q] else [] := by
  simp only [Store.under, Store.commit, List.filter_append, List.filter_cons, List.filter_nil]

/-- **A change that is not delivered is not seen**, and closes no gap. -/
theorem commit (h : Follows c w) {q : Change} (hq : w.store.revision < q.1)
    (hw : Text.startsWith c.lead q.2.key = true → Written c.scope q.2) :
    Follows c { w with store := w.store.commit q } where
  numbered := h.numbered
  valid := by
    refine ⟨?_, fun p hp => ?_, fun p hp hl => ?_⟩
    · refine List.pairwise_append.2 ⟨h.valid.sorted, List.pairwise_singleton .., fun p hp r hr => ?_⟩
      rw [List.mem_singleton.1 hr]
      have := h.valid.bounded p hp
      omega
    · show p.1 ≤ q.1
      rcases List.mem_append.1 hp with hp | hp
      · have := h.valid.bounded p hp
        omega
      · exact Int.le_of_eq (congrArg Prod.fst (List.mem_singleton.1 hp))
    · rcases List.mem_append.1 hp with hp | hp
      · exact h.valid.written p hp hl
      · rw [List.mem_singleton.1 hp] at hl ⊢
        exact hw hl
  bounded := by
    show w.seen ≤ q.1
    have := h.bounded
    omega
  shows := by
    have hsame : (w.store.commit q).shown c.scope w.seen = w.store.shown c.scope w.seen := by
      -- the new change is later than all that was seen
      have hlt : ¬ q.1 ≤ w.seen := by have := h.bounded; omega
      unfold Store.shown
      rw [under_commit, List.filter_append]
      split
      · simp [hlt]
      · simp
    exact hsame ▸ h.shows
  watching := h.watching
  alone := h.alone
  stage k p hp := by
    obtain ⟨x, rfl, hx⟩ := h.stage k p hp
    refine ⟨x, rfl, ?_⟩
    cases hx with
    | begins => exact .begins
    | continues => exact .continues
    | syncing ha hs => exact .syncing ha hs
    | opening ha => exact .opening ha
    | reading start ha hlt hle hgap =>
      refine .reading start ha hlt ?_ fun p hp => ?_
      · show w.cursor k ≤ q.1 + 1
        omega
      · show p.1 ≤ w.seen ∨ w.cursor k ≤ p.1
        rw [under_commit] at hp
        rcases List.mem_append.1 hp with hp | hp
        · exact hgap p hp
        · -- a new change is later than all that was delivered
          split at hp
          · rw [List.mem_singleton.1 hp]
            exact .inr (by omega)
          · cases hp

/-! ## Moves beside the readers -/

/-- **Whoever stands aside does not disturb.** -/
theorem aside (h : Follows c w) (ha : Aside w.session v.session) (hn : v.session.Numbered)
    (hr : v.session.registry = w.session.registry) (hseen : v.seen = w.seen)
    (hstore : v.store = w.store)
    (hsince : ∀ k p, w.session.readers k = some p → v.since k = w.since k)
    (hcursor : ∀ k p, w.session.readers k = some p → v.cursor k = w.cursor k) : Follows c v where
  numbered := hn
  valid := hstore ▸ h.valid
  bounded := by rw [hseen, hstore]; exact h.bounded
  shows := by rw [hr, hstore, hseen]; exact h.shows
  watching k p hp := by
    rw [ha.watching]
    exact h.watching k p ((ha.readers k).symm.trans hp)
  alone k k' p p' hp hp' :=
    h.alone k k' p p' ((ha.readers k).symm.trans hp) ((ha.readers k').symm.trans hp')
  stage k p hp := by
    have hk := (ha.readers k).symm.trans hp
    obtain ⟨x, rfl, hx⟩ := h.stage k p hk
    exact ⟨x, rfl, Stage.congr hx hseen hstore (ha.asked k _ hk) (hsince k _ hk) (hcursor k _ hk)⟩

/-- Without a watch there is no reader. -/
theorem readers_of_unwatched (h : Follows c w) (hw : w.session.own.watching = false) (k : Nat) :
    w.session.readers k = none := by
  cases hk : w.session.readers k with
  | none => rfl
  | some p => rw [h.watching k p hk] at hw; cases hw

/-- **A watch may begin whenever there is none.** -/
theorem armWatch (h : Follows c w) :
    Follows c { w with session := armWatch none w.session } := by
  by_cases hb : w.session.closed = true ∨ w.session.own.watching = true
  · have hsame : Leased.armWatch none w.session = w.session := by
      rw [Leased.armWatch, if_pos (by simpa using hb)]
    rw [hsame]
    exact h
  · obtain ⟨hclosed, hwatch⟩ := not_or.1 hb
    simp only [Bool.not_eq_true] at hclosed hwatch
    have hnone := h.readers_of_unwatched hwatch
    have hreaders (k : Nat) : (Leased.armWatch none w.session).readers k =
        if k = w.session.nextId then some (.watch (.fresh none)) else none := by
      have hk := hnone k
      simp only [State.readers, armWatch_books, hclosed, hwatch] at hk ⊢
      by_cases hn : k = w.session.nextId
      · rw [hn, h.numbered.process?_nextId]; simp [Option.filter, Process.reads]
      · simpa [hn] using hk
    refine of_alone w.session.nextId (.fresh none) (numbered_armWatch h.numbered none) h.valid
      h.bounded ?_ ?_ ?_ .begins
    · simpa using h.shows
    · simp [hclosed, hwatch]
    · intro k p hk
      rw [hreaders] at hk
      split at hk
      · exact ⟨‹_›, (Option.some.inj hk).symm⟩
      · cases hk

/-! ## Moves of the watch -/

/-- **The watch goes on**: what it is, and may rely on, is all that has to be seen to. -/
theorem goesOn {id : Nat} {p : Process} {x : Watch} (h : Follows c w)
    (hid : w.session.readers id = some p) (hn : v.session.Numbered) (hvalid : v.store.Valid c.scope)
    (hbounded : v.seen ≤ v.store.revision)
    (hshows : Shows c.scope v.session.registry (v.store.shown c.scope v.seen))
    (hwatching : v.session.own.watching = w.session.own.watching)
    (hreaders : ∀ k, v.session.readers k =
      if k = id then some (.watch x) else w.session.readers k)
    (hstage : Stage c v id x) : Follows c v := by
  refine of_alone id x hn hvalid hbounded hshows (hwatching.trans (h.watching id p hid)) ?_ hstage
  intro k q hk
  rw [hreaders] at hk
  split at hk
  · exact ⟨‹_›, (Option.some.inj hk).symm⟩
  · exact absurd (h.alone k id q p hk hid) ‹_›

/-- **The watch ends**, and the cache stays where it is. -/
theorem ends {id : Nat} {p : Process} (h : Follows c w) (hid : w.session.readers id = some p)
    (hn : v.session.Numbered) (hr : v.session.registry = w.session.registry)
    (hseen : v.seen = w.seen) (hstore : v.store = w.store)
    (hreaders : ∀ k, v.session.readers k = if k = id then none else w.session.readers k) :
    Follows c v := by
  have hnone (k : Nat) : v.session.readers k = none := by
    rw [hreaders]
    split
    · rfl
    · cases hk : w.session.readers k with
      | none => rfl
      | some q => exact absurd (h.alone k id q p hk hid) ‹_›
  refine ⟨hn, hstore ▸ h.valid, ?_, ?_, ?_, ?_, ?_⟩
  · rw [hseen, hstore]; exact h.bounded
  · rw [hr, hstore, hseen]; exact h.shows
  · intro k q hk; rw [hnone] at hk; cases hk
  · intro k k' q q' hk; rw [hnone] at hk; cases hk
  · intro k q hk; rw [hnone] at hk; cases hk

/-- **A signal to a process that is no reader.** -/
theorem signal_aside (h : Follows c w) {id : Nat} {sig : Signal Reply Item} {p : Process} {t : State}
    (hid : w.session.process? id = some p) (hp : p.reads = false)
    (ht : Turn c w.session id p sig t) (hn : t.Numbered) :
    w.seenAfter (.signal id sig) = w.seen ∧ Follows c { w with
      session := t, seen := w.seenAfter (.signal id sig), since := w.sinceAfter (.signal id sig),
      cursor := w.cursorAfter (.signal id sig) } := by
  have hseen : w.seenAfter (.signal id sig) = w.seen := by
    refine seenAfter_eq fun snap he => ?_
    subst he
    have := ht.reads_of_contents
    rw [hp] at this
    cases this
  have hne {k : Nat} {q : Process} (hk : w.session.readers k = some q) : k ≠ id := by
    rintro rfl
    rw [readers_none hid hp] at hk
    cases hk
  refine ⟨hseen, h.aside (ht.aside hid hp) hn (ht.registry_eq hp) hseen rfl ?_ ?_⟩
  · exact fun k q hk => sinceAfter_of_ne (hne hk)
  · exact fun k q hk => cursorAfter_of_ne (hne hk)

/-- **A signal to the watch.** -/
theorem signal_watch (h : Follows c w) {id : Nat} {sig : Signal Reply Item} {x : Watch} {t : State}
    (hid : w.session.readers id = some (.watch x)) (hx : Stage c w id x)
    (hh : w.Honest c (.act (.signal id sig))) (ht : Turn c w.session id (.watch x) sig t)
    (hn : t.Numbered) :
    w.seen ≤ w.seenAfter (.signal id sig) ∧ Follows c { w with
      session := t, seen := w.seenAfter (.signal id sig), since := w.sinceAfter (.signal id sig),
      cursor := w.cursorAfter (.signal id sig) } := by
  have hbounded := h.bounded
  cases ht with
  | watches start =>
    cases hx with
    | continues =>
      refine ⟨Int.le_refl _, h.goesOn hid hn h.valid h.bounded h.shows rfl
        (readers_become hid rfl) (.opening ?_)⟩
      simp [State.asked, seenAfter]
  | syncs =>
    refine ⟨Int.le_refl _, h.goesOn hid hn h.valid h.bounded h.shows rfl
      (readers_become hid rfl) (.syncing ?_ ?_)⟩
    · simp [State.asked]
    · show w.seen ≤ assign w.since id w.store.revision id
      rw [assign_self]
      exact h.bounded
  | synced snap =>
    cases hx with
    | syncing ha hsince =>
      -- the snapshot was taken after it was asked for, so it is no step back
      obtain ⟨hlate, hreports⟩ := hh _ ha
      have hu := Aside.of_lose (c.synchronise_alike true snap w.session)
      have hidu := (hu.readers id).trans hid
      refine ⟨Int.le_trans hsince hlate, h.goesOn hid hn h.valid hreports.reached ?_ ?_
        (fun k => ?_) (.opening ?_)⟩
      · exact shows_of_reports h.valid hreports h.fitting
      · exact hu.watching
      · rw [← hu.readers]
        exact readers_become hidu rfl k
      · simp [State.asked, seenAfter]
  | opens start stream l =>
    cases hx with
    | opening ha =>
      -- the stream delivers from the revision after what was seen: no gap
      have hcursor : w.cursorAfter (.signal id (.reply (.ok (.opened stream)))) =
          assign w.cursor id (w.seen + 1) := by
        simp only [cursorAfter, watched_eq ha]
      refine ⟨Int.le_refl _, h.goesOn hid hn h.valid h.bounded h.shows rfl
        (readers_become hid rfl) (.reading (w.seen + 1) ?_ ?_ ?_ ?_)⟩
      · simpa [State.asked] using ha
      · simp only [hcursor, assign_self]
        show w.seen < w.seen + 1
        omega
      · simp only [hcursor, assign_self]
        show w.seen + 1 ≤ w.store.revision + 1
        omega
      · intro q _
        simp only [hcursor, assign_self]
        show q.1 ≤ w.seen ∨ w.seen + 1 ≤ q.1
        omega
  | observes =>
    -- changes come by deliveries only
    exact absurd hh (by simp [Honest])
  | breaks l _ hno =>
    have hseen : w.seenAfter (.signal id sig) = w.seen := seenAfter_eq hno
    refine ⟨Int.le_of_eq hseen.symm, h.ends hid hn (by simp) hseen rfl (fun k => ?_)⟩
    simp only [State.readers, endWatch_books]
    exact readers_finish (w.session.note l) id k

/-- **A delivery**: the cache reaches the last change of the batch, and no change is left behind. -/
theorem deliver (h : Follows c w) {id : Nat} {lead : String} {start next : Int} {t : State}
    (hwatched : w.watched id = some (lead, start)) (hh : w.Honest c (.deliver id next))
    (ht : c.resume w.session id
      (.item (some (.ok (.changes ((w.batch id lead next).map Prod.snd))))) = some t)
    (hn : t.Numbered) :
    w.seen ≤ reached w.seen (w.batch id lead next) ∧ Follows c { w with
      session := t, seen := reached w.seen (w.batch id lead next),
      cursor := assign w.cursor id next } := by
  obtain ⟨p, hid, turn⟩ := Settings.turn ht
  obtain ⟨stream, rfl⟩ := turn.reading_of_changes
  have hidr : w.session.readers id = some _ := (readers_iff rfl).2 hid
  obtain ⟨x, he, hx⟩ := h.stage id _ hidr
  obtain rfl := Process.watch.inj he
  obtain ⟨hfrom, hto⟩ := hh
  cases hx with
  | reading start' ha hlt hle hgap =>
    obtain ⟨rfl, rfl⟩ : c.lead = lead ∧ start' = start := by
      have := (watched_eq ha).symm.trans hwatched
      simpa using this
    obtain rfl := turn.eq_observeAll
    generalize hqs : w.batch id c.lead next = qs at *
    have hmem {q : Change} : q ∈ qs ↔
        q ∈ w.store.under c.lead ∧ w.cursor id ≤ q.1 ∧ q.1 < next := by
      rw [← hqs]
      exact Store.mem_between
    have hsorted : qs.Pairwise fun p q => p.1 < q.1 := hqs ▸ h.valid.sorted_between c.lead
    -- what is reached lies before what is delivered next, and nothing lies between the two
    have hreached : w.seen ≤ reached w.seen qs ∧ reached w.seen qs < next ∧
        ∀ q ∈ qs, q.1 ≤ reached w.seen qs := by
      rcases reached_cases hsorted w.seen with ⟨rfl, hr⟩ | ⟨p, hp, hr, hlast⟩
      · rw [hr]
        exact ⟨Int.le_refl _, by omega, fun q hq => by cases hq⟩
      · rw [hr]
        have := (hmem.1 hp).2
        exact ⟨by omega, by omega, hlast⟩
    obtain ⟨hle', hlt', hlast⟩ := hreached
    have hu := Aside.of_lose (c.observeAll_alike w.session (qs.map Prod.snd))
    refine ⟨hle', h.goesOn (x := .reading stream) hidr hn h.valid ?_ ?_ hu.watching (fun k => ?_)
      (.reading start' ?_ ?_ ?_ ?_)⟩
    · show reached w.seen qs ≤ w.store.revision
      omega
    · have hshown : w.store.shown c.scope (reached w.seen qs) =
          w.store.shown c.scope w.seen ++ qs := by
        rw [← hqs]
        exact h.valid.shown_reached hlt hgap
      show Shows c.scope _ (w.store.shown c.scope (reached w.seen qs))
      rw [c.observeAll_registry, hshown]
      refine h.shows.foldl (h.valid.written_shown w.seen) fun q hq => ?_
      obtain ⟨hq, -⟩ := hmem.1 hq
      obtain ⟨hq, hl⟩ := List.mem_filter.1 hq
      exact h.valid.written q hq hl
    · rw [hu.readers]
      split
      · rename_i hk
        rw [hk, hidr]
      · rfl
    · rw [hu.asked id _ hidr]
      exact ha
    · show reached w.seen qs < assign w.cursor id next id
      rw [assign_self]
      exact hlt'
    · show assign w.cursor id next id ≤ w.store.revision + 1
      rw [assign_self]
      exact hto
    · intro q hq
      show q.1 ≤ reached w.seen qs ∨ assign w.cursor id next id ≤ q.1
      rw [assign_self]
      rcases hgap q hq with hlo | hhi
      · exact .inl (by omega)
      · by_cases hnext : q.1 < next
        · exact .inl (hlast q (hmem.2 ⟨hq, hhi, hnext⟩))
        · exact .inr (by omega)

/-! ## Calls -/

/-- **A call that loads nothing**: whoever it starts reads nothing, except for a watch. -/
theorem call (h : Follows c w) {k : Call} (hh : w.Honest c (.act (.call k))) :
    Follows c { w with session := c.call w.session k } := by
  have haside {t : State} (ha : Aside w.session t) (hn : t.Numbered)
      (hr : t.registry = w.session.registry) : Follows c { w with session := t } :=
    h.aside ha hn hr rfl rfl (fun _ _ _ => rfl) fun _ _ _ => rfl
  have hn := numbered_call c h.numbered k
  cases k with
  | start => cases hh
  | register =>
    refine haside ?_ hn ?_
    · unfold Settings.call
      dsimp only
      split
      · exact (Aside.note _ _).trans (.instant _ _)
      · let u : State := { w.session with own := { w.session.own with called := true } }
        have hu : Aside w.session u := .of_books rfl (fun _ => rfl) rfl
        have hnu : u.Numbered := h.numbered
        exact hu.trans (.begin hnu _ rfl)
    · unfold Settings.call
      dsimp only
      split <;> simp
  | deregister => exact haside (aside_deregister h.numbered) hn (by simp [Settings.call])
  | instances service =>
    obtain ⟨m, hm⟩ := Option.isSome_iff_exists.1 hh
    have hcall : c.call w.session (.instances service) =
        Leased.armWatch none (w.session.instant (.instances m.list)) := by
      rw [Settings.call, hm]
    -- the answer comes from the cache, and then a watch may begin
    have hu := haside (Aside.instant w.session (.instances m.list))
      (numbered_instant h.numbered _) (by simp)
    rw [hcall]
    exact hu.armWatch
  | shutdown =>
    have hu : Aside w.session w.session.close := .of_books rfl (fun _ => rfl) rfl
    exact haside (hu.trans (.spawn _ rfl)) hn rfl

/-! ## All moves -/

/-- **Every move keeps the cache on the store's track**, and never takes it back. -/
theorem move (h : Follows c w) {m : Move} (hh : w.Honest c m) (hm : w.move c m = some v) :
    w.seen ≤ v.seen ∧ Follows c v := by
  cases m with
  | commit q =>
    obtain rfl := Option.some.inj hm
    exact ⟨Int.le_refl _, h.commit hh.1 hh.2⟩
  | deliver id next =>
    obtain ⟨⟨lead, start⟩, hwatched, hm⟩ := Option.bind_eq_some_iff.1 hm
    obtain ⟨t, ht, rfl⟩ := Option.map_eq_some_iff.1 hm
    exact h.deliver hwatched hh ht (numbered_act ht h.numbered)
  | act a =>
    obtain ⟨t, ht, rfl⟩ := Option.map_eq_some_iff.1 hm
    have hn := numbered_act ht h.numbered
    cases a with
    | call k =>
      obtain rfl := Option.some.inj ht
      exact ⟨Int.le_refl _, h.call hh⟩
    | signal id sig =>
      obtain ⟨p, hid, turn⟩ := Settings.turn ht
      cases hp : p.reads with
      | false =>
        obtain ⟨hseen, hf⟩ := h.signal_aside hid hp turn hn
        exact ⟨Int.le_of_eq hseen.symm, hf⟩
      | true =>
        have hidr := (readers_iff hp).2 hid
        obtain ⟨x, rfl, hx⟩ := h.stage id p hidr
        exact h.signal_watch hidr hx hh turn hn
    | abandon id =>
      obtain ⟨p, hid, hcall, rfl⟩ := Settings.act_abandon_iff.1 ht
      -- a call that can be abandoned is no watch, and there is no other reader
      have hnone : w.session.readers id = none := by
        cases hr : w.session.readers id with
        | none => rfl
        | some q =>
          obtain ⟨x, rfl, -⟩ := h.stage id q hr
          obtain rfl := Option.some.inj (hid.symm.trans ((readers_iff rfl).1 hr))
          cases hcall
      exact ⟨Int.le_refl _, h.aside (.finish hnone) hn rfl rfl rfl (fun _ _ _ => rfl)
        fun _ _ _ => rfl⟩
    | drop =>
      obtain rfl := Option.some.inj ht
      have hu : Aside w.session w.session.close := .of_books rfl (fun _ => rfl) rfl
      exact ⟨Int.le_refl _, h.aside hu hn rfl rfl rfl (fun _ _ _ => rfl) fun _ _ _ => rfl⟩

end Follows

/-- **The first load sets the cache on the store's track.** -/
theorem Loaded.follows {c : Settings} {w : World} (h : Loaded c w) : Follows c w := by
  obtain ⟨snap, hreports, hseen, hload⟩ := h.load
  have hn : w.session.Numbered := numbered_act hload (numbered_call c numbered_initial .start)
  obtain ⟨p, hid, turn⟩ := Settings.turn hload
  obtain rfl : Process.starting = p := Option.some.inj hid
  generalize ht : w.session = t at *
  cases turn with
  | loads =>
    let u := c.synchronise false snap (c.call .initial .start)
    have hu : u.Alike (c.call .initial .start) := c.synchronise_alike false snap _
    have hclosed : u.closed = false := hu.closed
    have hwatching : u.own.watching = false := congrArg Ledger.watching hu.own
    have hnext : u.nextId = 1 := hu.nextId
    have hprocess (k : Nat) : u.process? k = if k = 0 then some .starting else none := by
      rw [hu.process?]
      simp [Settings.call, State.initial, Session.process?_become, Session.process?_spawn]
    -- the load is over, and its watch is the only process
    have hafter (k : Nat) : w.session.process? k =
        if k = 1 then some (.watch (.fresh (some (w.seen + 1)))) else none := by
      rw [ht, ← hseen]
      show ((Leased.armWatch (some (snap.revision + 1)) u).succeed 0).process? k = _
      simp only [Session.succeed_eq, Session.answer_books, Session.process?_finish, armWatch_books,
        hprocess, hclosed, hwatching, hnext]
      by_cases hk : k = 0
      · simp [hk]
      · simp [hk]
    refine .of_alone 1 (.fresh (some (w.seen + 1))) (ht ▸ hn) h.valid
      (hseen ▸ hreports.reached) ?_ ?_ ?_ .continues
    · rw [ht, ← hseen]
      have hshows : Shows c.scope u.registry (w.store.shown c.scope snap.revision) :=
        shows_of_reports_empty h.valid hreports rfl
      simpa using hshows
    · rw [ht]
      show ((Leased.armWatch (some (snap.revision + 1)) u).succeed 0).own.watching = true
      simp [hclosed, hwatching]
    · intro k p hk
      obtain ⟨hk, -⟩ := Option.filter_eq_some_iff.1 hk
      rw [hafter] at hk
      split at hk
      · exact ⟨‹_›, (Option.some.inj hk).symm⟩
      · cases hk

/-- **What every honest move preserves holds at the end of a run**, and the revision grew. -/
theorem Follows.trail {c : Settings} {w u : World} {turns : List (World × Move)} (h : Follows c w)
    (ht : Trail c w turns u) : w.seen ≤ u.seen ∧ Follows c u := by
  refine ht.run.invariant (fun x => w.seen ≤ x.seen ∧ Follows c x) ⟨Int.le_refl _, h⟩ ?_
  rintro p hp x ⟨hle, hx⟩ hmove
  obtain ⟨hstep, hf⟩ := hx.move (ht.honest p hp) hmove
  exact ⟨Int.le_trans hle hstep, hf⟩

/-! ## The theorem -/

/-- **The cache of a backend is what the store held at one revision**, at every moment after the first
    load: none is missing, none is extra, and none stands twice; and the revision, which is that of the
    last snapshot or change, never decreases. -/
theorem follows_store {c : Settings} {w u v : World} {turns more : List (World × Move)}
    (hl : Loaded c w) (hu : Trail c w turns u) (hv : Trail c u more v) :
    (∀ n i, i ∈ (u.session.registry.members n).list ↔ u.store.Held c.scope u.seen n i) ∧
      (∀ n, (u.session.registry.members n).list.Nodup) ∧
      u.seen ≤ u.store.revision ∧ u.seen ≤ v.seen := by
  obtain ⟨-, hf⟩ := hl.follows.trail hu
  obtain ⟨hle, -⟩ := hf.trail hv
  exact ⟨fun _ _ => hf.shows.mem_iff hf.valid, nodup_members _, hf.bounded, hle⟩

/-! ## A run -/

/-- The world after a move, or the same if it cannot happen. -/
def after (c : Settings) (w : World) (m : Move) : World := (w.move c m).getD w

theorem move_eq_after {c : Settings} {w : World} {m : Move} (h : (w.move c m).isSome = true) :
    w.move c m = some (w.after c m) := by
  obtain ⟨v, hv⟩ := Option.isSome_iff_exists.1 h
  rw [after, hv, Option.getD_some]

theorem store_eq_of_commit {c : Settings} {w v : World} {q : Change}
    (h : w.move c (.commit q) = some v) : v.store = w.store.commit q := by
  obtain rfl := Option.some.inj h
  rfl

/-- An act of the backend changes no key. -/
theorem store_eq_of_act {c : Settings} {w v : World} {a : Act} (h : w.move c (.act a) = some v) :
    v.store = w.store := by
  obtain ⟨t, -, rfl⟩ := Option.map_eq_some_iff.1 h
  rfl

theorem store_eq_of_deliver {c : Settings} {w v : World} {id : Nat} {next : Int}
    (h : w.move c (.deliver id next) = some v) : v.store = w.store := by
  obtain ⟨p, -, h⟩ := Option.bind_eq_some_iff.1 h
  obtain ⟨t, -, rfl⟩ := Option.map_eq_some_iff.1 h
  rfl

/-- A backend that was loaded from a store without changes. -/
def sample : World where
  session := ((Settings.sample.act (Settings.sample.call .initial .start)
    (.signal 0 (.reply (.ok (.contents ⟨5, []⟩))))).getD .initial)
  store := ⟨5, []⟩
  seen := 5
  since _ := 0
  cursor _ := 0

theorem loaded_sample : Loaded .sample sample where
  valid := ⟨.nil, by simp [sample], by simp [sample]⟩
  load := by
    refine ⟨⟨5, []⟩, ⟨by decide, ?_⟩, rfl, ?_⟩
    · intro k v
      simp [sample, Store.valueAt, Store.upTo, valueAfter]
    · obtain ⟨t, ht⟩ := Option.isSome_iff_exists.1 (by decide +kernel :
        (Settings.sample.act (Settings.sample.call .initial .start)
          (.signal 0 (.reply (.ok (.contents ⟨5, []⟩))))).isSome = true)
      rw [sample, ht, Option.getD_some]

theorem legal_sample : Settings.sample.self.Legal := by
  constructor <;> decide +kernel

/-- A process is announced, and the watch reports it; the watch ends; the process is withdrawn; and a
    query for its name, which is still answered from the cache, begins another watch. -/
theorem follows_store_sample : ∃ u v turns more,
    Trail .sample sample turns u ∧ Trail .sample u more v ∧ u.seen = 6 ∧ v.seen = 7 ∧
      (u.session.registry.members "order").list = [Settings.sample.self.self] ∧
      (v.session.registry.members "order").list = [] ∧
      ((∀ n i, i ∈ (u.session.registry.members n).list ↔
          u.store.Held Settings.sample.scope u.seen n i) ∧
        (∀ n, (u.session.registry.members n).list.Nodup) ∧
        u.seen ≤ u.store.revision ∧ u.seen ≤ v.seen) := by
  let c : Settings := .sample
  let put : Change := (6, .put c.key c.value.toByteArray)
  let delete : Change := (7, .delete c.key)
  let w1 := sample.after c (.act (.signal 1 .turn))
  let w2 := w1.after c (.act (.signal 1 (.reply (.ok (.opened 0)))))
  let w3 := w2.after c (.commit put)
  let w4 := w3.after c (.deliver 1 7)
  let w5 := w4.after c (.act (.signal 1 (.item none)))
  let w6 := w5.after c (.commit delete)
  let w7 := w6.after c (.act (.call (.instances "order")))
  let w8 := w7.after c (.act (.signal 3 .turn))
  let w9 := w8.after c (.act (.signal 3 (.reply (.ok (.contents ⟨7, []⟩)))))
  -- evaluated at one go, since each of them takes all that happened before
  have hfacts :
      ((sample.move c (.act (.signal 1 .turn))).isSome = true ∧
        (w1.move c (.act (.signal 1 (.reply (.ok (.opened 0)))))).isSome = true ∧
        (w3.move c (.deliver 1 7)).isSome = true ∧
        (w4.move c (.act (.signal 1 (.item none)))).isSome = true ∧
        (w6.move c (.act (.call (.instances "order")))).isSome = true ∧
        (w7.move c (.act (.signal 3 .turn))).isSome = true ∧
        (w8.move c (.act (.signal 3 (.reply (.ok (.contents ⟨7, []⟩)))))).isSome = true) ∧
      (w2.store.revision < 6 ∧ (w3.cursor 1 ≤ 7 ∧ 7 ≤ w3.store.revision + 1) ∧
        w5.store.revision < 7 ∧ w6.session.registry.contains "order" = true ∧
        w8.since 3 ≤ 7 ∧ 7 ≤ w8.store.revision) ∧
      w4.seen = 6 ∧ w9.seen = 7 ∧
        (w4.session.registry.members "order").list = [Settings.sample.self.self] ∧
        (w9.session.registry.members "order").list = [] := by
    decide +kernel
  obtain ⟨⟨m1, m2, m4, m5, m7, m8, m9⟩, ⟨hput, hto, hdelete, hknown, hsince, hreached⟩,
    hseen, hseen', hlist, hlist'⟩ := hfacts
  have h1 : sample.move c (.act (.signal 1 .turn)) = some w1 := move_eq_after m1
  have h2 : w1.move c (.act (.signal 1 (.reply (.ok (.opened 0))))) = some w2 := move_eq_after m2
  have h3 : w2.move c (.commit put) = some w3 := rfl
  have h4 : w3.move c (.deliver 1 7) = some w4 := move_eq_after m4
  have h5 : w4.move c (.act (.signal 1 (.item none))) = some w5 := move_eq_after m5
  have h6 : w5.move c (.commit delete) = some w6 := rfl
  have h7 : w6.move c (.act (.call (.instances "order"))) = some w7 := move_eq_after m7
  have h8 : w7.move c (.act (.signal 3 .turn)) = some w8 := move_eq_after m8
  have h9 : w8.move c (.act (.signal 3 (.reply (.ok (.contents ⟨7, []⟩))))) = some w9 :=
    move_eq_after m9
  clear_value w9 w8 w7 w6 w5 w4 w3 w2 w1
  -- at the end the store has seen both changes, and holds nothing
  have hstore : w8.store = ⟨7, [put, delete]⟩ := by
    rw [store_eq_of_act h8, store_eq_of_act h7, store_eq_of_commit h6, store_eq_of_act h5,
      store_eq_of_deliver h4, store_eq_of_commit h3, store_eq_of_act h2, store_eq_of_act h1]
    rfl
  have hsnap : w8.Honest c (.act (.signal 3 (.reply (.ok (.contents ⟨7, []⟩))))) := by
    intro lead _
    refine ⟨hsince, hreached, fun k v => ?_⟩
    rw [hstore]
    by_cases hk : c.key = k <;>
      simp [Store.valueAt, Store.upTo, valueAfter, Change.after, put, delete, Event.key, Event.left, hk]
  have hu : Trail c sample _ w4 :=
    .cons h1 trivial <| .cons h2 trivial <| .cons h3 ⟨hput, fun _ => .put legal_sample⟩ <|
      .cons h4 hto (.nil c w4)
  have hv : Trail c w4 _ w9 :=
    .cons h5 trivial <| .cons h6 ⟨hdelete, fun _ => .delete legal_sample⟩ <|
      .cons h7 hknown <| .cons h8 trivial <| .cons h9 hsnap (.nil c w9)
  exact ⟨w4, w9, _, _, hu, hv, hseen, hseen', hlist, hlist', follows_store loaded_sample hu hv⟩

end World

end Muster.Leased
