/-
  Is a loss of the own key always answered?

  The own key is GONE when the watch has told of its removal, and neither has it told of a put of it
  since, nor has a put of the backend's own come back.  A backend that is registered must not count as
  healthy then.  It sees to that at once: the removal degrades it.  Two things take the flag down again:

  (1) a registration that comes to its end.  Its last request is the one that opens the renewals; a
      removal that is told while it waits for the answer is later than its put, and yet forgotten when
      the answer comes in — this is a loss that nobody answers;
  (2) a restoring that is skipped since the own instance is in the cache, be it from another key or a
      snapshot.  That is what skipping is for.

  `loss_heeded_iff` says that there is nothing else, and that there is only (2) if no removal falls into
  the wait of (1).  The removal is followed beside the backend, by a flag of its own (`actWatched`).

  THE CRUX: while the own key is gone nobody is at the last request, as its put has come back before.
-/
import Muster.Proofs.Leased.Layout
import Muster.Proofs.Leased.Renewal

namespace Muster.Leased

/-! ## Whether the own key is gone -/

/-- Whether an event is the removal of the own key, and read as such. -/
def Settings.withdraws (c : Settings) : Event → Bool
  | .put .. => false
  | .delete k =>
    match findDelete c.scope k with
    | .withdrawn .. => k == c.key
    | _ => false

/-- Whether the own key is gone after an event. -/
def Settings.goneAfter (c : Settings) (gone : Bool) (e : Event) : Bool :=
  match e with
  | .put k _ => gone && k != c.key
  | .delete _ => gone || c.withdraws e

/-- The request of a registration that a process waits for. -/
def Process.stage? : Process → Option Registering
  | .registering stage | .restore (.attempting _ stage) => some stage
  | _ => none

/-- Whether a process waits for the answer to its put. -/
def Process.isPutting (p : Process) : Bool :=
  match p.stage? with
  | some (.putting _) => true
  | _ => false

/-- Whether a process waits for the renewals to open, the last request of a registration. -/
def Process.isOpening (p : Process) : Bool :=
  match p.stage? with
  | some (.opening _) => true
  | _ => false

/-- A put of the backend's own comes back. -/
def State.Puts (s : State) : Act → Prop
  | .signal id (.reply (.ok .done)) => (s.process? id).any Process.isPutting = true
  | _ => False

instance (s : State) (a : Act) : Decidable (s.Puts a) := by
  unfold State.Puts
  split <;> infer_instance

/-- The events that an act brings. -/
def Act.events : Act → List Event
  | .signal _ (.item (some (.ok (.changes batch)))) => batch
  | _ => []

/-- **Whether the own key is gone after an act**, if it was before: as far as the watch has told since
    the last put of the backend's own. -/
def Settings.gone (c : Settings) (s : State) (gone : Bool) (a : Act) : Bool :=
  if s.Puts a then false else a.events.foldl c.goneAfter gone

/-- **The machine, and the fate of the own key beside it.** -/
def Settings.actWatched (c : Settings) (u : State × Bool) (a : Act) : Option (State × Bool) :=
  (c.act u.1 a).map fun t => (t, c.gone u.1 u.2 a)

/-- **A loss is heeded**: a backend does not count as healthy while its key is gone. -/
def Heeded (u : State × Bool) : Prop := u.1.Fine → u.2 = false

/-- A registration comes to its end. -/
def State.Enrols (s : State) : Act → Prop
  | .signal id (.reply (.ok (.opened _))) => (s.process? id).any Process.isOpening = true
  | _ => False

instance (s : State) (a : Act) : Decidable (s.Enrols a) := by
  unfold State.Enrols
  split <;> infer_instance

/-- **A loss is silenced**: the flag falls while the own key is gone. -/
def Settings.Silences (c : Settings) (u : State × Bool) (a : Act) : Prop :=
  u.2 = true ∧ (u.1.Enrols a ∨ (c.Skips u.1 a ∧ u.1.flags.registered = true))

instance (c : Settings) (u : State × Bool) (a : Act) : Decidable (c.Silences u a) :=
  inferInstanceAs (Decidable (_ ∧ _))

/-- Some registration waits for its renewals to open. -/
def State.Opening (s : State) : Prop := ∃ k p, s.process? k = some p ∧ p.isOpening = true

/-! ## Events -/

/-- The removal of the own key takes the own instance away. -/
theorem Settings.hits_of_withdraws {c : Settings} {e : Event} (h : c.withdraws e = true) :
    c.hits e = true := by
  cases e with
  | put => cases h
  | delete k =>
    simp only [withdraws] at h
    split at h
    · rename_i n i hf
      obtain rfl := beq_iff_eq.1 h
      obtain ⟨-, rfl⟩ := findDelete_key hf
      simp only [hits, Event.finding]
      rw [hf]
      simp [Instance.isAt, Registrant.self]
    · cases h

/-- The own key is gone after some events only if it was before, or one of them took it away. -/
theorem Settings.gone_foldl {c : Settings} {es : List Event} {gone : Bool}
    (h : es.foldl c.goneAfter gone = true) : gone = true ∨ es.any c.withdraws = true := by
  induction es generalizing gone with
  | nil => exact .inl h
  | cons e es ih =>
    rw [List.any_cons, Bool.or_eq_true]
    rcases ih h with hg | hes
    · cases e with
      | put k v => exact .inl (Bool.and_eq_true_iff.1 hg).1
      | delete k =>
        rcases Bool.or_eq_true_iff.1 hg with hg | hw
        · exact .inl hg
        · exact .inr (.inl hw)
    · exact .inr (.inr hes)

/-! ## Answers -/

/-- Only an answer is a success. -/
theorem reply_of_result? {operation : String} {limit : Duration} {sig : Signal Reply Item}
    {x : Reply} (h : sig.result? operation limit = some (.ok x)) : sig = .reply (.ok x) := by
  cases sig with
  | reply r => obtain rfl := Option.some.inj h; rfl
  | _ => cases h

/-- A registration comes to its end with the stream of its renewals. -/
theorem Settings.progress_opened {c : Settings} {stage : Registering} {r : Except Failure Reply}
    {lease : Int} {stream : Nat} (h : c.progress stage r = some (.opened lease stream)) :
    stage = .opening lease ∧ r = .ok (.opened stream) := by
  unfold progress at h
  split at h
  · cases h
  · cases h
  · cases h; exact ⟨rfl, rfl⟩
  · cases h
  · cases h

/-- **It waits for its renewals only once its put has come back.** -/
theorem Settings.progress_asks {c : Settings} {stage next : Registering}
    {r : Except Failure Reply} {q : Request} (h : c.progress stage r = some (.asks q next)) :
    (∀ lease, next ≠ .opening lease) ∨ ∃ lease, stage = .putting lease ∧ r = .ok .done := by
  unfold progress at h
  split at h
  · cases h; exact .inl fun _ he => by cases he
  · cases h; exact .inr ⟨_, rfl, rfl⟩
  · cases h
  · cases h
  · cases h

/-! ## Who waits for the renewals to open -/

namespace State.Opening

variable {s t : State} {id : Nat}

/-- What happens at one number makes nobody else wait for the renewals. -/
theorem of_moves (h : t.Opening) (id : Nat) (ht : ∀ k, k ≠ id → t.process? k = s.process? k)
    (hid : ∀ p, t.process? id = some p → p.isOpening = false) : s.Opening := by
  obtain ⟨k, p, hk, hp⟩ := h
  refine ⟨k, p, ?_, hp⟩
  rw [← ht k fun he => ?_, hk]
  rw [hid p (he ▸ hk)] at hp
  cases hp

/-- Nobody waits for them by going on as one who does not. -/
theorem of_become (h : t.Opening) (id : Nat) {q : Process} (hq : q.isOpening = false)
    (ht : ∀ k, t.process? k = (s.become id q).process? k) : s.Opening := by
  refine h.of_moves id (fun k hk => ?_) fun p hp => ?_
  · rw [ht, Session.process?_become, if_neg hk]
  · rw [ht, Session.process?_become, if_pos rfl] at hp
    obtain ⟨-, -, rfl⟩ := Option.map_eq_some_iff.1 hp
    exact hq

/-- Nobody waits for them when somebody is over. -/
theorem of_finish (h : t.Opening) (id : Nat) (ht : ∀ k, t.process? k = (s.finish id).process? k) :
    s.Opening := by
  refine h.of_moves id (fun k hk => ?_) fun p hp => ?_
  · rw [ht, Session.process?_finish, if_neg hk]
  · rw [ht, Session.process?_finish, if_pos rfl] at hp
    cases hp

/-- It is the crew that waits for them. -/
theorem of_crew (h : t.Opening) (g : ∀ k, t.crew k = s.crew k) : s.Opening := by
  obtain ⟨k, p, hk, hp⟩ := h
  have hcrew : p.isCrew = true := by
    cases p with
    | registering | restore => rfl
    | _ => cases hp
  exact ⟨k, p, by rw [← crew_iff hcrew, ← g, crew_iff hcrew, hk], hp⟩

theorem of_idle (h : t.Opening) (g : Idle s t) : s.Opening := h.of_crew g.crew

/-- A loss makes nobody wait for renewals. -/
theorem of_scheduleRestore {c : Settings} {forced : Bool} (hn : s.Numbered)
    (h : State.Opening (c.scheduleRestore forced s)) : s.Opening := by
  have hfree := hn.process?_nextId
  refine h.of_moves s.nextId (fun k hk => ?_) fun p hp => ?_
  · simp [hk]
  · cases hr : s.own.restoring with
    | true => simp [hr, hfree] at hp
    | false =>
      obtain rfl : Process.restore .delaying = p := by simpa [hr, hfree] using hp
      rfl

theorem of_enrol {c : Settings} {lease : Int} {stream : Nat} (hn : s.Numbered)
    (h : State.Opening (c.enrol lease stream s)) : s.Opening := by
  have hfree := hn.process?_nextId
  refine h.of_moves s.nextId (fun k hk => ?_) fun p hp => ?_
  · simp [hk]
  · obtain rfl : Process.renewal lease stream = p := by simpa [hfree] using hp
    rfl

end State.Opening

/-- **Only a put that comes back makes somebody wait for the renewals to open.** -/
theorem Turn.opening {c : Settings} {s t : State} {id : Nat} {p : Process}
    {sig : Signal Reply Item} (h : Turn c s id p sig t) (hn : s.Numbered)
    (hid : s.process? id = some p) (hp : p.isCrew = true) (ht : t.Opening) :
    s.Opening ∨ s.Puts (.signal id sig) := by
  cases h with
  | asks q next hr hg =>
    -- the next request is the last one only if the put has come back with this answer
    rcases Settings.progress_asks hg with hnext | ⟨lease, rfl, rfl⟩
    · refine .inl (ht.of_become id (q := .registering next) ?_ (by simp))
      cases next <;> first | rfl | exact absurd rfl (hnext _)
    · obtain rfl := reply_of_result? hr
      exact .inr (by simp [State.Puts, hid, Process.isPutting, Process.stage?])
  | @restoreAsks failures _ _ _ q next hr hg =>
    rcases Settings.progress_asks hg with hnext | ⟨lease, rfl, rfl⟩
    · refine .inl (ht.of_become id (q := .restore (.attempting failures next)) ?_ (by simp))
      cases next <;> first | rfl | exact absurd rfl (hnext _)
    · obtain rfl := reply_of_result? hr
      exact .inr (by simp [State.Puts, hid, Process.isPutting, Process.stage?])
  | wakes =>
    refine .inl (ht.of_become id (q := .restore (.attempting 0 .granting)) rfl fun k => ?_)
    simp [Session.process?_become]
  | @retries failures =>
    exact .inl (ht.of_become id (q := .restore (.attempting failures .granting)) rfl
      (by simp))
  | @backsOff failures =>
    refine .inl (ht.of_become id (q := .restore (.backingOff (failures + 1))) rfl fun k => ?_)
    simp [Session.process?_become]
  | enrols lease stream =>
    have hu : State.Opening (c.enrol lease stream s) := ht.of_finish id (by simp)
    exact .inl (hu.of_enrol hn)
  | restores lease stream =>
    have hu : State.Opening (c.enrol lease stream s) :=
      ht.of_finish id (by simp [Session.process?_finish])
    exact .inl (hu.of_enrol hn)
  | renews _ l => exact .inl (ht.of_idle (.note s l))
  | renewalLost ls l =>
    have hu : State.Opening (((s.notes ls).finish id).note l) := by
      refine ht.of_scheduleRestore (hn.of_books ?_ fun k _ hk => ?_)
      all_goals simp [Session.process?_finish, *]
    exact .inl (hu.of_finish id (by simp [Session.process?_finish]))
  | refused | renewalEnds | renewalStops | skips | yields | restoreStops | givesUp =>
    exact .inl (ht.of_finish id (by simp [Session.process?_finish]))
  | _ => cases hp

/-- An act makes somebody wait for the renewals to open only if a put comes back. -/
theorem opening_act {c : Settings} {s t : State} {a : Act} (h : c.act s a = some t)
    (hn : s.Numbered) (ht : t.Opening) : s.Opening ∨ s.Puts a := by
  have hfree := hn.process?_nextId
  cases Settings.deed h hn with
  | idle g => exact .inl (ht.of_idle g)
  | begins =>
    refine .inl (ht.of_moves s.nextId (fun k hk => ?_) fun p hp => ?_)
    · simp [Session.process?_become, Session.process?_spawn, hk]
    · obtain rfl : Process.registering .granting = p := by
        simpa [Session.process?_become, Session.process?_spawn, hfree] using hp
      rfl
  | deregisters => exact .inl (ht.of_crew (crew_deregister hn))
  | outside g =>
    obtain ⟨b, -, g⟩ := g
    have hu := ht.of_idle g
    cases b with
    | true => exact .inl (hu.of_scheduleRestore hn)
    | false => exact .inl hu
  | crew hp hc hturn => exact hturn.opening hn hp hc ht
  | leaves => exact .inl (ht.of_finish _ fun _ => rfl)

/-! ## Who counts as healthy -/

namespace State.Fine

variable {s t : State}

theorem of_flags (h : t.Fine) (hf : t.flags = s.flags) : s.Fine :=
  ⟨by rw [← hf]; exact h.registered, by rw [← hf]; exact h.degraded⟩

theorem of_idle (h : t.Fine) (g : Idle s t) : s.Fine where
  registered := (congrArg Standing.registered g.standing).symm.trans h.registered
  degraded := (congrArg Standing.degraded g.standing).symm.trans h.degraded

theorem of_lose {c : Settings} {b : Bool} (h : State.Fine (c.lose b s)) : s.Fine where
  registered := by simpa using h.registered
  degraded := by
    have hd := h.degraded
    simp only [c.lose_books, Bool.or_eq_false_iff] at hd
    exact hd.2

end State.Fine

/-- **A turn of the crew makes no backend healthy**, unless a registration comes to its end or
    restoring is skipped. -/
theorem Turn.fine {c : Settings} {s t : State} {id : Nat} {p : Process}
    {sig : Signal Reply Item} (h : Turn c s id p sig t) (hid : s.process? id = some p)
    (hp : p.isCrew = true) (henr : ¬ s.Enrols (.signal id sig))
    (hskip : ¬ (c.Skips s (.signal id sig) ∧ s.flags.registered = true)) (ht : t.Fine) :
    s.Fine := by
  cases h with
  | enrols lease stream hr hg | restores lease stream l hr hg =>
    obtain ⟨rfl, rfl⟩ := Settings.progress_opened hg
    obtain rfl := reply_of_result? hr
    exact absurd (by simp [State.Enrols, hid, Process.isOpening, Process.stage?]) henr
  | skips l hforced hhas =>
    -- skipping leaves the backend registered only if it was
    have hreg := ht.registered
    simp only [endRestore_books, Session.setDegraded_books, Session.note_books] at hreg
    exact absurd ⟨⟨hid, hforced, hhas⟩, hreg⟩ hskip
  | renewalLost ls l =>
    have hdeg := ht.degraded
    simp only [c.scheduleRestore_books] at hdeg
    cases hdeg
  | asks | refused | renews | renewalEnds | renewalStops | wakes | retries | yields | restoreStops
  | restoreAsks | backsOff | givesUp => exact ht.of_flags (by simp)
  | _ => cases hp

/-- No act makes a backend healthy, with the same exceptions. -/
theorem fine_act {c : Settings} {s t : State} {a : Act} (h : c.act s a = some t)
    (hn : s.Numbered) (henr : ¬ s.Enrols a) (hskip : ¬ (c.Skips s a ∧ s.flags.registered = true))
    (ht : t.Fine) : s.Fine := by
  cases Settings.deed h hn with
  | idle g => exact ht.of_idle g
  | begins => exact ht.of_flags (by simp)
  | deregisters =>
    have hoff : (deregister s).flags.registered = false := by simp
    cases hoff.symm.trans ht.registered
  | outside g =>
    obtain ⟨b, -, g⟩ := g
    exact (ht.of_idle g).of_lose
  | crew hp hc hturn => exact hturn.fine hp hc henr hskip ht
  | leaves => exact ht.of_flags rfl

theorem Act.eq_of_events {a : Act} (h : a.events ≠ []) :
    ∃ id, a = .signal id (.item (some (.ok (.changes a.events)))) := by
  unfold Act.events at h ⊢
  split at h
  · exact ⟨_, rfl⟩
  · exact absurd rfl h

/-- Events only come to the watch, and it merges them all. -/
theorem eq_observeAll_of_events {c : Settings} {s t : State} {a : Act} (h : c.act s a = some t)
    (he : a.events ≠ []) : t = c.observeAll s a.events := by
  obtain ⟨id, ha⟩ := Act.eq_of_events he
  rw [ha] at h
  obtain ⟨p, -, ht⟩ := Settings.turn h
  exact ht.eq_observeAll

/-- **A removal that is told degrades a registered backend at once.** -/
theorem not_fine_of_withdraws {c : Settings} {s t : State} {a : Act} (h : c.act s a = some t)
    (hw : a.events.any c.withdraws = true) : ¬ t.Fine := by
  intro ht
  have he : a.events ≠ [] := fun he => by rw [he] at hw; cases hw
  obtain rfl := eq_observeAll_of_events h he
  have hhit : a.events.any c.hits = true := by
    obtain ⟨e, hmem, hwe⟩ := List.any_eq_true.1 hw
    exact List.any_eq_true.2 ⟨e, hmem, Settings.hits_of_withdraws hwe⟩
  have hlike := c.observeAll_alike s a.events
  have hreg := ht.registered
  have hdeg := ht.degraded
  rw [hlike.flags, hhit, Bool.and_true] at hreg hdeg
  simp only [c.lose_books] at hreg hdeg
  rw [hreg] at hdeg
  cases hdeg

/-! ## Losses that are heeded -/

/-- The own key is gone after an act only if it was before, or the act tells of its removal; and no
    put has come back. -/
theorem gone_act {c : Settings} {s : State} {gone : Bool} {a : Act}
    (h : c.gone s gone a = true) : ¬ s.Puts a ∧ (gone = true ∨ a.events.any c.withdraws = true) := by
  unfold Settings.gone at h
  split at h
  · cases h
  · rename_i hput
    exact ⟨hput, Settings.gone_foldl h⟩

/-- **An act keeps every loss heeded**, unless it silences one. -/
theorem heeded_act {c : Settings} {u v : State × Bool} {a : Act} (h : c.actWatched u a = some v)
    (hn : u.1.Numbered) (hs : Heeded u) (hsil : ¬ c.Silences u a) : Heeded v := by
  obtain ⟨t, ht, rfl⟩ := Option.map_eq_some_iff.1 h
  intro hfine
  show c.gone u.1 u.2 a = false
  -- if the key were gone, the act would have made the backend healthy
  rw [Bool.eq_false_iff]
  intro hgone
  obtain ⟨-, hu | hw⟩ := gone_act hgone
  · have hbefore : u.1.Fine :=
      fine_act ht hn (fun henr => hsil ⟨hu, .inl henr⟩) (fun hskip => hsil ⟨hu, .inr hskip⟩) hfine
    rw [hs hbefore] at hu
    cases hu
  · exact not_fine_of_withdraws ht hw hfine

/-- A registration that comes to its end has waited for its renewals to open. -/
theorem opening_of_enrols {s : State} {a : Act} (h : s.Enrols a) : s.Opening := by
  unfold State.Enrols at h
  split at h
  · obtain ⟨p, hp, hopen⟩ := (Option.any_eq_true ..).1 h
    exact ⟨_, p, hp, hopen⟩
  · exact h.elim

/-- A registration that comes to its end leaves a backend that counts as healthy. -/
theorem fine_of_enrols {c : Settings} {s t : State} {a : Act} (h : c.act s a = some t)
    (henr : s.Enrols a) : t.Fine := by
  unfold State.Enrols at henr
  split at henr
  · rename_i id stream
    obtain ⟨p, hp, h⟩ := Option.bind_eq_some_iff.1 h
    rw [hp, Option.any_some] at henr
    cases p with
    | registering stage =>
      cases stage with
      | opening lease =>
        obtain rfl := Option.some.inj h
        constructor <;> simp [Settings.stepRegistering]
      | _ => cases henr
    | restore r =>
      cases r with
      | attempting failures stage =>
        cases stage with
        | opening lease =>
          obtain rfl := Option.some.inj h
          constructor <;> simp [Settings.stepAttempt]
        | _ => cases henr
      | _ => cases henr
    | _ => cases henr
  · exact henr.elim

/-- **A loss that is silenced is not heeded.** -/
theorem not_heeded_of_silences {c : Settings} {u v : State × Bool} {a : Act}
    (h : c.actWatched u a = some v) (hsil : c.Silences u a) : ¬ Heeded v := by
  obtain ⟨t, ht, rfl⟩ := Option.map_eq_some_iff.1 h
  obtain ⟨hu, hsil⟩ := hsil
  -- neither act tells of the own key
  have hstays (hput : ¬ u.1.Puts a) (hnone : a.events = []) : c.gone u.1 u.2 a = true := by
    rw [Settings.gone, if_neg hput, hnone, hu]; rfl
  intro hheed
  rcases hsil with henr | ⟨hskip, hreg⟩
  · have hgone : c.gone u.1 u.2 a = true := by
      unfold State.Enrols at henr
      split at henr
      · exact hstays id rfl
      · exact henr.elim
    cases hgone.symm.trans (hheed (fine_of_enrols ht henr))
  · have hgone : c.gone u.1 u.2 a = true := by
      unfold Settings.Skips at hskip
      split at hskip
      · exact hstays id rfl
      · exact hskip.elim
    cases hgone.symm.trans (hheed (level_of_skips ht hskip hreg).2)

/-! ## Runs -/

/-- **While the own key is gone nobody waits for his renewals to open**, as long as no removal is told
    while somebody does. -/
theorem quiet_act {c : Settings} {u v : State × Bool} {a : Act} (h : c.actWatched u a = some v)
    (hn : u.1.Numbered) (hs : u.2 = true → ¬ u.1.Opening)
    (hw : a.events.any c.withdraws = true → ¬ u.1.Opening) : v.2 = true → ¬ v.1.Opening := by
  obtain ⟨t, ht, rfl⟩ := Option.map_eq_some_iff.1 h
  intro hgone hopen
  obtain ⟨hput, hor⟩ := gone_act hgone
  -- whoever waits after the act has waited before, or his put came back with it
  have hbefore : u.1.Opening := (opening_act ht hn hopen).resolve_right hput
  rcases hor with hu | htold
  · exact hs hu hbefore
  · exact hw htold hbefore

theorem numbered_actWatched {c : Settings} {u v : State × Bool} {a : Act}
    (h : c.actWatched u a = some v) (hn : u.1.Numbered) : v.1.Numbered := by
  obtain ⟨t, ht, rfl⟩ := Option.map_eq_some_iff.1 h
  exact numbered_act ht hn

/-- **Along every run, every loss is heeded throughout EXACTLY when none is silenced**, and none is but
    by skipping, as long as no removal is told while a registration waits for its renewals to open. -/
theorem loss_heeded_iff {c : Settings} {u : State × Bool} {turns : List ((State × Bool) × Act)}
    (reached : Run c.actWatched (.initial, false) turns u) :
    (Run.Throughout Heeded turns u ↔ ∀ q ∈ turns, ¬ c.Silences q.1 q.2) ∧
      ((∀ q ∈ turns, q.2.events.any c.withdraws = true → ¬ q.1.1.Opening) →
        ∀ q ∈ turns, c.Silences q.1 q.2 → c.Skips q.1.1 q.2) := by
  have hnumbered : Run.Throughout (fun u => u.1.Numbered) turns u :=
    reached.throughout _ numbered_initial fun q _ v hu hv => numbered_actWatched hv hu
  refine ⟨⟨fun hheed q hq hsil => ?_, fun hsil => ?_⟩, fun hquiet q hq hsil => ?_⟩
  · obtain ⟨-, -, v, -, -, hv, -⟩ := reached.split hq
    exact not_heeded_of_silences hv hsil (hheed.after reached hq hv)
  · exact reached.throughout _ (fun _ => rfl) fun q hq v hu hv =>
      heeded_act hv (hnumbered.1 q hq) hu (hsil q hq)
  · have hnobody : Run.Throughout (fun u => u.2 = true → ¬ u.1.Opening) turns u :=
      reached.throughout _ (fun h => by cases h) fun q hq v hu hv =>
        quiet_act hv (hnumbered.1 q hq) hu (hquiet q hq)
    obtain ⟨hgone, henr | hskip⟩ := hsil
    · exact absurd (opening_of_enrols henr) (hnobody.1 q hq hgone)
    · exact hskip.1

/-- A backend starts and registers, and its key is removed; an attempt to restore it follows, and the
    removal is told once more while the attempt waits for its renewals to open. -/
def removedTwice : List Act :=
  let removal : Signal Reply Item := .item (some (.ok (.changes [.delete Settings.sample.key])))
  [.call .start, .signal 0 (.reply (.ok (.contents ⟨7, []⟩))), .signal 1 .turn,
    .signal 1 (.reply (.ok (.opened 0))), .call .register,
    .signal 2 (.reply (.ok (.granted 100))), .signal 2 (.reply (.ok .done)),
    .signal 2 (.reply (.ok (.opened 1))), .signal 1 removal, .signal 4 .elapsed,
    .signal 4 (.reply (.ok (.granted 101))), .signal 4 (.reply (.ok .done)), .signal 1 removal,
    .signal 4 (.reply (.ok (.opened 2)))]

/-- The removal is told only once, before the attempt. -/
def removedOnce : List Act := removedTwice.eraseIdx 12

/-- A removal that is told once, while nobody waits for his renewals to open, degrades the backend; the attempt
    that follows brings the key back before it makes the backend healthy again. -/
theorem loss_heeded_registered :
    ∃ turns u, Run Settings.sample.actWatched (.initial, false) turns u ∧
      turns.map Prod.snd = removedOnce ∧
      (∃ q ∈ turns, q.2.events.any Settings.sample.withdraws = true) ∧
      (∀ q ∈ turns, q.2.events.any Settings.sample.withdraws = true → ¬ q.1.1.Opening) ∧
      (∃ q ∈ turns, q.1.2 = true ∧ q.1.1.flags.registered = true ∧ q.1.1.flags.degraded = true) ∧
      u.1.Fine ∧ u.2 = false ∧ Run.Throughout Heeded turns u := by
  have hlast : ((removedOnce.foldlM Settings.sample.actWatched (.initial, false)).map fun u =>
      (u.1.flags.registered, u.1.flags.degraded, u.2)) = some (true, false, false) := by
    decide +kernel
  obtain ⟨u, hr, hacts, hx⟩ := Run.of_view hlast
  simp only [Prod.mk.injEq] at hx
  obtain ⟨hreg, hdeg, hgone⟩ := hx
  -- whoever is there when the removal is told waits for something else
  have hquiet : ∀ q ∈ Run.turnsOf Settings.sample.actWatched (.initial, false) removedOnce,
      q.2.events.any Settings.sample.withdraws = true → ∀ r ∈ q.1.1.processes, r.2.isOpening = false := by
    decide +kernel
  have hsilent : ∀ q ∈ Run.turnsOf Settings.sample.actWatched (.initial, false) removedOnce,
      ¬ Settings.sample.Silences q.1 q.2 := by
    decide +kernel
  refine ⟨_, u, hr, hacts, by decide +kernel, ?_, by decide +kernel, ⟨hreg, hdeg⟩, hgone,
    (loss_heeded_iff hr).1.2 hsilent⟩
  rintro q hq htold ⟨k, p, hp, hopen⟩
  rw [hquiet q hq htold (k, p) (Session.mem_of_process? hp)] at hopen
  cases hopen

/-- **A loss is NOT heeded** when it is told while an attempt waits for its renewals to open. -/
theorem loss_unheeded :
    ∃ turns u, Run Settings.sample.actWatched (.initial, false) turns u ∧
      turns.map Prod.snd = removedTwice ∧ ¬ Run.Throughout Heeded turns u := by
  have hlast : ((removedTwice.foldlM Settings.sample.actWatched (.initial, false)).map fun u =>
      (u.1.flags.registered, u.1.flags.degraded, u.2)) = some (true, false, true) := by
    decide +kernel
  obtain ⟨u, hr, hacts, hx⟩ := Run.of_view hlast
  simp only [Prod.mk.injEq] at hx
  obtain ⟨hreg, hdeg, hgone⟩ := hx
  refine ⟨_, u, hr, hacts, fun hheed => ?_⟩
  rw [hheed.2 ⟨hreg, hdeg⟩] at hgone
  cases hgone

end Muster.Leased
