/-
  Is a registration that counts as healthy being renewed?

  A registration counts as healthy while the backend is registered and not degraded.  It IS healthy as
  long as a task reads the renewals of its lease.  When the renewals end the backend is degraded, and
  the restoring that is arranged is FORCED: not even the own instance in the cache keeps it from trying.

  But only the first attempt uses that up.  Once the last attempt has failed, the backend stays
  degraded with nothing to restore it; a later loss of the own key then arranges a restoring that is
  NOT forced, and if the key shows up again in time, the restoring is skipped and the flag falls —
  with the renewals still over.  Such a BLIND skip is the only way to be wrong about one's health:

  (1) `restorer_act` — there is one process that restores, EXACTLY while the books say so;
  (2) `pending_act` — what has been arranged stays arranged, until it is done or given up;
  (3) `sound_act` — an act keeps the health true unless it skips blindly;
  (4) `health_true_iff` — along every run, the health is true throughout EXACTLY when nothing is
      skipped blindly, and nothing is as long as no restoring has been given up.
-/
import Muster.Proofs.Leased.Renewal

namespace Muster.Leased

/-! ## Who restores -/

/-- **The process that restores the registration**, if there is one: there is at most one, and the
    books know. -/
structure State.Restorer (s : State) (o : Option (Nat × Restore)) : Prop where
  restoring : s.own.restoring = o.isSome
  restores : ∀ k r, s.process? k = some (.restore r) ↔ o = some (k, r)

namespace State.Restorer

variable {s t : State} {o : Option (Nat × Restore)} {id : Nat} {r : Restore}

theorem eq_of_process? (h : s.Restorer o) (hid : s.process? id = some (.restore r)) :
    o = some (id, r) := (h.restores id r).1 hid

/-- A process that restores nothing begins, goes on or ends. -/
theorem of_moves (h : s.Restorer o) (id : Nat) (ho : t.own.restoring = s.own.restoring)
    (ht : ∀ k, k ≠ id → t.process? k = s.process? k)
    (hs : ∀ r, s.process? id ≠ some (.restore r)) (hid : ∀ r, t.process? id ≠ some (.restore r)) :
    t.Restorer o where
  restoring := ho.trans h.restoring
  restores k r := by
    by_cases hk : k = id
    · subst hk
      refine ⟨fun hp => absurd hp (hid r), fun he => absurd ((h.restores k r).2 he) (hs r)⟩
    · rw [ht k hk]; exact h.restores k r

theorem of_idle (h : s.Restorer o) (g : Idle s t) : t.Restorer o where
  restoring := (congrArg Standing.restoring g.standing).trans h.restoring
  restores k r := by
    rw [← h.restores]
    constructor
    · intro hp
      have := crew_of_process? hp rfl
      rw [g.crew] at this
      exact (process?_of_crew this).1
    · intro hp
      have := crew_of_process? hp rfl
      rw [← g.crew] at this
      exact (process?_of_crew this).1

/-- A loss starts a process that restores, unless there is one. -/
theorem scheduleRestore (h : s.Restorer o) (hn : s.Numbered) (c : Settings) (forced : Bool) :
    (c.scheduleRestore forced s).Restorer (o.or (some (s.nextId, .delaying))) := by
  have hfree := hn.process?_nextId
  cases o with
  | some q =>
    have hr : s.own.restoring = true := h.restoring
    refine ⟨by simp, fun k r => ?_⟩
    simpa [hr] using h.restores k r
  | none =>
    have hr : s.own.restoring = false := h.restoring
    refine ⟨by simp, fun k r => ?_⟩
    have hnone : s.process? k ≠ some (.restore r) := by simp [h.restores]
    by_cases hk : k = s.nextId
    · subst hk; simp [hr, hfree]
    · simp [hr, hk, Ne.symm hk, hnone]

theorem lose (h : s.Restorer o) (hn : s.Numbered) (c : Settings) (b : Bool) :
    ∃ o', (c.lose b s).Restorer o' := by
  cases b with
  | true => exact ⟨_, h.scheduleRestore hn c false⟩
  | false => exact ⟨o, h⟩

/-- Whoever enrols starts a process that renews, and none that restores. -/
theorem enrol (h : s.Restorer o) (hn : s.Numbered) (c : Settings) (lease : Int) (stream : Nat) :
    State.Restorer (c.enrol lease stream s) o := by
  have hfree := hn.process?_nextId
  refine h.of_moves s.nextId ?_ (fun k hk => ?_) (fun r => ?_) (fun r => ?_)
  all_goals simp [*]

/-- The process that restores goes on. -/
theorem goesOn (h : s.Restorer o) (hid : s.process? id = some (.restore r))
    (ho : t.own.restoring = s.own.restoring) (ht : ∀ k, k ≠ id → t.process? k = s.process? k)
    (hr : ∃ r', t.process? id = some (.restore r')) : ∃ o', t.Restorer o' := by
  obtain ⟨r', hr⟩ := hr
  have hs := h.eq_of_process? hid
  refine ⟨some (id, r'), by rw [ho, h.restoring, hs]; rfl, fun k q => ?_⟩
  by_cases hk : k = id
  · subst hk; simp [hr]
  · simp [ht k hk, h.restores, hs, Ne.symm hk]

/-- The process that restores is over. -/
theorem ends (h : s.Restorer o) (hid : s.process? id = some (.restore r))
    (ho : t.own.restoring = false) (ht : ∀ k, k ≠ id → t.process? k = s.process? k)
    (hr : ∀ q, t.process? id ≠ some (.restore q)) : t.Restorer none where
  restoring := ho
  restores k q := by
    have ho := h.eq_of_process? hid
    by_cases hk : k = id
    · subst hk; simp [hr]
    · simp [ht k hk, h.restores, ho, Ne.symm hk]

end State.Restorer

/-- **A turn of the crew leaves one process that restores, or none.** -/
theorem Turn.restorer {c : Settings} {s t : State} {id : Nat} {p : Process}
    {sig : Signal Reply Item} {o : Option (Nat × Restore)} (h : Turn c s id p sig t)
    (hs : s.Restorer o) (hn : s.Numbered) (hid : s.process? id = some p) (hp : p.isCrew = true) :
    ∃ o', t.Restorer o' := by
  cases h with
  | asks | refused | renewalEnds | renewalStops =>
    refine ⟨o, hs.of_moves id ?_ (fun k hk => ?_) (fun r => ?_) (fun r => ?_)⟩
    all_goals simp [Session.process?_become, Session.process?_finish, *]
  | enrols lease stream =>
    have hu := hs.enrol hn c lease stream
    refine ⟨o, hu.of_moves id ?_ (fun k hk => ?_) (fun r => ?_) (fun r => ?_)⟩
    all_goals simp [Session.process?_finish, *]
  | renews _ l => exact ⟨o, hs.of_idle (.note s l)⟩
  | renewalLost ls l =>
    -- the renewal is over first, and takes nothing from those that restore
    have hu : State.Restorer (((s.notes ls).finish id).note l) o := by
      refine hs.of_moves id ?_ (fun k hk => ?_) (fun r => ?_) (fun r => ?_)
      all_goals simp [Session.process?_finish, *]
    refine ⟨_, hu.scheduleRestore (hn.of_books ?_ fun k _ hk => ?_) c true⟩
    all_goals simp [Session.process?_finish, *]
  | wakes | retries | restoreAsks | backsOff =>
    refine hs.goesOn hid ?_ (fun k hk => ?_) ?_
    all_goals simp [Session.process?_become, *]
  | skips | yields | restoreStops | givesUp =>
    refine ⟨none, hs.ends hid ?_ (fun k hk => ?_) (fun r => ?_)⟩
    all_goals simp [Session.process?_finish, *]
  | restores lease stream =>
    have hu := hs.enrol hn c lease stream
    have he : (c.enrol lease stream s).process? id = s.process? id := by simp [hid]
    refine ⟨none, hu.ends (he.trans hid) ?_ (fun k hk => ?_) (fun r => ?_)⟩
    all_goals simp [Session.process?_finish, *]
  | _ => cases hp

/-- **There is one process that restores, or none**, whatever happens. -/
theorem restorer_act {c : Settings} {s t : State} {a : Act} {o : Option (Nat × Restore)}
    (h : c.act s a = some t) (hn : s.Numbered) (hs : s.Restorer o) : ∃ o', t.Restorer o' := by
  have hfree := hn.process?_nextId
  cases Settings.deed h hn with
  | idle g => exact ⟨o, hs.of_idle g⟩
  | begins =>
    refine ⟨o, hs.of_moves s.nextId ?_ (fun k hk => ?_) (fun r => ?_) (fun r => ?_)⟩
    all_goals simp [Session.process?_become, Session.process?_spawn, *]
  | deregisters =>
    refine ⟨o, ?_, fun k r => ?_⟩
    · simpa using hs.restoring
    · rw [← hs.restores, ← crew_iff rfl, crew_deregister hn, crew_iff rfl]
  | outside g =>
    obtain ⟨b, -, g⟩ := g
    obtain ⟨o', ho⟩ := hs.lose hn c b
    exact ⟨o', ho.of_idle g⟩
  | crew hp hc ht => exact ht.restorer hs hn hp hc
  | @leaves id p hp hcall =>
    refine ⟨o, hs.of_moves id rfl (fun k hk => ?_) (fun r hr => ?_) (fun r => ?_)⟩
    · simp [Session.process?_finish, hk]
    · rw [hp] at hr
      cases hr
      cases hcall
    · simp [Session.process?_finish]

theorem restorer_initial : State.initial.Restorer none :=
  ⟨rfl, fun _ _ => ⟨(fun h => nomatch h), (fun h => nomatch h)⟩⟩

/-! ## What has been arranged stays arranged -/

/-- **Restoring is pending**: some process restores, and if it still waits for its first attempt,
    nothing will keep it from that. -/
def State.Pending (s : State) : Prop :=
  ∃ k r, s.process? k = some (.restore r) ∧ (r = .delaying → s.own.forced = true)

/-- **Restoring is given up**: the last attempt has failed. -/
def Settings.GivesUp (c : Settings) (s : State) : Act → Prop
  | .signal id sig => ∃ failures stage r f,
      s.process? id = some (.restore (.attempting failures stage)) ∧
      sig.result? stage.operation c.requestTimeout = some r ∧
      c.progress stage r = some (.failed f) ∧ c.lease.policy.retries (failures + 1) = false
  | _ => False

namespace State.Pending

variable {s t : State} {id : Nat} {p : Process}

/-- What happens at a number that restores nothing leaves it pending. -/
theorem of_moves (h : s.Pending) (id : Nat) (hs : ∀ r, s.process? id ≠ some (.restore r))
    (hf : t.own.forced = s.own.forced) (ht : ∀ k, k ≠ id → t.process? k = s.process? k) :
    t.Pending := by
  obtain ⟨k, r, hk, hr⟩ := h
  refine ⟨k, r, ?_, by rw [hf]; exact hr⟩
  rw [ht k fun he => hs r (he ▸ hk), hk]

theorem of_idle (h : s.Pending) (g : Idle s t) : t.Pending := by
  obtain ⟨k, r, hk, hr⟩ := h
  refine ⟨k, r, ?_, fun hd => (congrArg Standing.forced g.standing).trans (hr hd)⟩
  rw [← crew_iff rfl, g.crew, crew_iff rfl, hk]

/-- Once the first attempt has begun, restoring is pending. -/
theorem of_goesOn (id : Nat) (h : ∃ r, r ≠ .delaying ∧ t.process? id = some (.restore r)) :
    t.Pending := by
  obtain ⟨r, hne, hr⟩ := h
  exact ⟨id, r, hr, fun hd => absurd hd hne⟩

/-- A loss leaves it pending, and forces it perhaps. -/
theorem scheduleRestore (h : s.Pending) (c : Settings) (forced : Bool) :
    State.Pending (c.scheduleRestore forced s) := by
  obtain ⟨k, r, hk, hr⟩ := h
  refine ⟨k, r, ?_, fun hd => ?_⟩
  · simp [hk]
  · simp [hr hd]

/-- As long as it is pending, restoring is never skipped. -/
theorem not_skips {c : Settings} {a : Act} {o : Option (Nat × Restore)} (h : s.Pending)
    (hs : s.Restorer o) : ¬ c.Skips s a := by
  intro hskip
  obtain ⟨k, r, hk, hr⟩ := h
  cases a with
  | signal id sig =>
    cases sig with
    | elapsed =>
      obtain ⟨hid, hforced, -⟩ := hskip
      -- there is only one process that restores
      have he := (hs.eq_of_process? hk).symm.trans (hs.eq_of_process? hid)
      obtain ⟨-, rfl⟩ := Prod.mk.inj (Option.some.inj he)
      rw [hr rfl] at hforced
      cases hforced
    | _ => cases hskip
  | _ => cases hskip

end State.Pending

/-- **A turn of the crew leaves pending what is pending**, unless it gives up or skips, the process
    has deregistered, or it enrols. -/
theorem Turn.pending {c : Settings} {s t : State} {id : Nat} {p : Process}
    {sig : Signal Reply Item} (h : Turn c s id p sig t) (hs : s.Pending) (hn : s.Numbered)
    (hopen : s.closed = false) (hid : s.process? id = some p) (hp : p.isCrew = true)
    (hup : ¬ c.GivesUp s (.signal id sig)) (hskip : ¬ c.Skips s (.signal id sig)) :
    t.Pending ∨ t.flags.registered = false ∨ t.Enrolled := by
  cases h with
  | asks | refused | renewalEnds | renewalStops =>
    refine .inl (hs.of_moves id (fun r => ?_) ?_ fun k hk => ?_)
    all_goals simp [Session.process?_become, Session.process?_finish, *]
  | renews _ l => exact .inl (hs.of_idle (.note s l))
  | renewalLost ls l =>
    have hu : State.Pending (((s.notes ls).finish id).note l) := by
      refine hs.of_moves id (fun r => ?_) ?_ fun k hk => ?_
      all_goals simp [Session.process?_finish, *]
    exact .inl (hu.scheduleRestore c true)
  | wakes | retries | restoreAsks | backsOff =>
    refine .inl (.of_goesOn id ?_)
    simp [Session.process?_become, hid]
  | skips l hforced hhas => exact absurd ⟨hid, hforced, hhas⟩ hskip
  | yields _ _ hr => exact .inr (.inl (by simp [hr]))
  | restoreStops hc => rw [hopen] at hc; cases hc
  | givesUp f l hr hf hlast => exact absurd ⟨_, _, _, f, hid, hr, hf, hlast⟩ hup
  | enrols lease stream =>
    exact .inr (.inr (enrolled_succeed c hn (hn.ne_nextId hid) lease stream))
  | restores lease stream l =>
    exact .inr (.inr (enrolled_endRestore c hn (hn.ne_nextId hid) lease stream l))
  | _ => cases hp

/-- **What is pending stays pending** in an act that gives up nothing, unless the process deregisters
    or enrols. -/
theorem pending_act {c : Settings} {s t : State} {a : Act} {o : Option (Nat × Restore)}
    (h : c.act s a = some t) (hs : s.Pending) (ho : s.Restorer o) (hn : s.Numbered)
    (hopen : s.closed = false) (hup : ¬ c.GivesUp s a) :
    t.Pending ∨ t.flags.registered = false ∨ t.Enrolled := by
  have hfree := hn.process?_nextId
  cases Settings.deed h hn with
  | idle g => exact .inl (hs.of_idle g)
  | begins =>
    refine .inl (hs.of_moves s.nextId (fun r => ?_) ?_ fun k hk => ?_)
    all_goals simp [Session.process?_become, Session.process?_spawn, *]
  | deregisters => exact .inr (.inl (by simp))
  | outside g =>
    obtain ⟨b, -, g⟩ := g
    refine .inl (State.Pending.of_idle ?_ g)
    cases b with
    | true => exact hs.scheduleRestore c false
    | false => exact hs
  | crew hp hc ht => exact ht.pending hs hn hopen hp hc hup (hs.not_skips ho)
  | @leaves id p hp hcall =>
    refine .inl (hs.of_moves id (fun r hr => ?_) rfl fun k hk => ?_)
    · rw [hp] at hr
      cases hr
      cases hcall
    · simp [Session.process?_finish, hk]

/-! ## Health -/

/-- **The registration is renewed**: a task that is not cancelled reads the renewals of its lease. -/
def State.Renewed (s : State) : Prop :=
  ∃ k lease stream, s.process? k = some (.renewal lease stream) ∧ s.isCancelled k = false ∧
    s.own.lease = some lease

/-- **The health is true**: a registration that counts as healthy is renewed. -/
def State.Sound (s : State) : Prop := s.Fine → s.Renewed

/-- **A blind skip**: restoring is skipped although the renewals are over. -/
def Settings.SkipsBlindly (c : Settings) (s : State) (a : Act) : Prop :=
  c.Skips s a ∧ s.flags.registered = true ∧ ¬ s.Renewed

/-- A loss of the renewals is answered: the backend is degraded, and restoring is pending. -/
def State.Answered (s : State) : Prop :=
  s.flags.registered = true → s.renewing = none → s.flags.degraded = true ∧ s.Pending

theorem renewed_iff {s : State} (hk : s.Kept) (hopen : s.closed = false) :
    s.Renewed ↔ s.renewing ≠ none := by
  constructor
  · rintro ⟨k, lease, stream, hp, hc, -⟩
    have hr : s.own.renewal = some k := by simpa [State.isCancelled, hopen] using hc
    rw [State.renewing, hr, Option.bind_some, hp]
    simp [Process.lease?]
  · intro hne
    obtain ⟨lease, hl⟩ := Option.ne_none_iff_exists'.1 hne
    obtain ⟨k, hr, hk'⟩ := Option.bind_eq_some_iff.1 hl
    obtain ⟨p, hp, hpl⟩ := Option.bind_eq_some_iff.1 hk'
    have hlease := hk.lease lease hl
    cases p with
    | renewal l stream =>
      obtain rfl : l = lease := Option.some.inj hpl
      exact ⟨k, l, stream, hp, by simp [State.isCancelled, hopen, hr], hlease⟩
    | _ => cases hpl

/-- **An act of an open backend keeps the health true**, unless it skips blindly. -/
theorem sound_act {c : Settings} {s t : State} {a : Act} (h : Fate c s a t) (hk : s.Kept)
    (hopen : s.closed = false) (hopen' : t.closed = false) (hs : s.Sound)
    (hblind : ¬ c.SkipsBlindly s a) : t.Sound := by
  rintro ⟨hreg, hdeg⟩
  rw [renewed_iff (h.kept hk) hopen']
  cases h with
  | level g hd =>
    rw [g.renewing]
    exact (renewed_iff hk hopen).1 (hs ⟨g.registered.symm.trans hreg, hd hdeg⟩)
  | enrolled g =>
    obtain ⟨lease, -, hr⟩ := g.renewing
    simp [hr]
  | ended _ hlost =>
    rw [(hlost hreg).1] at hdeg
    cases hdeg
  | skipped hskip g =>
    rw [g.renewing]
    by_cases hr : s.Renewed
    · exact (renewed_iff hk hopen).1 hr
    · exact absurd ⟨hskip, g.registered.symm.trans hreg, hr⟩ hblind

/-- **A blind skip makes the health a false one.** -/
theorem not_sound_of_skipsBlindly {c : Settings} {s t : State} {a : Act}
    (h : c.act s a = some t) (hn : s.Numbered) (hk : s.Kept) (hopen : s.closed = false)
    (hopen' : t.closed = false) (hblind : c.SkipsBlindly s a) : ¬ t.Sound := by
  intro hsound
  obtain ⟨hskip, hreg, hnot⟩ := hblind
  obtain ⟨g, hfine⟩ := level_of_skips h hskip hreg
  have ht := hsound hfine
  rw [renewed_iff ((fate_act h hn hk hopen).kept hk) hopen', g.renewing] at ht
  exact hnot ((renewed_iff hk hopen).2 ht)

/-- A loss stays answered as long as nothing is given up. -/
theorem answered_act {c : Settings} {s t : State} {a : Act} {o : Option (Nat × Restore)}
    (h : c.act s a = some t) (hs : s.Answered) (ho : s.Restorer o) (hn : s.Numbered) (hk : s.Kept)
    (hopen : s.closed = false) (hup : ¬ c.GivesUp s a) : t.Answered := by
  intro hreg hren
  have hfate := fate_act h hn hk hopen
  cases hfate with
  | level g hd =>
    -- the renewals were over before, so their loss was answered before
    have hans := hs (g.registered.symm.trans hreg) (g.renewing.symm.trans hren)
    refine ⟨by simpa [hans.1] using fun hf => hd hf, ?_⟩
    rcases pending_act h hans.2 ho hn hopen hup with hp | hoff | henr
    · exact hp
    · rw [hoff] at hreg; cases hreg
    · obtain ⟨lease, -, hr⟩ := henr.renewing
      rw [hr] at hren; cases hren
  | enrolled g =>
    obtain ⟨lease, -, hr⟩ := g.renewing
    rw [hr] at hren
    cases hren
  | ended _ hlost =>
    obtain ⟨hdeg, hrest, hforced⟩ := hlost hreg
    obtain ⟨o', ho'⟩ := restorer_act h hn ho
    refine ⟨hdeg, ?_⟩
    -- somebody restores, and he is forced
    cases o' with
    | none => rw [ho'.restoring] at hrest; cases hrest
    | some q => exact ⟨q.1, q.2, (ho'.restores q.1 q.2).2 rfl, fun _ => hforced⟩
  | skipped hskip g =>
    have hans := hs (g.registered.symm.trans hreg) (g.renewing.symm.trans hren)
    exact absurd hskip (hans.2.not_skips ho)

/-! ## Runs -/

/-- What the acts of an open backend keep, beside its health. -/
structure State.Ordered (s : State) : Prop where
  numbered : s.Numbered
  kept : s.Kept
  restorer : ∃ o, s.Restorer o

theorem ordered_initial : State.initial.Ordered :=
  ⟨numbered_initial, kept_initial, none, restorer_initial⟩

theorem ordered_act {c : Settings} {s t : State} {a : Act} (h : c.act s a = some t)
    (hs : s.Ordered) (hopen : s.closed = false) : t.Ordered := by
  obtain ⟨hn, hk, o, ho⟩ := hs
  exact ⟨numbered_act h hn, (fate_act h hn hk hopen).kept hk, restorer_act h hn ho⟩

theorem open_call {c : Settings} {s : State} (k : Call) (h : (c.call s k).closed = false) :
    s.closed = false := by
  cases k with
  | start => exact h
  | register =>
    change (if s.own.called then _ else _ : State).closed = false at h
    split at h
    · exact h
    · exact h
  | deregister =>
    change (deregister s).closed = false at h
    simpa using h
  | instances service =>
    simp only [Settings.call, armWatch_books] at h
    cases hg : s.registry.get? service <;> simpa [hg] using h
  | shutdown => cases h

/-- **A backend that is open was never closed.** -/
theorem open_act {c : Settings} {s t : State} {a : Act} (h : c.act s a = some t)
    (ht : t.closed = false) : s.closed = false := by
  cases a with
  | call k => obtain rfl := Option.some.inj h; exact open_call k ht
  | signal id sig =>
    obtain ⟨p, -, hturn⟩ := Settings.turn h
    exact hturn.steady.closed.symm.trans ht
  | abandon id =>
    obtain ⟨-, -, -, rfl⟩ := Settings.act_abandon_iff.1 h
    exact ht
  | drop => obtain rfl := Option.some.inj h; cases ht

/-- **Along every run, the health is true throughout EXACTLY when nothing is skipped blindly**, and
    nothing is as long as no restoring has been given up. -/
theorem health_true_iff {c : Settings} {s : State} {turns : List (State × Act)}
    (reached : Run c.act .initial turns s) (hopen : s.closed = false) :
    (Run.Throughout State.Sound turns s ↔ ∀ q ∈ turns, ¬ c.SkipsBlindly q.1 q.2) ∧
      ((∀ q ∈ turns, ¬ c.GivesUp q.1 q.2) → Run.Throughout State.Sound turns s) := by
  have hopened : Run.Throughout (fun u : State => u.closed = false) turns s :=
    reached.throughout_of_last _ hopen fun q _ v hv hc => open_act hv hc
  have hordered : Run.Throughout State.Ordered turns s :=
    reached.throughout _ ordered_initial fun q hq v hu hv => ordered_act hv hu (hopened.1 q hq)
  refine ⟨⟨fun hsound q hq hblind => ?_, fun hblind => ?_⟩, fun hup => ?_⟩
  · -- right after a blind skip the health would be false
    obtain ⟨-, -, v, -, -, hv, -⟩ := reached.split hq
    have hu := hordered.1 q hq
    exact not_sound_of_skipsBlindly hv hu.numbered hu.kept (hopened.1 q hq)
      (hopened.after reached hq hv) hblind (hsound.after reached hq hv)
  · refine reached.throughout _ (fun hr => by cases hr.registered) fun q hq v hs hv => ?_
    have hu := hordered.1 q hq
    exact sound_act (fate_act hv hu.numbered hu.kept (hopened.1 q hq)) hu.kept (hopened.1 q hq)
      (hopened.after reached hq hv) hs (hblind q hq)
  · have hanswered : Run.Throughout State.Answered turns s := by
      refine reached.throughout _ (fun hr => by cases hr) fun q hq v hs hv => ?_
      obtain ⟨hn, hk, o, ho⟩ := hordered.1 q hq
      exact answered_act hv hs ho hn hk (hopened.1 q hq) (hup q hq)
    -- what is answered is not taken for healthy
    have hsound {u : State} (ha : u.Answered) (hu : u.Ordered) (hc : u.closed = false) :
        u.Sound := by
      rintro ⟨hreg, hdeg⟩
      refine (renewed_iff hu.kept hc).2 fun hren => ?_
      rw [(ha hreg hren).1] at hdeg
      cases hdeg
    exact ⟨fun q hq => hsound (hanswered.1 q hq) (hordered.1 q hq) (hopened.1 q hq),
      hsound hanswered.2 hordered.2 hopened.2⟩

/-- A registration that nobody disturbs is renewed. -/
theorem health_true_registered :
    ∃ turns s, Run Settings.sample.act .initial turns s ∧ s.flags.registered = true ∧
      s.closed = false ∧ Run.Throughout State.Sound turns s := by
  have hacts : registerActs.foldlM Settings.sample.act .initial = some _ := rfl
  obtain ⟨turns, hr, ha⟩ := Run.of_foldlM hacts
  refine ⟨turns, _, hr, rfl, rfl, (health_true_iff hr rfl).1.2 fun q hq hblind => ?_⟩
  have hmem : q.2 ∈ turns.map Prod.snd := List.mem_map_of_mem hq
  obtain ⟨hskip, -⟩ := hblind
  rw [ha] at hmem
  -- nothing was delayed, so nothing was skipped
  rcases q with ⟨s, a⟩
  simp only [registerActs, List.mem_cons, List.not_mem_nil, or_false] at hmem
  rcases hmem with rfl | rfl | rfl | rfl <;> exact hskip

/-- A backend that attempts only once to restore a registration. -/
def Settings.hasty : Settings :=
  { Settings.sample with lease := { reregisterMaxAttempts := 1 } }

/-- It starts and registers, the renewals end, and the only attempt fails; then the own key is deleted
    and put once more. -/
def hastyActs : List Act :=
  [.call .start, .signal 0 (.reply (.ok (.contents ⟨7, []⟩))), .signal 1 .turn,
    .signal 1 (.reply (.ok (.opened 0))), .call .register,
    .signal 2 (.reply (.ok (.granted 100))), .signal 2 (.reply (.ok .done)),
    .signal 2 (.reply (.ok (.opened 1))), .signal 3 (.item none), .signal 4 .elapsed,
    .signal 4 (.reply (.error (.store "down"))),
    .signal 1 (.item (some (.ok (.changes [.delete Settings.hasty.key,
      .put Settings.hasty.key Settings.hasty.value.toByteArray])))),
    .signal 5 .elapsed]

/-- **The health is NOT true throughout** the acts of a hasty backend. -/
theorem health_false_hasty :
    ∃ turns s, Run Settings.hasty.act .initial turns s ∧ turns.map Prod.snd = hastyActs ∧
      s.closed = false ∧ ¬ Run.Throughout State.Sound turns s := by
  have hlast : ((hastyActs.foldlM Settings.hasty.act .initial).map fun s =>
      (s.flags.registered, s.flags.degraded, s.closed, s.processes)) =
      some (true, false, false, [(1, .watch (.reading 0))]) := by decide +kernel
  obtain ⟨s, hs, hx⟩ := Option.map_eq_some_iff.1 hlast
  obtain ⟨turns, hr, ha⟩ := Run.of_foldlM hs
  simp only [Prod.mk.injEq] at hx
  obtain ⟨hreg, hdeg, hopen, hproc⟩ := hx
  refine ⟨turns, s, hr, ha, hopen, fun hsound => ?_⟩
  obtain ⟨k, lease, stream, hp, -, -⟩ := hsound.2 ⟨hreg, hdeg⟩
  -- the watch is the only process left
  rw [Session.process?, hproc, List.lookup_cons] at hp
  cases hk : k == 1 <;> simp [hk] at hp

end Muster.Leased
