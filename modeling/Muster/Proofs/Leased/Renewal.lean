/-
  Whose lease is being renewed?

  Tasks that renew a lease come and go, and several can be alive at once: a registration that
  succeeds puts a NEW one in charge, and the old one only stops when its turn comes.  What counts is
  the task in charge, and whether it is alive.

  (1) `State.renewing` — the lease that the task in charge reads the renewals of, if it is alive;
  (2) `fate_act` — an act leaves this alone, together with the flag and the lease of the registration,
      unless it enrols, deregisters, ends the task in charge, or skips a restoring;
  (3) `Fate.kept` — so the lease that is renewed is always THE lease, and nothing is renewed without a
      registration.

  THE CRUX: a task that is not in charge can end in any way without a trace here, even if the store
  has given its lease to the registration once more.
-/
import Muster.Proofs.Leased.Standing

namespace Muster.Leased

/-! ## The task in charge -/

/-- **The backend counts as healthy**: it is registered, and not degraded. -/
structure State.Fine (s : State) : Prop where
  registered : s.flags.registered = true
  degraded : s.flags.degraded = false

/-- The lease that a process reads the renewals of. -/
def Process.lease? : Process → Option Int
  | .renewal lease _ => some lease
  | _ => none

/-- **The lease that is being renewed**: by the task in charge, if it is alive. -/
def State.renewing (s : State) : Option Int :=
  s.own.renewal.bind fun k => (s.process? k).bind Process.lease?

theorem renewing_congr {s t : State} (hr : t.own.renewal = s.own.renewal)
    (hp : ∀ k, s.own.renewal = some k →
      (t.process? k).bind Process.lease? = (s.process? k).bind Process.lease?) :
    t.renewing = s.renewing := by
  unfold State.renewing
  rw [hr]
  cases h : s.own.renewal with
  | none => rfl
  | some k => exact hp k h

/-- A process that renews nothing is one of many. -/
theorem bind_or_lease? (o : Option Process) {p : Process} (hp : p.lease? = none) (b : Prop)
    [Decidable b] :
    (o.or (if b then some p else none)).bind Process.lease? = o.bind Process.lease? := by
  cases o with
  | some q => rfl
  | none => by_cases hb : b <;> simp [hb, hp]

/-- The crew is all that can renew. -/
theorem crew_lease? (s : State) (k : Nat) :
    (s.crew k).bind Process.lease? = (s.process? k).bind Process.lease? := by
  unfold State.crew
  cases s.process? k with
  | none => rfl
  | some p => cases p <;> rfl

/-! ## What an act leaves alone -/

/-- **The renewals are level**: the flag and the lease of the registration are as before, and the same
    lease is being renewed. -/
structure Level (s t : State) : Prop where
  registered : t.flags.registered = s.flags.registered
  lease : t.own.lease = s.own.lease
  renewing : t.renewing = s.renewing

namespace Level

variable {s t u : State} {id : Nat}

theorem refl (s : State) : Level s s := ⟨rfl, rfl, rfl⟩

theorem trans (h : Level s t) (g : Level t u) : Level s u :=
  ⟨g.registered.trans h.registered, g.lease.trans h.lease, g.renewing.trans h.renewing⟩

theorem of_idle (h : Idle s t) : Level s t where
  registered := congrArg Standing.registered h.standing
  lease := congrArg Standing.lease h.standing
  renewing := by
    refine renewing_congr (congrArg Standing.renewal h.standing) fun k _ => ?_
    rw [← crew_lease?, h.crew, crew_lease?]

/-- A loss starts nothing that renews, and ends nothing. -/
theorem scheduleRestore (c : Settings) (forced : Bool) (s : State) :
    Level s (c.scheduleRestore forced s) where
  registered := by simp
  lease := by simp
  renewing := by
    refine renewing_congr (by simp) fun k _ => ?_
    rw [(c.scheduleRestore_books forced s).2.2.2.1]
    split
    · rfl
    · exact bind_or_lease? _ rfl _

theorem lose (c : Settings) (b : Bool) (s : State) : Level s (c.lose b s) := by
  cases b with
  | true => exact scheduleRestore c false s
  | false => exact refl s

theorem of_outside {c : Settings} (h : Outside c s t) : Level s t := by
  obtain ⟨b, -, g⟩ := h
  exact (lose c b s).trans (of_idle g)

/-- At a number that renews nothing, something begins, goes on or ends that renews nothing. -/
theorem of_moves (id : Nat) (hp : (s.process? id).bind Process.lease? = none)
    (hf : t.flags.registered = s.flags.registered) (hl : t.own.lease = s.own.lease)
    (hr : t.own.renewal = s.own.renewal)
    (ht : ∀ k, k ≠ id → t.process? k = s.process? k)
    (hq : (t.process? id).bind Process.lease? = none) : Level s t where
  registered := hf
  lease := hl
  renewing := by
    refine renewing_congr hr fun k _ => ?_
    by_cases hk : k = id
    · rw [hk, hq, hp]
    · rw [ht k hk]

/-- A task that is not in charge ends. -/
theorem of_ends (id : Nat) (hne : s.own.renewal ≠ some id)
    (hf : t.flags.registered = s.flags.registered) (hl : t.own.lease = s.own.lease)
    (hr : t.own.renewal = s.own.renewal) (ht : ∀ k, k ≠ id → t.process? k = s.process? k) :
    Level s t where
  registered := hf
  lease := hl
  renewing := by
    refine renewing_congr hr fun k hk => ?_
    rw [ht k fun he => hne (he ▸ hk)]

end Level

/-- **The backend has just enrolled**: it counts as healthy, and its lease is being renewed. -/
structure State.Enrolled (s : State) : Prop extends s.Fine where
  renewing : ∃ lease, s.own.lease = some lease ∧ s.renewing = some lease

/-- **Nothing is renewed without a registration, and with one, nothing but its lease.** -/
structure State.Kept (s : State) : Prop where
  off : s.flags.registered = false → s.renewing = none
  lease : ∀ l, s.renewing = some l → s.own.lease = some l

namespace State.Kept

variable {s t : State}

theorem of_level (h : s.Kept) (g : Level s t) : t.Kept where
  off hr := by rw [g.renewing]; exact h.off (g.registered.symm.trans hr)
  lease l hl := by rw [g.lease]; exact h.lease l (g.renewing.symm.trans hl)

theorem of_enrolled (h : t.Enrolled) : t.Kept where
  off hr := by rw [h.registered] at hr; cases hr
  lease l hl := by
    obtain ⟨lease, hlease, hren⟩ := h.renewing
    rw [hlease, ← hren, hl]

theorem of_none (h : t.renewing = none) : t.Kept where
  off _ := h
  lease l hl := by rw [h] at hl; cases hl

end State.Kept

/-- Whoever enrols, its process takes no part in the renewals. -/
theorem enrolled_of_enrol (c : Settings) {s t : State} (lease : Int) (stream : Nat) {id : Nat}
    (hn : s.Numbered) (hid : id ≠ s.nextId) (hf : t.flags = (c.enrol lease stream s).flags)
    (hl : t.own.lease = some lease) (hr : t.own.renewal = some s.nextId)
    (ht : ∀ k, k ≠ id → t.process? k = (c.enrol lease stream s).process? k) : t.Enrolled where
  registered := by rw [hf]; simp
  degraded := by rw [hf]; simp
  renewing := by
    refine ⟨lease, hl, ?_⟩
    have hnew := hn.process?_nextId
    rw [State.renewing, hr, Option.bind_some, ht _ (Ne.symm hid)]
    simp [hnew, Process.lease?]

/-- A call to register that succeeds enrols. -/
theorem enrolled_succeed (c : Settings) {s : State} {id : Nat} (hn : s.Numbered)
    (hid : id ≠ s.nextId) (lease : Int) (stream : Nat) :
    State.Enrolled ((c.enrol lease stream s).succeed id) := by
  refine enrolled_of_enrol c lease stream hn hid ?_ ?_ ?_
    fun k hk => ?_
  all_goals simp [Session.process?_finish, *]

/-- So does an attempt to restore that succeeds. -/
theorem enrolled_endRestore (c : Settings) {s : State} {id : Nat} (hn : s.Numbered)
    (hid : id ≠ s.nextId) (lease : Int) (stream : Nat) (l : Logging.Line) :
    State.Enrolled (endRestore ((c.enrol lease stream s).note l) id) := by
  refine enrolled_of_enrol c lease stream hn hid ?_ ?_ ?_
    fun k hk => ?_
  all_goals simp [Session.process?_finish, *]

/-! ## What an act does to the renewals -/

/-- **Restoring is skipped**: the delay has passed, nothing forces the restoring, and the own instance
    is in the cache. -/
def Settings.Skips (c : Settings) (s : State) : Act → Prop
  | .signal id .elapsed => s.process? id = some (.restore .delaying) ∧ s.own.forced = false ∧
      s.registry.has c.self.name c.self.endpoint = true
  | _ => False

instance (c : Settings) (s : State) (a : Act) : Decidable (c.Skips s a) := by
  unfold Settings.Skips
  split <;> infer_instance

/-- **The fate of the renewals** in one act. -/
inductive Fate (c : Settings) (s : State) (a : Act) (t : State) : Prop
  /-- They go on as they are, and nothing becomes better. -/
  | level : Level s t → (t.flags.degraded = false → s.flags.degraded = false) → Fate c s a t
  /-- Others take their place. -/
  | enrolled : t.Enrolled → Fate c s a t
  /-- They are over: the registration is given up, or lost and to be restored in any case. -/
  | ended : t.renewing = none → (t.flags.registered = true →
      t.flags.degraded = true ∧ t.own.restoring = true ∧ t.own.forced = true) → Fate c s a t
  /-- They are as they were, but nothing counts as degraded any more. -/
  | skipped : c.Skips s a → Level s t → t.flags.degraded = false → Fate c s a t

namespace Fate

variable {c : Settings} {s t : State} {a : Act} {id : Nat}

theorem of_idle (h : Idle s t) : Fate c s a t :=
  .level (.of_idle h) fun hd => (congrArg Standing.degraded h.standing).symm.trans hd

/-- Nothing happens to the renewals, and all flags stay as they are. -/
theorem of_moves (id : Nat) (hp : (s.process? id).bind Process.lease? = none)
    (hf : t.flags = s.flags) (hl : t.own.lease = s.own.lease) (hr : t.own.renewal = s.own.renewal)
    (ht : ∀ k, k ≠ id → t.process? k = s.process? k)
    (hq : (t.process? id).bind Process.lease? = none) : Fate c s a t :=
  .level (.of_moves id hp (by rw [hf]) hl hr ht hq) (by rw [hf]; exact fun hd => hd)

end Fate

/-- **A turn of the crew**, as far as the renewals go. -/
theorem Turn.fate {c : Settings} {s t : State} {id : Nat} {p : Process}
    {sig : Signal Reply Item} (h : Turn c s id p sig t) (hn : s.Numbered) (hk : s.Kept)
    (hopen : s.closed = false) (hid : s.process? id = some p) (hp : p.isCrew = true) :
    Fate c s (.signal id sig) t := by
  have hlt : id ≠ s.nextId := hn.ne_nextId hid
  -- a task that does not renew the lease of the registration is not in charge
  have hcharge {lease : Int} {stream : Nat} (hp : p = .renewal lease stream)
      (hl : s.flags.registered = false ∨ s.own.lease ≠ some lease) : s.own.renewal ≠ some id := by
    intro he
    have hren : s.renewing = some lease := by
      rw [State.renewing, he, Option.bind_some, hid, hp]; rfl
    rcases hl with hl | hl
    · rw [hk.off hl] at hren; cases hren
    · exact hl (hk.lease lease hren)
  cases h with
  | asks | retries | restoreAsks | backsOff | wakes =>
    -- here, and in the next case, the process renews nothing before and after
    refine .of_moves id (by rw [hid]; rfl) ?_ ?_ ?_ (fun k hk => ?_) ?_
    all_goals simp [Session.process?_become, Process.lease?, *]
  | refused | yields | restoreStops | givesUp =>
    refine .of_moves id (by rw [hid]; rfl) ?_ ?_ ?_ (fun k hk => ?_) ?_
    all_goals simp [Session.process?_finish, *]
  | enrols lease stream => exact .enrolled (enrolled_succeed c hn hlt lease stream)
  | restores lease stream l => exact .enrolled (enrolled_endRestore c hn hlt lease stream l)
  | renews _ l => exact .of_idle (.note s l)
  | renewalEnds ls l _ hl =>
    refine .level (.of_ends id (hcharge rfl hl) ?_ ?_ ?_ fun k hk => ?_) ?_
    all_goals simp [Session.process?_finish, *]
  | renewalStops l hstop =>
    have hne : s.own.renewal ≠ some id := by simpa [State.isCancelled, hopen] using hstop
    refine .level (.of_ends id hne ?_ ?_ ?_ fun k hk => ?_) ?_
    all_goals simp [Session.process?_finish, *]
  | renewalLost ls l _ hr hl =>
    let u := ((s.notes ls).finish id).note l
    have hd : (c.scheduleRestore true u).flags.degraded = true := by simp
    by_cases hr : s.own.renewal = some id
    · -- the task in charge is gone
      refine .ended ((Level.scheduleRestore c true u).renewing.trans ?_) fun _ => ⟨hd, ?_⟩
      · simp [State.renewing, u, hr, Session.process?_finish]
      · simp only [c.scheduleRestore_books, Bool.true_or, and_self]
    · -- it reads the lease of the registration, but another task is in charge
      have hu : Level s u := by
        refine .of_ends id hr ?_ ?_ ?_ fun k hk => ?_
        all_goals simp [u, Session.process?_finish, *]
      refine .level (hu.trans (.scheduleRestore c true u)) fun he => ?_
      rw [hd] at he
      cases he
  | skips l hforced hhas =>
    refine .skipped ⟨hid, hforced, hhas⟩
      (.of_moves id (by rw [hid]; rfl) ?_ ?_ ?_ (fun k hk => ?_) ?_) ?_
    all_goals simp [Session.process?_finish, *]
  | _ => cases hp

/-- **An act of an open backend**, as far as the renewals go. -/
theorem fate_act {c : Settings} {s t : State} {a : Act} (h : c.act s a = some t)
    (hn : s.Numbered) (hk : s.Kept) (hopen : s.closed = false) : Fate c s a t := by
  have hfree := hn.process?_nextId
  cases Settings.deed h hn with
  | idle g => exact .of_idle g
  | begins =>
    refine .of_moves s.nextId (by rw [hfree]; rfl) ?_ ?_ ?_ (fun k hk => ?_) ?_
    all_goals simp [Session.process?_become, Session.process?_spawn, Process.lease?, *]
  | deregisters =>
    refine .ended ?_ fun hr => ?_
    · have hnone : (deregister s).own.renewal = none := by simp
      rw [State.renewing, hnone]; rfl
    · have hoff : (deregister s).flags.registered = false := by simp
      cases hoff.symm.trans hr
  | outside g =>
    refine .level (.of_outside g) fun hd => ?_
    obtain ⟨b, -, g⟩ := g
    have hb : (c.lose b s).flags.degraded = false :=
      (congrArg Standing.degraded g.standing).symm.trans hd
    simp only [c.lose_books, Bool.or_eq_false_iff] at hb
    exact hb.2
  | crew hp hc ht => exact ht.fate hn hk hopen hp hc
  | @leaves id p hp hcall =>
    refine .of_moves id ?_ ?_ ?_ ?_ (fun k hk => ?_) ?_
    · rw [hp]
      cases p with
      | renewal => cases hcall
      | _ => rfl
    all_goals simp [Session.process?_finish, *]

/-- Whoever skips restoring leaves the renewals as they are, and counts as healthy. -/
theorem level_of_skips {c : Settings} {s t : State} {a : Act} (h : c.act s a = some t)
    (hskip : c.Skips s a) (hreg : s.flags.registered = true) : Level s t ∧ t.Fine := by
  cases a with
  | signal id sig =>
    cases sig with
    | elapsed =>
      obtain ⟨hid, hforced, hhas⟩ := hskip
      obtain ⟨p, hp, ht⟩ := Settings.turn h
      obtain rfl : Process.restore .delaying = p := Option.some.inj (hid.symm.trans hp)
      cases ht with
      | skips l =>
        refine ⟨.of_moves id (by rw [hid]; rfl) ?_ ?_ ?_ (fun k hk => ?_) ?_, ?_, ?_⟩
        all_goals simp [Session.process?_finish, *]
      | wakes hor =>
        rw [hforced, hhas] at hor
        rcases hor with hor | hor
        · cases hor
        · cases hor
      | yields _ _ hoff => rw [hoff] at hreg; cases hreg
    | _ => cases hskip
  | _ => cases hskip

/-- Every act keeps the renewals in order. -/
theorem Fate.kept {c : Settings} {s t : State} {a : Act} (h : Fate c s a t) (hk : s.Kept) :
    t.Kept := by
  cases h with
  | level g => exact hk.of_level g
  | enrolled g => exact .of_enrolled g
  | ended g => exact .of_none g
  | skipped _ g => exact hk.of_level g

theorem kept_initial : State.initial.Kept := .of_none rfl

end Muster.Leased
