/-
  When is a deregistration final?

  A deregistration gives the registration up at once: the flag falls, the lease is taken out of the
  books and the renewing task is cancelled.  What it does NOT do is to stop a registration that has
  already sent its first request — one that was called for, or an attempt to restore a lost one.  Such a
  registration never looks at the flag again; when its last answer comes in, it enrols the process anew.

  (1) `off_act` — **off stays off**: with nothing enrolling, no act but a call to register sends a
      request of a registration, or changes anything that makes the process count as registered;
  (2) `exists_return` — a deregistration can return whatever else is going on;
  (3) `exists_relapse` — a registration that is enrolling needs ONE more answer to break the silence;
  (4) `deregistration_final_iff` — hence a deregistration is final EXACTLY when nothing is enrolling
      at the moment it is called.
-/
import Muster.Proofs.Leased.Standing

namespace Muster.Leased

/-! ## Registrations under way -/

/-- Whether a process has sent a request of a registration and waits for the answer. -/
def Process.isEnrolling : Process → Bool
  | .registering _ | .restore (.attempting ..) => true
  | _ => false

/-- Some registration is under way. -/
def State.Enrolling (s : State) : Prop := ∃ k p, s.process? k = some p ∧ p.isEnrolling = true

/-- **Not registered in any way**: the flag is down, no lease is held, and no task that renews one is
    left uncancelled. -/
structure State.Off (s : State) : Prop where
  registered : s.flags.registered = false
  lease : s.own.lease = none
  renewals : ∀ k lease stream, s.process? k = some (.renewal lease stream) → s.isCancelled k = true

/-- Off, with nothing under way to change that. -/
structure State.Settled (s : State) : Prop where
  registered : s.flags.registered = false
  lease : s.own.lease = none
  renewal : s.own.renewal = none
  still : ∀ k p, s.process? k = some p → p.isEnrolling = false

/-- A call with a number has returned. -/
def State.Returned (s : State) (id : Nat) : Prop := ∃ o, Entry.returned id o ∈ s.journal

namespace State.Settled

variable {s t : State}

theorem off (h : s.Settled) : s.Off where
  registered := h.registered
  lease := h.lease
  renewals k _ _ _ := by simp [isCancelled, h.renewal]

/-- Only the crew can enrol. -/
theorem of_crew (hr : s.flags.registered = false) (hl : s.own.lease = none)
    (hn : s.own.renewal = none) (hc : ∀ k p, s.crew k = some p → p.isEnrolling = false) :
    s.Settled where
  registered := hr
  lease := hl
  renewal := hn
  still k p hp := by
    cases hcrew : p.isCrew with
    | true => exact hc k p (crew_of_process? hp hcrew)
    | false =>
      cases p with
      | registering => cases hcrew
      | restore => cases hcrew
      | _ => rfl

theorem of_idle (h : s.Settled) (g : Idle s t) : t.Settled := by
  refine of_crew ?_ ?_ ?_ fun k p hp => ?_
  · exact (congrArg Standing.registered g.standing).trans h.registered
  · exact (congrArg Standing.lease g.standing).trans h.lease
  · exact (congrArg Standing.renewal g.standing).trans h.renewal
  · rw [g.crew] at hp
    exact h.still k p (process?_of_crew hp).1

/-- One of the crew that ends leaves the rest as it was. -/
theorem of_finish (h : s.Settled) (id : Nat) (hf : t.flags.registered = s.flags.registered)
    (hl : t.own.lease = s.own.lease) (hn : t.own.renewal = s.own.renewal)
    (hp : ∀ k, t.process? k = (s.finish id).process? k) : t.Settled where
  registered := hf.trans h.registered
  lease := hl.trans h.lease
  renewal := hn.trans h.renewal
  still k p hk := by
    rw [hp, Session.process?_finish] at hk
    split at hk
    · cases hk
    · exact h.still k p hk

end State.Settled

/-! ## Off stays off -/

/-- A turn of the crew, with nothing enrolling, ends a task or only logs. -/
theorem settled_turn {c : Settings} {s t : State} {id : Nat} {p : Process}
    {sig : Signal Reply Item} (h : Turn c s id p sig t) (hs : s.Settled)
    (hid : s.process? id = some p) (hp : p.isCrew = true) :
    t.Settled ∧ t.enrolments = s.enrolments := by
  have hstill : p.isEnrolling = false := hs.still id p hid
  have hoff : s.flags.registered ≠ true := by simp [hs.registered]
  cases h with
  | asks | enrols | refused | restoreAsks | restores | backsOff | givesUp => cases hstill
  | wakes _ hr | retries hr | renewalLost _ _ _ hr => exact absurd hr hoff
  | renews _ l => exact ⟨hs.of_idle (.note s l), (Idle.note s l).enrolments⟩
  | renewalEnds | renewalStops | skips | yields | restoreStops =>
    refine ⟨hs.of_finish id ?_ ?_ ?_ fun k => ?_, ?_⟩
    · simp
    · simp
    · simp
    · simp [Session.process?_finish]
    · simp [State.enrolments]
  | _ => cases hp

/-- With nothing enrolling, a deregistration settles everything at once. -/
theorem settled_deregister {c : Settings} {s : State} (hn : s.Numbered) (hs : ¬ s.Enrolling) :
    (c.call s .deregister).Settled := by
  refine .of_crew ?_ ?_ ?_ fun k p hp => ?_
  · simp [Settings.call]
  · simp [Settings.call]
  · simp [Settings.call]
  · rw [show (c.call s .deregister).crew k = s.crew k from crew_deregister hn k] at hp
    cases he : p.isEnrolling with
    | false => rfl
    | true => exact absurd ⟨k, p, (process?_of_crew hp).1, he⟩ hs

/-- **Off stays off**: as long as nobody registers. -/
theorem off_act {c : Settings} {s t : State} {a : Act} (h : c.act s a = some t) (hn : s.Numbered)
    (hs : s.Settled) (ha : a ≠ .call .register) : t.Settled ∧ t.enrolments = s.enrolments := by
  have idle {u : State} (g : Idle s u) : u.Settled ∧ u.enrolments = s.enrolments :=
    ⟨hs.of_idle g, g.enrolments⟩
  cases Settings.deed h hn with
  | idle g => exact idle g
  | begins => exact absurd rfl ha
  | deregisters =>
    refine ⟨settled_deregister (c := c) hn ?_, enrolments_deregister s⟩
    rintro ⟨k, p, hp, he⟩
    rw [hs.still k p hp] at he
    cases he
  | outside g =>
    obtain ⟨b, hb, g⟩ := g
    -- nothing that is not registered can be lost
    cases b with
    | true => rw [hs.registered] at hb; cases hb rfl
    | false => exact idle g
  | crew hp hc ht => exact settled_turn ht hs hp hc
  | leaves => exact ⟨hs.of_finish _ rfl rfl rfl fun _ => rfl, rfl⟩

/-- Off stays off along a whole run. -/
theorem off_run {c : Settings} {s t : State} {turns : List (State × Act)}
    (h : Run c.act s turns t) (hn : s.Numbered) (hs : s.Settled)
    (ha : ∀ p ∈ turns, p.2 ≠ .call .register) : t.Settled ∧ t.enrolments = s.enrolments := by
  have := h.invariant (fun u => u.Numbered ∧ u.Settled ∧ u.enrolments = s.enrolments)
    ⟨hn, hs, rfl⟩ fun p hp v hv hact => by
      have hstep := off_act hact hv.1 hv.2.1 (ha p hp)
      exact ⟨numbered_act hact hv.1, hstep.1, hstep.2.trans hv.2.2⟩
  exact this.2

/-! ## What is under way goes on -/

/-- **A deregistration can return** while everything else stands still. -/
theorem exists_return (c : Settings) {s : State} (hn : s.Numbered) :
    ∃ front t, Run c.act (c.call s .deregister) front t ∧
      (∀ p ∈ front, p.2 ≠ .call .register) ∧ t.Returned s.nextId ∧
      ∀ k p, s.process? k = some p → t.process? k = some p := by
  have hfresh := hn.process?_nextId
  cases hl : s.own.lease with
  | none =>
    refine ⟨[], _, .nil _, by simp, ⟨.status (.ok ()), ?_⟩, fun k p hp => ?_⟩
    · simp [Settings.call, deregister, hl, Session.instant, Session.setRegistered]
    · simpa [Settings.call, deregister, hl] using hp
  | some lease =>
    let u : State := { s.setRegistered false with
      own := { s.own with called := false, renewal := none, lease := none } }
    have hu : c.call s .deregister = u.begin (.revoke lease) (.revoking lease) := by
      simp [Settings.call, deregister, hl, u]
    -- the end of the lease is answered, and nothing else happens
    have hp : (c.call s .deregister).process? s.nextId = some (.revoking lease) := by
      rw [hu, Session.begin_books .. |>.2.2.2.1, Session.process?_become, Session.process?_spawn]
      simp [u, hfresh]
    have hact : c.act (c.call s .deregister) (.signal s.nextId (.reply (.ok .done))) =
        c.stepRevoking (c.call s .deregister) s.nextId lease (.ok .done) := by
      show ((c.call s .deregister).process? s.nextId).bind _ = _
      rw [hp]; rfl
    refine ⟨_, _, .single (hact.trans rfl), by simp, ⟨.status (.ok ()), ?_⟩, fun k p hk => ?_⟩
    · simp [Session.succeed, Session.answer]
    · have hne : k ≠ s.nextId := fun he => by rw [he, hfresh] at hk; cases hk
      simp [hu, u, Session.process?_finish, Session.process?_become, Session.process?_spawn, hne, hk]

/-- **A registration under way needs one more answer** to break the silence. -/
theorem exists_relapse (c : Settings) {s : State} {k : Nat} {p : Process}
    (hk : s.process? k = some p) (hp : p.isEnrolling = true) :
    ∃ sig t, c.act s (.signal k sig) = some t ∧ ¬ (t.Off ∧ t.enrolments = s.enrolments) := by
  -- every answer is either followed by a request, or enrols the process
  have sent {t : State} {q : Nat × Request} (h : t.enrolments = q :: s.enrolments) :
      ¬ (t.Off ∧ t.enrolments = s.enrolments) := by
    rintro ⟨-, he⟩
    exact List.cons_ne_self _ _ (h.symm.trans he)
  have on {t : State} (h : t.flags.registered = true) :
      ¬ (t.Off ∧ t.enrolments = s.enrolments) := by
    rintro ⟨ho, -⟩
    rw [ho.registered] at h
    cases h
  have act := c.act_of_process? hk
  cases p with
  | registering stage =>
    cases stage with
    | granting =>
      refine ⟨.reply (.ok (.granted 0)), _, (act _).trans rfl, sent (q := (k, .put c.key c.value 0)) ?_⟩
      simp [State.enrolments, Settings.stepRegistering, Request.enrols]
    | putting lease =>
      refine ⟨.reply (.ok .done), _, (act _).trans rfl,
        sent (q := (k, .keepAlive lease c.lease.ttlSecs)) ?_⟩
      simp [State.enrolments, Settings.stepRegistering, Request.enrols]
    | opening lease =>
      refine ⟨.reply (.ok (.opened 0)), _, (act _).trans rfl, on ?_⟩
      simp [Settings.stepRegistering]
  | restore r =>
    cases r with
    | attempting failures stage =>
      cases stage with
      | granting =>
        refine ⟨.reply (.ok (.granted 0)), _, (act _).trans rfl,
          sent (q := (k, .put c.key c.value 0)) ?_⟩
        simp [State.enrolments, Settings.stepAttempt, Request.enrols]
      | putting lease =>
        refine ⟨.reply (.ok .done), _, (act _).trans rfl,
          sent (q := (k, .keepAlive lease c.lease.ttlSecs)) ?_⟩
        simp [State.enrolments, Settings.stepAttempt, Request.enrols]
      | opening lease =>
        refine ⟨.reply (.ok (.opened 0)), _, (act _).trans rfl, on ?_⟩
        simp [Settings.stepAttempt]
    | delaying => cases hp
    | backingOff => cases hp
  | _ => cases hp

/-! ## Final deregistrations -/

/-- **A deregistration called in `s` is final**: at every moment after it has returned, and as long as
    nobody registers after it was called, the process is off and sends no request of a registration. -/
def Settings.FinalFrom (c : Settings) (s : State) : Prop :=
  ∀ front t rest u, Run c.act (c.call s .deregister) front t → t.Returned s.nextId →
    Run c.act t rest u → (∀ p ∈ front ++ rest, p.2 ≠ .call .register) →
    u.Off ∧ u.enrolments = t.enrolments

theorem final_of_still {c : Settings} {s : State} (hn : s.Numbered) (hs : ¬ s.Enrolling) :
    c.FinalFrom s := by
  intro front t rest u hfront _ hrest hreg
  have ht := off_run hfront (numbered_call c hn _) (settled_deregister hn hs)
    fun p hp => hreg p (List.mem_append_left _ hp)
  have hu := off_run hrest (numbered_run hfront (numbered_call c hn _)) ht.1
    fun p hp => hreg p (List.mem_append_right _ hp)
  exact ⟨hu.1.off, hu.2⟩

theorem not_final_of_enrolling {c : Settings} {s : State} (hn : s.Numbered) (hs : s.Enrolling) :
    ¬ c.FinalFrom s := by
  intro hfinal
  obtain ⟨k, p, hk, hp⟩ := hs
  obtain ⟨front, t, hfront, hreg, hret, hstay⟩ := exists_return c hn
  obtain ⟨sig, u, hact, hu⟩ := exists_relapse c (hstay k p hk) hp
  refine hu (hfinal front t _ u hfront hret (.single hact) fun q hq => ?_)
  rcases List.mem_append.1 hq with hq | hq
  · exact hreg q hq
  · rw [List.mem_singleton.1 hq]; simp

/-- **A deregistration is final EXACTLY when nothing is enrolling at the moment it is called.** -/
theorem deregistration_final_iff {c : Settings} {s : State} {turns : List (State × Act)}
    (reached : Run c.act .initial turns s) : c.FinalFrom s ↔ ¬ s.Enrolling :=
  ⟨fun hf hs => not_final_of_enrolling (numbered_run reached numbered_initial) hs hf,
    final_of_still (numbered_run reached numbered_initial)⟩

/-- A deregistration right after a registration is final. -/
theorem deregistration_final_registered :
    ∃ turns s, Run Settings.sample.act .initial turns s ∧ s.flags.registered = true ∧
      Settings.sample.FinalFrom s := by
  have hacts : registerActs.foldlM Settings.sample.act .initial = some _ := rfl
  obtain ⟨turns, hr, -⟩ := Run.of_foldlM hacts
  refine ⟨turns, _, hr, rfl, (deregistration_final_iff hr).2 ?_⟩
  rintro ⟨k, p, hp, he⟩
  have honly : [(1, Process.renewal 100 0)].lookup k = some p := hp
  rw [List.lookup_cons] at honly
  cases hk : k == 1 with
  | true => rw [hk] at honly; cases honly; cases he
  | false => rw [hk] at honly; cases honly

/-- **A deregistration is NOT final** when the renewals have ended, and the attempt to restore the
    registration waits for its lease. -/
theorem deregistration_relapses :
    ∃ turns s, Run Settings.sample.act .initial turns s ∧
      turns.map Prod.snd = registerActs ++ [.signal 1 (.item none), .signal 2 .elapsed] ∧
      ¬ Settings.sample.FinalFrom s := by
  have hacts : (registerActs ++ [Act.signal 1 (.item none), .signal 2 .elapsed]).foldlM
      Settings.sample.act .initial = some _ := rfl
  obtain ⟨turns, hr, ha⟩ := Run.of_foldlM hacts
  refine ⟨turns, _, hr, ha, not_final_of_enrolling (numbered_run hr numbered_initial) ?_⟩
  exact ⟨2, .restore (.attempting 0 .granting), rfl, rfl⟩

end Muster.Leased
