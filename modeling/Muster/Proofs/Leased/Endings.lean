/-
  How the restoring of a registration begins and ends.

  A task that restores begins with a delay, in a backend that has just been degraded.  It ends when it finds that
  there is nothing to restore, when an attempt succeeds, when the last one fails, when the process has
  deregistered, or when the backend is closed.

  (1) `Ends` — the five ways in which the task can end, each with what it leaves of the flags; `ends_of_act` says
      that these are all, and `Ends.unique` that they exclude each other;
  (2) `Ends.tally` — how often a task that was on schedule has tried and failed in the end;
  (3) `begins_of_act` — how it begins;
  (4) `State.Lost` — while nothing disturbs the task, the backend stays registered, degraded and open.
-/
import Muster.Proofs.Leased.Degraded
import Muster.Proofs.Leased.Schedule
import Muster.Proofs.Leased.Tasks

namespace Muster.Leased

/-! ## How the task ends -/

/-- **The ways in which a task that restores can end.** -/
inductive Ending where
  /-- The own instance has been seen again. -/
  | skipped
  /-- The registration is restored. -/
  | succeeded
  /-- All attempts have failed. -/
  | exhausted
  /-- The process has deregistered. -/
  | abandoned
  /-- The backend is closed. -/
  | stopped
deriving DecidableEq, Repr

/-- **The task with a number ends so**, by a signal in a state, and leads to another state. -/
inductive Ends (c : Settings) (k : Nat) (s : State) (sig : Signal Reply Item) (t : State) :
    Ending → Prop
  | skipped : c.Skips s (.signal k sig) → t.flags = { s.flags with degraded := false } →
      Ends c k s sig t .skipped
  | succeeded {n : Nat} {lease : Int} {stream : Nat} :
      s.process? k = some (.restore (.attempting n (.opening lease))) →
      sig = .reply (.ok (.opened stream)) →
      t.flags = { s.flags with registered := true, degraded := false } →
      t.own.lease = some lease → Ends c k s sig t .succeeded
  | exhausted {n : Nat} {stage : Registering} {f : Failure} :
      s.process? k = some (.restore (.attempting n stage)) → c.FailsWith stage sig f →
      c.lease.policy.retries (n + 1) = false → t.flags = s.flags → Ends c k s sig t .exhausted
  | abandoned : sig = .elapsed → ¬ c.Skips s (.signal k sig) →
      (∀ n stage, s.process? k ≠ some (.restore (.attempting n stage))) →
      s.flags.registered = false → t.flags = s.flags → Ends c k s sig t .abandoned
  | stopped : sig = .cancelled →
      (∀ n stage, s.process? k ≠ some (.restore (.attempting n stage))) →
      s.closed = true → t.flags = s.flags → Ends c k s sig t .stopped

/-- **How many attempts and failures there are in the end.** -/
def Ending.Tally (attempts tries failures : Nat) : Ending → Prop
  | skipped => tries = 0 ∧ failures = 0
  | succeeded => tries = failures + 1
  | exhausted => tries = attempts ∧ failures = attempts
  | abandoned | stopped => tries = failures ∧ failures < attempts

section Endings

variable {c : Settings} {s t : State} {k : Nat} {sig : Signal Reply Item} {r : Restore}
  {e e' : Ending} {sent : List (Nat × Request)} {heard : List (Nat × Signal Reply Item)}
  {start since now : Nat}

theorem eq_elapsed_of_skips (h : c.Skips s (.signal k sig)) : sig = .elapsed := by
  cases sig with
  | elapsed => rfl
  | _ => exact h.elim

/-- The ending that a signal can bring: what ends a delay depends on whether there is something to restore. -/
def Ending.ofSignal (skips : Bool) : Signal Reply Item → Ending
  | .reply (.error _) | .timeout => exhausted
  | .elapsed => if skips then skipped else abandoned
  | .cancelled => stopped
  | _ => succeeded

/-- **The ending is read off the signal.** -/
theorem Ends.eq_ofSignal (h : Ends c k s sig t e) {skips : Bool}
    (hskips : skips = true ↔ c.Skips s (.signal k sig)) : e = .ofSignal skips sig := by
  cases h with
  | skipped hs =>
    obtain rfl := eq_elapsed_of_skips hs
    rw [hskips.2 hs]
    rfl
  | succeeded _ hsig =>
    rw [hsig]
    rfl
  | exhausted _ hf => cases hf <;> rfl
  | abandoned hsig hno =>
    rw [Bool.eq_false_iff.2 (mt hskips.1 hno), hsig]
    rfl
  | stopped hsig =>
    rw [hsig]
    rfl

/-- **No task ends in two ways.** -/
theorem Ends.unique (h : Ends c k s sig t e) (h' : Ends c k s sig t e') : e = e' := by
  classical
  have hskips := decide_eq_true_iff (p := c.Skips s (.signal k sig))
  exact (h.eq_ofSignal hskips).trans (h'.eq_ofSignal hskips).symm

/-- Whoever waits for an answer is not told that time has passed, or that it is cancelled. -/
theorem not_attempting_of_act (h : c.act s (.signal k sig) = some t)
    (hsig : sig = .elapsed ∨ sig = .cancelled) (n : Nat) (stage : Registering) :
    s.process? k ≠ some (.restore (.attempting n stage)) := by
  intro hk
  rw [c.act_of_process? hk] at h
  rcases hsig with rfl | rfl <;> cases h

/-- **Whoever ends, ends in one of the five ways.** -/
theorem ends_of_act (h : c.act s (.signal k sig) = some t) (hk : s.process? k = some (.restore r))
    (hover : ¬ t.Restores k) : ∃ e, Ends c k s sig t e := by
  by_cases hskip : c.Skips s (.signal k sig)
  · obtain rfl := eq_elapsed_of_skips hskip
    obtain ⟨hdelaying, hforced, hhas⟩ := hskip
    obtain rfl := Option.some.inj ((c.act_of_delaying hdelaying).symm.trans h)
    exact ⟨_, .skipped ⟨hdelaying, hforced, hhas⟩ (by simp [Settings.afterDelay, hforced, hhas])⟩
  · have hpaused := not_attempting_of_act h
    obtain ⟨p, hp, hturn⟩ := Settings.turn h
    obtain rfl := Option.some.inj (hk.symm.trans hp)
    cases hturn with
    | skips l hforced hhas => exact absurd ⟨hk, hforced, hhas⟩ hskip
    | yields forced l hoff =>
      exact ⟨_, .abandoned rfl hskip (hpaused (.inl rfl)) hoff (by simp)⟩
    | restoreStops hclosed => exact ⟨_, .stopped rfl (hpaused (.inr rfl)) hclosed (by simp)⟩
    | restores lease stream l hr hg =>
      obtain ⟨rfl, rfl⟩ := Settings.progress_opened hg
      obtain rfl := reply_of_result? hr
      exact ⟨_, .succeeded hk rfl (by simp) (by simp)⟩
    | givesUp f l hr hg hlast =>
      obtain ⟨g, hfails, -⟩ := failsWith_of_failed hr hg
      exact ⟨_, .exhausted hk hfails hlast (by simp)⟩
    -- in all other turns it goes on
    | wakes | retries | restoreAsks | backsOff =>
      refine absurd ?_ hover
      simp [State.Restores, Session.process?_become, hk]

/-- **Whoever was on schedule has the attempts and failures of its ending.** -/
theorem Ends.tally (h : Ends c k s sig t e) (hk : s.process? k = some (.restore r))
    (hs : OnSchedule c start sent heard since r) :
    e.Tally c.lease.policy.attempts (tries sent).length (failures (heard ++ [(now, sig)])).length := by
  -- whoever waits has failed as often as it has tried
  have hpaused (hno : ∀ n stage, s.process? k ≠ some (.restore (.attempting n stage))) :
      (tries sent).length = (failures heard).length ∧
        (failures heard).length < c.lease.policy.attempts := by
    cases hs with
    | delaying hsent hheard =>
      rw [hsent, hheard]
      exact ⟨rfl, attempts_pos c⟩
    | attempting => exact absurd hk (hno _ _)
    | backingOff hn htries hfailures => exact ⟨by omega, by omega⟩
  cases h with
  | skipped hskip =>
    obtain rfl := eq_elapsed_of_skips hskip
    rw [failures_concat_of_not rfl]
    obtain rfl : r = .delaying := by
      cases hk.symm.trans hskip.1
      rfl
    cases hs with
    | delaying hsent hheard =>
      rw [hsent, hheard]
      exact ⟨rfl, rfl⟩
  | succeeded hp hsig =>
    obtain rfl := hsig
    rw [failures_concat_of_not rfl]
    cases hk.symm.trans hp
    cases hs with
    | attempting _ htries hfailures => exact htries.trans (congrArg (· + 1) hfailures.symm)
  | @exhausted n stage f hp hf hlast =>
    cases hk.symm.trans hp
    have hmax : ¬ n + 1 < c.lease.policy.attempts := of_decide_eq_false hlast
    cases hs with
    | attempting hn htries hfailures =>
      rw [failures_concat_of_failure hf.isFailure, List.length_append, List.length_singleton]
      exact ⟨by omega, by omega⟩
  | abandoned hsig _ hno =>
    obtain rfl := hsig
    rw [failures_concat_of_not rfl]
    exact hpaused hno
  | stopped hsig hno =>
    obtain rfl := hsig
    rw [failures_concat_of_not rfl]
    exact hpaused hno

end Endings

/-! ## How the task begins -/

section Beginnings

variable {c : Settings} {s t : State} {k id : Nat} {a : Act}

/-- What happens at one number makes nobody else restore. -/
theorem restores_of_moves (h : t.Restores k) (id : Nat)
    (ht : ∀ j, j ≠ id → t.process? j = s.process? j)
    (hid : ∀ r, t.process? id = some (.restore r) → s.Restores id) : s.Restores k := by
  obtain ⟨r, hr⟩ := h
  by_cases hk : k = id
  · subst hk
    exact hid r hr
  · exact ⟨r, (ht k hk).symm.trans hr⟩

theorem restores_of_crew (h : t.Restores k) (hcrew : t.crew k = s.crew k) : s.Restores k := by
  obtain ⟨r, hr⟩ := h
  exact ⟨r, (crew_iff rfl).1 (hcrew ▸ (crew_iff rfl).2 hr)⟩

/-- Whoever restores after a loss did so before, or has just been started. -/
theorem restores_scheduleRestore {forced : Bool} (h : State.Restores (c.scheduleRestore forced s) k) :
    s.Restores k ∨
      (k = s.nextId ∧ (c.scheduleRestore forced s).process? k = some (.restore .delaying)) := by
  obtain ⟨r, hr⟩ := h
  have hproc := (c.scheduleRestore_books forced s).2.2.2.1 k
  rw [hproc] at hr ⊢
  split at hr
  · exact .inl ⟨r, hr⟩
  · rename_i hno
    rw [if_neg hno]
    rcases Option.or_eq_some_iff.1 hr with hr | ⟨hnone, hr⟩
    · exact .inl ⟨r, hr⟩
    · split at hr
      · rename_i hk
        rw [if_pos hk, hnone]
        exact .inr ⟨hk, rfl⟩
      · cases hr

/-- Nobody restores by enrolling. -/
theorem restores_enrol {lease : Int} {stream : Nat} (h : State.Restores (c.enrol lease stream s) k) :
    s.Restores k := by
  obtain ⟨r, hr⟩ := h
  rw [(c.enrol_books lease stream s).2.2.2.1] at hr
  rcases Option.or_eq_some_iff.1 hr with hr | ⟨-, hr⟩
  · exact ⟨r, hr⟩
  · split at hr <;> cases hr

/-- **A task that restores begins with the delay**, in a backend that is registered, and is degraded then. -/
structure Begins (k : Nat) (s t : State) : Prop where
  nextId : s.nextId ≤ k
  process? : t.process? k = some (.restore .delaying)
  registered : t.flags.registered = true
  degraded : t.flags.degraded = true

theorem Turn.begins {p : Process} {sig : Signal Reply Item} (h : Turn c s id p sig t)
    (hid : s.process? id = some p) (hp : p.isCrew = true) (hbefore : ¬ s.Restores k)
    (hk : t.Restores k) : Begins k s t := by
  have hmoves (ht : ∀ j, j ≠ id → t.process? j = s.process? j)
      (hself : ∀ r, t.process? id = some (.restore r) → s.Restores id) : Begins k s t :=
    absurd (restores_of_moves hk id ht hself) hbefore
  cases h with
  | asks | refused | renewalEnds | renewalStops | skips | yields | restoreStops | givesUp =>
    refine hmoves (fun j hj => ?_) fun r hr => ?_
    all_goals simp_all [Session.process?_become, Session.process?_finish]
  | renews => exact absurd hk hbefore
  | wakes | retries | restoreAsks | backsOff =>
    refine hmoves (fun j hj => ?_) fun _ _ => ⟨_, hid⟩
    simp [Session.process?_become, hj]
  | enrols lease stream | restores lease stream =>
    have henrol : State.Restores (c.enrol lease stream s) k := by
      refine restores_of_moves hk id (fun j hj => ?_) fun r hr => ?_
      · simp [Session.process?_finish, hj]
      · simp [Session.process?_finish] at hr
    exact absurd (restores_enrol henrol) hbefore
  | renewalLost ls l _ hreg =>
    rcases restores_scheduleRestore hk with hold | ⟨rfl, hproc⟩
    · refine absurd (restores_of_moves hold id (fun j hj => ?_) fun r hr => ?_) hbefore
      · simp [Session.process?_finish, hj]
      · simp [Session.process?_finish] at hr
    · exact ⟨by simp, hproc, by simp [hreg], by simp⟩
  | _ => cases hp

/-- **Whoever restores and did not before has just begun.** -/
theorem begins_of_act (h : c.act s a = some t) (hn : s.Numbered) (hbefore : ¬ s.Restores k)
    (hk : t.Restores k) : Begins k s t := by
  cases Settings.deed h hn with
  | idle g => exact absurd (restores_of_crew hk (g.crew k)) hbefore
  | begins =>
    obtain ⟨r, hr⟩ := hk
    refine absurd (restores_of_moves ⟨r, hr⟩ s.nextId (fun j hj => ?_) fun r hr => ?_) hbefore
    · simp [Session.process?_become, Session.process?_spawn, hj]
    · have hfree := hn.process?_nextId
      simp [Session.process?_become, Session.process?_spawn, hfree] at hr
  | deregisters => exact absurd (restores_of_crew hk (crew_deregister hn k)) hbefore
  | outside g =>
    obtain ⟨b, hb, g⟩ := g
    have hlost : State.Restores (c.lose b s) k := restores_of_crew hk (g.crew k)
    cases b with
    | false => exact absurd hlost hbefore
    | true =>
      rcases restores_scheduleRestore hlost with hold | ⟨rfl, hproc⟩
      · exact absurd hold hbefore
      · have hreg := congrArg Standing.registered g.standing
        have hdeg := congrArg Standing.degraded g.standing
        simp only [State.standing, c.lose_books, Bool.true_or] at hreg hdeg
        refine ⟨Nat.le_refl _, ?_, hreg.trans (hb rfl), hdeg⟩
        exact (crew_iff rfl).1 ((g.crew _).trans ((crew_iff rfl).2 hproc))
  | crew hp hc hturn => exact hturn.begins hp hc hbefore hk
  | @leaves id p hp =>
    refine absurd (restores_of_moves hk id (fun j hj => ?_) fun r hr => ?_) hbefore
    · simp [Session.process?_finish, hj]
    · simp [Session.process?_finish] at hr

end Beginnings

/-! ## While nothing disturbs it -/

/-- **An act disturbs a task that restores**: the process deregisters, the backend is closed, or another
    registration comes to its end. -/
def State.Disturbs (s : State) (k : Nat) : Act → Prop
  | .call .deregister | .call .shutdown | .drop => True
  | .signal j sig => j ≠ k ∧ s.Enrols (.signal j sig)
  | _ => False

/-- **A registration is lost**, in a backend that is open. -/
structure State.Lost (s : State) : Prop where
  registered : s.flags.registered = true
  degraded : s.flags.degraded = true
  opened : s.closed = false

section Undisturbed

variable {c : Settings} {s t : State} {k : Nat} {a : Act} {sig : Signal Reply Item} {e : Ending}

/-- Only a shutdown and a drop close a backend. -/
theorem closed_act (h : c.act s a = some t) (hshut : a ≠ .call .shutdown) (hdrop : a ≠ .drop) :
    t.closed = s.closed := by
  cases a with
  | call q =>
    obtain rfl := Option.some.inj h
    exact (c.edits_call s fun hq => hshut (congrArg Act.call hq)).closed_eq
  | signal id sig =>
    obtain ⟨p, -, hturn⟩ := Settings.turn h
    exact hturn.steady.closed
  | abandon id =>
    obtain ⟨-, -, -, rfl⟩ := Settings.act_abandon_iff.1 h
    rfl
  | drop => exact absurd rfl hdrop

/-- **Whoever recovers by restoring is over.** -/
theorem over_of_recovers (h : c.act s (.signal k sig) = some t) (hk : s.Restores k)
    (hrec : c.Recovers s (.signal k sig)) : ¬ t.Restores k := by
  obtain ⟨r, hk⟩ := hk
  rintro ⟨r', hr'⟩
  rcases hrec with henr | hskip
  · unfold State.Enrols at henr
    split at henr
    · rename_i hsig
      cases hsig
      rw [hk] at henr
      cases r with
      | attempting n stage =>
        cases stage with
        | opening lease =>
          rw [c.act_of_process? hk] at h
          obtain rfl := Option.some.inj h
          simp [Settings.stepAttempt, Session.process?_finish] at hr'
        | granting | putting => cases henr
      | delaying | backingOff => cases henr
    · exact henr
  · obtain rfl := eq_elapsed_of_skips hskip
    obtain ⟨hdelaying, hforced, hhas⟩ := hskip
    obtain rfl := Option.some.inj ((c.act_of_delaying hdelaying).symm.trans h)
    simp [Settings.afterDelay, hforced, hhas, Session.process?_finish] at hr'

/-- **A registration stays lost**, as long as the task that restores it goes on and nothing disturbs it. -/
theorem lost_act {o : Option (Nat × Restore)} (h : c.act s a = some t) (hn : s.Numbered)
    (ho : s.Restorer o) (hk : s.Restores k) (hk' : t.Restores k) (hno : ¬ s.Disturbs k a)
    (hs : s.Lost) : t.Lost := by
  -- nobody but the task could recover, and it would be over then
  have hrec : ¬ c.Recovers s a := by
    intro hrec
    have hself : ∃ sig, a = .signal k sig := by
      cases a with
      | signal j sig =>
        by_cases hj : j = k
        · exact ⟨sig, by rw [hj]⟩
        · rcases hrec with henr | hskip
          · exact absurd ⟨hj, henr⟩ hno
          · obtain rfl := eq_elapsed_of_skips hskip
            obtain ⟨r, hr⟩ := hk
            have he := (ho.eq_of_process? hskip.1).symm.trans (ho.eq_of_process? hr)
            exact absurd (Prod.mk.inj (Option.some.inj he)).1 hj
      | call | abandon | drop => rcases hrec with henr | hskip <;> contradiction
    obtain ⟨sig, rfl⟩ := hself
    exact over_of_recovers h hk hrec hk'
  have hdereg : a ≠ .call .deregister := by
    rintro rfl
    exact hno trivial
  have hreg : t.flags.registered = true := (abides_act h hn hrec hdereg).registered.trans hs.registered
  constructor
  case registered => exact hreg
  case degraded =>
    rw [← Bool.not_eq_false]
    intro hdeg
    have hfine : s.Fine := fine_act h hn (fun henr => hrec (.inl henr))
      (fun hskip => hrec (.inr hskip.1)) ⟨hreg, hdeg⟩
    cases hs.degraded.symm.trans hfine.degraded
  case opened =>
    refine (closed_act h ?_ ?_).trans hs.opened
    · rintro rfl
      exact hno trivial
    · rintro rfl
      exact hno trivial

/-- **Whoever restores what is lost is skipped, succeeds or is exhausted**, and only in the last case the backend
    stays degraded. -/
theorem Ends.of_lost (h : Ends c k s sig t e) (hs : s.Lost) :
    (e = .skipped ∨ e = .succeeded ∨ e = .exhausted) ∧
      (t.flags.degraded = false ↔ e = .skipped ∨ e = .succeeded) := by
  cases h with
  | skipped _ hflags => simp [hflags]
  | succeeded _ _ hflags => simp [hflags]
  | exhausted _ _ _ hflags => simp [hflags, hs.degraded]
  | abandoned _ _ _ hoff => cases hs.registered.symm.trans hoff
  | stopped _ _ hclosed => cases hs.opened.symm.trans hclosed

end Undisturbed

end Muster.Leased
