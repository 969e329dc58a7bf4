/-
  Is the restoring of a registration bounded?

  A registration that is lost is restored by a task, which waits for the delay and then tries, with growing waits
  between the attempts.  A store may answer with errors, or not at all; neither must make it try for ever, nor
  more often or sooner than is configured.

  (1) `UnderWay` — along every run on a clock, what the task has sent and heard keeps the bounds, and the task is
      on schedule;
  (2) `lost_run` — while nothing disturbs the task, what it restores stays lost;
  (3) `restoring_bounded` — hence it ends in time, after as many attempts as are configured at most; and if nothing
      disturbs it, it is skipped, succeeds, or fails as often as is configured.

  A backend that is closed disturbs the task even if that happened before it was scheduled: it gives up without
  an attempt (`restoring_dropped`).
-/
import Muster.Proofs.Leased.Clock
import Muster.Proofs.Leased.Endings

namespace Muster.Leased

/-! ## Along a run -/

/-- **A task that restores, on its way**: with the number `k`, and scheduled at the time `start`. -/
structure UnderWay (c : Settings) (k start : Nat) (turns : List (Timed State × Tick Act))
    (w : Timed State) : Prop where
  punctual : c.clockwork.Punctual w
  restorer : ∃ o, w.session.Restorer o
  number : k < w.session.nextId
  bounded : Bounded c start (c.sentAt k turns) (heardAt k turns)
  schedule : ∀ p, w.session.process? k = some p → ∃ r, p = .restore r ∧
    OnSchedule c start (c.sentAt k turns) (heardAt k turns) (w.since k) r

section Runs

variable {c : Settings} {k start : Nat} {turns past : List (Timed State × Tick Act)}
  {u v w : Timed State} {b : Tick Act} {a : Act} {r : Restore} {sig : Signal Reply Item}

/-- The wait of a task that restores has an end. -/
theorem due_of_restore (hk : w.session.process? k = some (.restore r)) :
    c.clockwork.due? w k = some (w.since k + (r.limit c).toNanos) := by
  rw [Clockwork.due?, hk]
  exact congrArg (Option.map _) (limit_restore c r)

/-- There is one task that restores at most, also on a clock. -/
theorem restorer_tick (h : c.tick u b = some v) (hn : u.session.Numbered)
    (ho : ∃ o, u.session.Restorer o) : ∃ o, v.session.Restorer o := by
  cases b with
  | pass time =>
    obtain ⟨-, rfl⟩ := Clockwork.tick_pass_iff.1 h
    exact ho
  | act a =>
    obtain ⟨-, t, ht, rfl⟩ := Clockwork.tick_act_iff.1 h
    obtain ⟨o, ho⟩ := ho
    exact restorer_act ht hn ho

namespace UnderWay

theorem numbered (hu : UnderWay c k start turns u) : u.session.Numbered :=
  hu.punctual.upright.orderly.numbered

/-- **Whoever acts at its number is itself**: no call has it, and nobody abandons the task. -/
theorem signal_of_number (hu : UnderWay c k start turns u) (h : c.tick u (.act a) = some v)
    (hself : a.number u.session = k) : ∃ sig, a = .signal k sig := by
  obtain ⟨-, t, ht, -⟩ := Clockwork.tick_act_iff.1 h
  rcases signal_or_abandon ht hu.number hself with ⟨sig, -, ha, -⟩ | ⟨p, -, hp, hcall, -⟩
  · exact ⟨sig, ha⟩
  · obtain ⟨r, rfl, -⟩ := hu.schedule p hp
    cases hcall

end UnderWay

/-- **Whoever begins to restore is on its way.** -/
theorem underWay_of_begins (h : c.tick u (.act a) = some v) (hu : c.clockwork.Punctual u)
    (ho : ∃ o, u.session.Restorer o) (before : ¬ u.session.Restores k)
    (live : v.session.Restores k) : UnderWay c k v.now [] v := by
  obtain ⟨-, t, ht, rfl⟩ := Clockwork.tick_act_iff.1 h
  have hn : u.session.Numbered := hu.upright.orderly.numbered
  have hbegins := begins_of_act ht hn before live
  have hv := hu.tick h
  constructor
  case punctual => exact hv
  case restorer => exact restorer_tick h hn ho
  case number =>
    obtain ⟨r, hr⟩ := live
    exact hv.upright.orderly.lt_nextId hr
  case bounded => exact .nil c _
  case schedule =>
    intro p hp
    obtain rfl := Option.some.inj (hbegins.process?.symm.trans hp)
    exact ⟨.delaying, rfl, .delaying rfl rfl (if_pos (.inr hbegins.nextId))⟩

/-- It stays on its way while others act and time passes. -/
theorem underWay_of_rests (hu : UnderWay c k start turns u) (h : c.tick u b = some v)
    (hrests : c.clockwork.Rests k u v)
    (hheard : heardAt k (turns ++ [(u, b)]) = heardAt k turns)
    (hsent : c.sentAt k (turns ++ [(u, b)]) = c.sentAt k turns) :
    UnderWay c k start (turns ++ [(u, b)]) v := by
  constructor
  case punctual => exact hu.punctual.tick h
  case restorer => exact restorer_tick h hu.numbered hu.restorer
  case number => exact Nat.lt_of_lt_of_le hu.number hrests.nextId
  case bounded => rw [hheard, hsent]; exact hu.bounded
  case schedule =>
    rw [hheard, hsent, hrests.process?, hrests.since]
    exact hu.schedule

/-- **It stays on its way with a turn of its own.** -/
theorem underWay_self (hu : UnderWay c k start turns u)
    (h : c.tick u (.act (.signal k sig)) = some v) :
    UnderWay c k start (turns ++ [(u, .act (.signal k sig))]) v := by
  have hv := hu.punctual.tick h
  obtain ⟨-, t, ht, rfl⟩ := Clockwork.tick_act_iff.1 h
  have ht : c.act u.session (.signal k sig) = some t := ht
  obtain ⟨p, hp, hturn⟩ := Settings.turn ht
  obtain ⟨r, rfl, hschedule⟩ := hu.schedule p hp
  obtain ⟨more, next, hstep, hreq, hnext⟩ := hturn.step hp
  obtain ⟨hheard, hsent⟩ := moments_self turns ht hreq
  -- whoever is told that time has passed has waited for exactly the limit
  have hdue := due_of_restore (c := c) hp
  have hexact : sig = .elapsed → u.now = u.since k + (r.limit c).toNanos := by
    rintro rfl
    exact hu.punctual.now_eq h rfl hdue
  obtain ⟨hbounded, hgoes⟩ := hstep.bounded hschedule hu.bounded (hu.punctual.since k)
    (hu.punctual.due k _ hdue) hexact
  constructor
  case punctual => exact hv
  case restorer => exact restorer_tick h hu.numbered hu.restorer
  case number =>
    obtain ⟨hspares, -⟩ := upright_act ht hu.punctual.upright
    exact Nat.lt_of_lt_of_le hu.number hspares.nextId
  case bounded => rw [hheard, hsent]; exact hbounded
  case schedule =>
    intro q hq
    have hgone : t.process? k = some q := hq
    rw [hnext] at hgone
    obtain ⟨r', hr', rfl⟩ := Option.map_eq_some_iff.1 hgone
    have hsince : (c.clockwork.stamp u (.signal k sig) t).since k = u.now := if_pos (.inl rfl)
    rw [hheard, hsent, hsince]
    exact ⟨r', rfl, hgoes r' hr'⟩

/-- **The task stays on its way, whatever happens.** -/
theorem underWay_tick (hu : UnderWay c k start turns u) (h : c.tick u b = some v) :
    UnderWay c k start (turns ++ [(u, b)]) v := by
  cases b with
  | pass time =>
    obtain ⟨hheard, hsent⟩ := moments_pass c k turns u time
    obtain ⟨-, rfl⟩ := Clockwork.tick_pass_iff.1 h
    exact underWay_of_rests hu h (Clockwork.rests_pass h) hheard hsent
  | act a =>
    by_cases hself : a.number u.session = k
    · obtain ⟨sig, rfl⟩ := hu.signal_of_number h hself
      exact underWay_self hu h
    · have hrests := Clockwork.rests_act h hu.punctual.upright hu.number hself
      obtain ⟨-, t, ht, rfl⟩ := Clockwork.tick_act_iff.1 h
      obtain ⟨hheard, hsent⟩ := moments_of_ne turns ht hu.punctual.upright hself
      exact underWay_of_rests hu h hrests hheard hsent

/-- **It is on its way along every run.** -/
theorem underWay_run (hv : UnderWay c k start [] v) (run : Run c.tick v turns w) :
    UnderWay c k start turns w :=
  run.history (UnderWay c k start) hv fun _ _ _ _ _ hu hb => underWay_tick hu hb

/-- **What the task restores stays lost**, as long as it goes on and nothing disturbs it. -/
theorem lost_run (hv : UnderWay c k start [] v) (hlost : v.session.Lost)
    (run : Run c.tick v turns w)
    (calm : ∀ p ∈ turns, ∀ a, p.2 = .act a → ¬ p.1.session.Disturbs k a)
    (live : w.session.Restores k) : w.session.Lost := by
  refine (run.history (fun past u => UnderWay c k start past u ∧
    (u.session.Restores k → u.session.Lost)) ⟨hv, fun _ => hlost⟩ ?_).2 live
  rintro past u b x hpast ⟨hu, hlost⟩ hb
  refine ⟨underWay_tick hu hb, fun hx => ?_⟩
  cases b with
  | pass time =>
    obtain ⟨-, rfl⟩ := Clockwork.tick_pass_iff.1 hb
    exact hlost hx
  | act a =>
    have hmem : (u, .act a) ∈ turns :=
      hpast.subset List.mem_concat_self
    obtain ⟨-, t, ht, rfl⟩ := Clockwork.tick_act_iff.1 hb
    obtain ⟨o, ho⟩ := hu.restorer
    -- nobody begins to restore with a number that is given
    have hlive : u.session.Restores k := by
      refine Classical.byContradiction fun hno => ?_
      have hbegins := begins_of_act ht hu.numbered hno hx
      exact absurd hu.number (Nat.not_lt.2 hbegins.nextId)
    exact lost_act ht hu.numbered ho hlive hx (calm _ hmem a rfl) (hlost hlive)

end Runs

/-! ## The bounds -/

/-- **The task comes to this end** in a tick, after some turns. -/
structure Concludes (c : Settings) (k : Nat) (turns : List (Timed State × Tick Act)) (w : Timed State)
    (b : Tick Act) (y : Timed State) (e : Ending) : Prop where
  ends : ∃ sig, b = .act (.signal k sig) ∧ Ends c k w.session sig y.session e
  tally : e.Tally (max 1 c.lease.reregisterMaxAttempts.toNat)
    (tries (c.sentAt k (turns ++ [(w, b)]))).length (failures (heardAt k (turns ++ [(w, b)]))).length

/-- **A task that restores**, with the number `k`, after all that has happened since it was scheduled at `v`. -/
structure Restoring (c : Settings) (k : Nat) (v : Timed State) (turns : List (Timed State × Tick Act))
    (w : Timed State) : Prop where
  /-- It sends nothing before the delay has passed, -/
  patient : ∀ q ∈ c.sentAt k turns, v.now + c.lease.reregisterDelay.toNanos ≤ q.1
  /-- and tries as often as is configured, at most. -/
  few : (tries (c.sentAt k turns)).length ≤ max 1 c.lease.reregisterMaxAttempts.toNat
  /-- All its attempts but the last have failed. -/
  matched : (failures (heardAt k turns)).length ≤ (tries (c.sentAt k turns)).length ∧
    (tries (c.sentAt k turns)).length ≤ (failures (heardAt k turns)).length + 1
  /-- Between a failure and the next attempt it waits for exactly the backoff. -/
  paced : ∀ n f time, (failures (heardAt k turns))[n]? = some f →
    (tries (c.sentAt k turns))[n + 1]? = some time →
    time = f + min (c.lease.policy.base.toNanos * Nat.pow 2 (min n 10)) c.lease.policy.longest.toNanos
  /-- It has four turns for each attempt at most, -/
  brief : (heardAt k turns).length ≤ 4 * max 1 c.lease.reregisterMaxAttempts.toNat
  /-- and is over after the delay, the attempts to the limit, and the longest waits between them. -/
  timely : w.session.Restores k → w.now ≤ v.now + c.lease.reregisterDelay.toNanos +
    (max 1 c.lease.reregisterMaxAttempts.toNat - 1) *
      (c.lease.policy.longest.toNanos + 3 * c.requestTimeout.toNanos) + 3 * c.requestTimeout.toNanos
  /-- Each success and each failure of a request is taken, -/
  answered : ∀ n stage, w.session.process? k = some (.restore (.attempting n stage)) →
    (∀ x, stage.Grants x → (c.act w.session (.signal k (.reply (.ok x)))).isSome = true) ∧
      ∀ sig f, c.FailsWith stage sig f → (c.act w.session (.signal k sig)).isSome = true
  /-- and without an answer each wait comes to its end, -/
  free : w.session.Restores k → (∃ e, c.clockwork.due? w k = some e) ∧
    ∃ sig, (Act.signal k sig).alarm? = some k ∧ (c.act w.session (.signal k sig)).isSome = true
  /-- since the clock does not stop. -/
  unstuck : (∃ time, 0 < time ∧ (c.tick w (.pass time)).isSome = true) ∨
    ∃ j sig, (Act.signal j sig).alarm? = some j ∧ (c.tick w (.act (.signal j sig))).isSome = true
  /-- It comes to ONE of five ends. -/
  ending : ∀ b y, c.tick w b = some y → w.session.Restores k → ¬ y.session.Restores k →
    ∃! e, Concludes c k turns w b y e
  /-- If the backend is open and nothing disturbs the task, these are three, and the backend is degraded in the
      end EXACTLY if all attempts have failed. -/
  undisturbed : v.session.closed = false → ∀ b y, c.tick w b = some y → w.session.Restores k →
    ¬ y.session.Restores k →
    (∀ p ∈ turns ++ [(w, b)], ∀ a, p.2 = .act a → ¬ p.1.session.Disturbs k a) →
    ∀ e, Concludes c k turns w b y e → (e = .skipped ∨ e = .succeeded ∨ e = .exhausted) ∧
      (y.session.flags.degraded = false ↔ e = .skipped ∨ e = .succeeded)

section Bounds

variable {c : Settings} {k start : Nat} {past turns : List (Timed State × Tick Act)}
  {u v w y : Timed State} {a : Act} {b : Tick Act}

/-- The task is over with a turn of its own. -/
theorem signal_of_over (hw : UnderWay c k start turns w) (h : c.tick w b = some y)
    (live : w.session.Restores k) (ended : ¬ y.session.Restores k) :
    ∃ sig t, b = .act (.signal k sig) ∧ c.act w.session (.signal k sig) = some t ∧ y.session = t := by
  -- whoever rests restores as before
  have hmoves : ¬ c.clockwork.Rests k w y := by
    intro hrests
    obtain ⟨r, hr⟩ := live
    exact ended ⟨r, hrests.process?.trans hr⟩
  cases b with
  | pass time => exact absurd (Clockwork.rests_pass h) hmoves
  | act a =>
    by_cases hself : a.number w.session = k
    · obtain ⟨sig, rfl⟩ := hw.signal_of_number h hself
      obtain ⟨-, t, ht, rfl⟩ := Clockwork.tick_act_iff.1 h
      exact ⟨sig, t, rfl, ht, rfl⟩
    · exact absurd (Clockwork.rests_act h hw.punctual.upright hw.number hself) hmoves

/-- **It comes to one end.** -/
theorem concludes_of_over (hw : UnderWay c k start turns w) (h : c.tick w b = some y)
    (live : w.session.Restores k) (ended : ¬ y.session.Restores k) :
    ∃! e, Concludes c k turns w b y e := by
  obtain ⟨sig, t, rfl, ht, rfl⟩ := signal_of_over hw h live ended
  obtain ⟨r, hr⟩ := live
  obtain ⟨e, he⟩ := ends_of_act ht hr ended
  refine ⟨e, ⟨⟨sig, rfl, he⟩, ?_⟩, fun e' he' => ?_⟩
  · obtain ⟨q, hq, hschedule⟩ := hw.schedule _ hr
    cases hq
    obtain ⟨p, hp, hturn⟩ := Settings.turn ht
    obtain rfl := Option.some.inj (hr.symm.trans hp)
    obtain ⟨more, next, hstep, hreq, hnext⟩ := hturn.step hr
    obtain ⟨hheard, hsent⟩ := moments_self turns ht hreq
    -- whoever ends sends nothing more
    have hnone : next = none := by
      cases next with
      | none => rfl
      | some r' => exact absurd ⟨r', hnext⟩ ended
    have hmore : more = [] := by
      cases hstep with
      | exhausts | ends => rfl
      | _ => cases hnone
    rw [hheard, hsent, hmore, List.map_nil, List.append_nil, ← attempts_eq]
    exact he.tally hr hschedule
  · obtain ⟨sig', hsig, he'⟩ := he'.ends
    cases hsig
    exact he'.unique he

/-- Along every run nobody is kept waiting for longer than the limit. -/
theorem punctual_run (reached : Run c.tick (.start .initial) past u) : c.clockwork.Punctual u := by
  refine reached.invariant c.clockwork.Punctual ?_ fun p _ v hu hb => hu.tick hb
  exact ⟨upright_initial, fun _ => Nat.le_refl 0, fun _ _ he => nomatch he⟩

/-- **The restoring of a registration is bounded**, from the act that schedules it on and along every run.  It
    sends nothing before the delay has passed, tries as often as is configured at most, and waits between two
    attempts for exactly the backoff; it comes to an end, in time.  If the backend has not been closed and nothing
    disturbs it, it is skipped, succeeds, or is exhausted after as many failures as are configured, and only then
    the backend stays degraded. -/
theorem restoring_bounded (reached : Run c.tick (.start .initial) past u)
    (scheduled : c.tick u (.act a) = some v) (before : ¬ u.session.Restores k)
    (live : v.session.Restores k) (run : Run c.tick v turns w) : Restoring c k v turns w := by
  have hpunctual := punctual_run reached
  have hrestorer : ∃ o, u.session.Restorer o := restorer_run (Clockwork.untimed reached)
  have hv := underWay_of_begins scheduled hpunctual hrestorer before live
  have hw := underWay_run hv run
  have hlost (hopen : v.session.closed = false) : v.session.Lost := by
    obtain ⟨-, t, ht, rfl⟩ := Clockwork.tick_act_iff.1 scheduled
    have hn : u.session.Numbered := hpunctual.upright.orderly.numbered
    have hbegins := begins_of_act ht hn before live
    exact ⟨hbegins.registered, hbegins.degraded, hopen⟩
  have hbounded := hw.bounded
  constructor
  case patient => exact hbounded.patient
  case few => rw [← attempts_eq]; exact hbounded.few
  case matched => exact hbounded.matched
  case paced =>
    intro n f time hf htime
    rw [hbounded.paced n f time hf htime, Backoff.toNanos_delay]
    rfl
  case brief => rw [← attempts_eq]; exact hbounded.brief
  case timely =>
    rintro ⟨r, hr⟩
    obtain ⟨q, hq, hschedule⟩ := hw.schedule _ hr
    cases hq
    rw [← attempts_eq]
    exact hschedule.now_le (hw.punctual.due k _ (due_of_restore hr))
  case answered =>
    intro n stage hk
    have hanswered {sig : Signal Reply Item}
        (h : (∃ x, stage.Grants x ∧ sig = .reply (.ok x)) ∨ ∃ f, c.FailsWith stage sig f) :
        (c.act w.session (.signal k sig)).isSome = true := by
      rw [c.act_of_process? hk, Settings.advance, Settings.stepRestore, Option.isSome_map]
      exact isSome_progress h
    exact ⟨fun x hx => hanswered (.inl ⟨x, hx, rfl⟩), fun sig f hf => hanswered (.inr ⟨f, hf⟩)⟩
  case free =>
    rintro ⟨r, hr⟩
    exact ⟨⟨_, due_of_restore hr⟩, isSome_act_of_limit hr (limit_restore c r)⟩
  case unstuck => exact c.unstuck w
  case ending => exact fun b y hb hlive hover => concludes_of_over hw hb hlive hover
  case undisturbed =>
    intro hopen b y _ hlive _ calm e he
    obtain ⟨sig, -, hends⟩ := he.ends
    have hcalm : ∀ p ∈ turns, ∀ a, p.2 = .act a → ¬ p.1.session.Disturbs k a :=
      fun p hp => calm p (List.mem_append_left _ hp)
    exact hends.of_lost (lost_run hv (hlost hopen) run hcalm hlive)

end Bounds

/-- With two attempts: the renewals end, the first attempt is answered with an error, and the second has its lease
    but no answer to its put. -/
theorem restoring_bounded_exhausted : ∃ c past u a v turns w b y,
    Run (Settings.tick c) (.start .initial) past u ∧ c.tick u (.act a) = some v ∧
      Run c.tick v turns w ∧ Restoring c 2 v turns w ∧ c.tick w b = some y ∧
      Concludes c 2 turns w b y .exhausted ∧ y.session.flags.degraded = true := by
  let c : Settings := .ofConfig ⟨"order", "10.0.0.1", 9000, .grpc⟩
    { lease := { reregisterMaxAttempts := 2 } }
  let own (sig : Signal Reply Item) : Tick Act := .act (.signal 2 sig)
  let back : List (Tick Act) := [.pass 1000000000, own .elapsed,
    own (.reply (.error (.store "down"))), .pass 1000000000, own .elapsed,
    own (.reply (.ok (.granted 101))), .pass 3000000000]
  have hall : (((registerActs.map Tick.act).foldlM c.tick (.start .initial)).bind fun u =>
      (c.tick u (.act (.signal 1 (.item none)))).bind fun v => (back.foldlM c.tick v).bind fun w =>
        (c.tick w (own .timeout)).map fun y => ([u, v, w, y].map fun x => x.session.process? 2,
          v.session.closed, y.session.flags.degraded)) =
      some ([none, some (.restore .delaying), some (.restore (.attempting 1 (.putting 101))), none],
        false, true) := by
    decide +kernel
  obtain ⟨u, hu, hall⟩ := Option.bind_eq_some_iff.1 hall
  obtain ⟨v, hv, hall⟩ := Option.bind_eq_some_iff.1 hall
  obtain ⟨w, hw, hall⟩ := Option.bind_eq_some_iff.1 hall
  obtain ⟨y, hy, hall⟩ := Option.map_eq_some_iff.1 hall
  simp only [List.map_cons, List.map_nil, List.cons.injEq, Prod.mk.injEq, and_true] at hall
  obtain ⟨⟨hbefore, hlive, hlast, hover⟩, hopen, hdeg⟩ := hall
  obtain ⟨past, hreached, -⟩ := Run.of_foldlM hu
  obtain ⟨turns, hrun, hturns⟩ := Run.of_foldlM hw
  have hrestoring := restoring_bounded hreached hv
    (not_restores_of_none hbefore) ⟨_, hlive⟩ hrun
  have hover := not_restores_of_none hover
  have hcalm : ∀ p ∈ turns ++ [(w, own .timeout)], ∀ a, p.2 = .act a →
      ¬ p.1.session.Disturbs 2 a := by
    intro p hp a ha hdisturbs
    have hmem : p.2 ∈ back ++ [own .timeout] := by
      have hmap := List.mem_map_of_mem (f := Prod.snd) hp
      rwa [List.map_append, hturns] at hmap
    rw [ha] at hmem
    -- all that happens is the task's own
    have hown : ∃ sig, a = .signal 2 sig := by
      simp only [back, own, List.cons_append, List.nil_append, List.mem_cons, Tick.act.injEq,
        reduceCtorEq, List.not_mem_nil, or_false, false_or] at hmem
      rcases hmem with rfl | rfl | rfl | rfl | rfl <;> exact ⟨_, rfl⟩
    obtain ⟨sig, rfl⟩ := hown
    exact hdisturbs.1 rfl
  obtain ⟨e, he, -⟩ := hrestoring.ending _ y hy ⟨_, hlast⟩ hover
  obtain ⟨hends, hdegraded⟩ := hrestoring.undisturbed hopen _ y hy ⟨_, hlast⟩ hover hcalm e he
  have hstays : ¬ (e = .skipped ∨ e = .succeeded) := fun hor => by
    rw [hdegraded.2 hor] at hdeg
    cases hdeg
  obtain rfl : e = .exhausted := by
    rcases hends with hskip | hsucceed | hexhaust
    · exact absurd (.inl hskip) hstays
    · exact absurd (.inr hsucceed) hstays
    · exact hexhaust
  exact ⟨c, past, u, _, v, turns, w, _, y, hreached, hv, hrun, hrestoring, hy, he, hdeg⟩

/-- **A task that is scheduled in a closed backend gives up without an attempt**, though nothing happens while it
    is live: the stream of events ends, a query makes the watch ask for a snapshot, the backend is dropped, and then
    the snapshot comes in, without the own key. -/
theorem restoring_dropped : ∃ past u a v b y,
    Run Settings.sample.tick (.start .initial) past u ∧ Settings.sample.tick u (.act a) = some v ∧
      ¬ u.session.Restores 6 ∧ v.session.Restores 6 ∧ Settings.sample.tick v b = some y ∧
      ¬ y.session.Restores 6 ∧ (∀ a, b = .act a → ¬ v.session.Disturbs 6 a) ∧
      (∃! e, Concludes .sample 6 [] v b y e) ∧
      (∀ e, Concludes .sample 6 [] v b y e → ¬ (e = .skipped ∨ e = .succeeded ∨ e = .exhausted)) ∧
      y.session.flags.degraded = true := by
  let nothing : Signal Reply Item := .reply (.ok (.contents ⟨7, []⟩))
  let acts : List Act := [.call .start, .signal 0 nothing, .signal 1 .turn,
    .signal 1 (.reply (.ok (.opened 0))), .call .register, .signal 2 (.reply (.ok (.granted 100))),
    .signal 2 (.reply (.ok .done)), .signal 2 (.reply (.ok (.opened 1))), .signal 1 (.item none),
    .call (.instances "order"), .signal 4 nothing, .signal 5 .turn, .drop]
  have hall : (((acts.map Tick.act).foldlM Settings.sample.tick (.start .initial)).bind fun u =>
      (Settings.sample.tick u (.act (.signal 5 nothing))).bind fun v =>
        (Settings.sample.tick v (.act (.signal 6 .cancelled))).map fun y =>
          ([u, v, y].map fun x => x.session.process? 6, y.session.flags.degraded)) =
      some ([none, some (.restore .delaying), none], true) := by
    decide +kernel
  obtain ⟨u, hu, hall⟩ := Option.bind_eq_some_iff.1 hall
  obtain ⟨v, hv, hall⟩ := Option.bind_eq_some_iff.1 hall
  obtain ⟨y, hy, hall⟩ := Option.map_eq_some_iff.1 hall
  simp only [List.map_cons, List.map_nil, List.cons.injEq, Prod.mk.injEq, and_true] at hall
  obtain ⟨⟨hbefore, hlive, hover⟩, hdeg⟩ := hall
  obtain ⟨past, hreached, -⟩ := Run.of_foldlM hu
  have hbefore := not_restores_of_none hbefore
  have hover := not_restores_of_none hover
  have hunder := underWay_of_begins hv (punctual_run hreached)
    (restorer_run (Clockwork.untimed hreached)) hbefore ⟨_, hlive⟩
  -- whoever is cancelled ends in one way only
  have honly (e : Ending) (he : Concludes .sample 6 [] v (.act (.signal 6 .cancelled)) y e) :
      e = .stopped := by
    obtain ⟨sig, hsig, hends⟩ := he.ends
    cases hsig
    cases hends with
    | skipped hskip => exact hskip.elim
    | succeeded _ hsig => cases hsig
    | exhausted _ hf => cases hf
    | abandoned hsig => cases hsig
    | stopped => rfl
  refine ⟨past, u, _, v, _, y, hreached, hv, hbefore, ⟨_, hlive⟩, hy, hover, ?_,
    concludes_of_over hunder hy ⟨_, hlive⟩ hover, ?_, hdeg⟩
  · rintro a ⟨⟩ hdisturbs
    exact hdisturbs.1 rfl
  · intro e he
    obtain rfl := honly e he
    decide

end Muster.Leased
