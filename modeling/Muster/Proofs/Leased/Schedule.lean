/-
  The schedule of restoring a registration.

  A task that restores waits for a delay, and then tries: each attempt is up to three requests, with a limit
  each, and between two attempts it waits again, longer and longer.  When it tries and when it fails is read off
  what it has sent and heard, each with the time (`tries`, `failures`).

  (1) `Restore.Step` — a turn of the task, without the backend around it; `Turn.step` says that it has no others;
  (2) `Bounded` — the bounds that are asked of all that it has sent and heard;
  (3) `OnSchedule` — where it has to be at each stage, so that the bounds can be kept;
  (4) `Restore.Step.bounded` — every turn that comes in time keeps the bounds, and the schedule.

  THE CRUX: at every stage the number of failures in the task's own books is the number of failures that it has
  heard, and the attempts are one more from the first request to the last answer.
-/
import Muster.Proofs.Leased.Registering
import Muster.Proofs.Timed

namespace Muster

/-- Whether a signal says that a request has failed. -/
def Signal.isFailure {ρ ι : Type} : Signal ρ ι → Bool
  | .reply (.error _) | .timeout => true
  | _ => false

namespace Leased

/-- Whether a request is the first of a registration. -/
def Request.isGrant : Request → Bool
  | .grant _ => true
  | _ => false

/-- **When a task tries**, of all that it sends: an attempt begins with the request for a lease. -/
def tries (sent : List (Nat × Request)) : List Nat :=
  (sent.filter fun q => q.2.isGrant).map Prod.fst

/-- **When its attempts fail**, of all that it hears. -/
def failures (heard : List (Nat × Signal Reply Item)) : List Nat :=
  (heard.filter fun q => q.2.isFailure).map Prod.fst

theorem tries_concat (sent : List (Nat × Request)) (time : Nat) (q : Request) :
    tries (sent ++ [(time, q)]) = tries sent ++ if q.isGrant then [time] else [] := by
  rw [tries, List.filter_append, List.map_append, ← tries]
  cases hq : q.isGrant <;> simp [hq]

theorem failures_concat (heard : List (Nat × Signal Reply Item)) (time : Nat)
    (sig : Signal Reply Item) :
    failures (heard ++ [(time, sig)]) = failures heard ++ if sig.isFailure then [time] else [] := by
  rw [failures, List.filter_append, List.map_append, ← failures]
  cases hs : sig.isFailure <;> simp [hs]

section Concat

variable {sent : List (Nat × Request)} {heard : List (Nat × Signal Reply Item)} {q : Request}
  {sig : Signal Reply Item}

/-- A request in the middle of an attempt begins none. -/
theorem tries_concat_of_not (hq : q.isGrant = false) (time : Nat) :
    tries (sent ++ [(time, q)]) = tries sent := by
  rw [tries_concat, hq]
  exact List.append_nil _

theorem failures_concat_of_failure (hs : sig.isFailure = true) (time : Nat) :
    failures (heard ++ [(time, sig)]) = failures heard ++ [time] := by
  rw [failures_concat, hs]
  rfl

theorem failures_concat_of_not (hs : sig.isFailure = false) (time : Nat) :
    failures (heard ++ [(time, sig)]) = failures heard := by
  rw [failures_concat, hs]
  exact List.append_nil _

end Concat

/-! ## Turns of the task -/

/-- **A turn of the task**: the signal, what is sent, and how the task goes on, if it does. -/
inductive Restore.Step (c : Settings) :
    Restore → Signal Reply Item → List Request → Option Restore → Prop
  /-- The first attempt begins. -/
  | wakes : Step c .delaying .elapsed [.grant c.lease.ttlSecs] (some (.attempting 0 .granting))
  /-- Another attempt begins. -/
  | retries (n : Nat) : Step c (.backingOff n) .elapsed [.grant c.lease.ttlSecs]
      (some (.attempting n .granting))
  /-- A request has succeeded, and the next one follows. -/
  | asks {n : Nat} {stage sig} (q : Request) (next : Registering) : sig.isFailure = false →
      q.isGrant = false → next.heard.length = stage.heard.length + 1 →
      Step c (.attempting n stage) sig [q] (some (.attempting n next))
  /-- A request has failed, and the attempt with it. -/
  | fails {n : Nat} {stage sig} : sig.isFailure = true →
      c.lease.policy.retries (n + 1) = true →
      Step c (.attempting n stage) sig [] (some (.backingOff (n + 1)))
  /-- The last attempt has failed. -/
  | exhausts {n : Nat} {stage sig} : sig.isFailure = true →
      c.lease.policy.retries (n + 1) = false → Step c (.attempting n stage) sig [] none
  /-- It ends without a failure. -/
  | ends {r : Restore} {sig} : sig.isFailure = false → Step c r sig [] none

section Turns

variable {c : Settings} {s t : State} {k : Nat} {r : Restore} {stage next : Registering}
  {sig : Signal Reply Item} {x : Except Failure Reply} {q : Request} {f : Failure}

theorem Settings.FailsWith.isFailure (h : c.FailsWith stage sig f) : sig.isFailure = true := by
  cases h <;> rfl

/-- A registration goes on after a success, and does not begin anew. -/
theorem goesOn_of_asks (hr : sig.result? stage.operation c.requestTimeout = some x)
    (hg : c.progress stage x = some (.asks q next)) :
    sig.isFailure = false ∧ q.isGrant = false ∧
      next.heard.length = stage.heard.length + 1 := by
  obtain ⟨hheard, -⟩ := heard_of_asks hr hg
  refine ⟨?_, ?_, by rw [hheard, List.length_append]; rfl⟩
  · cases hx : x with
    | ok y =>
      rw [hx] at hr
      obtain rfl := reply_of_result? hr
      rfl
    | error f =>
      rw [hx] at hg
      cases stage <;> cases hg
  · unfold Settings.progress at hg
    split at hg <;> cases hg <;> rfl

theorem isFailure_of_failed (hr : sig.result? stage.operation c.requestTimeout = some x)
    (hg : c.progress stage x = some (.failed f)) : sig.isFailure = true := by
  obtain ⟨g, hfails, -⟩ := failsWith_of_failed hr hg
  exact hfails.isFailure

/-- **The task has no other turns.** -/
theorem Turn.step (h : Turn c s k (.restore r) sig t) (hk : s.process? k = some (.restore r)) :
    ∃ sent next, r.Step c sig sent next ∧
      t.requests = (sent.map (Prod.mk k)).reverse ++ s.requests ∧
      t.process? k = next.map Process.restore := by
  cases h with
  | skips => exact ⟨[], none, .ends rfl, by simp, by simp [Session.process?_finish]⟩
  | wakes => exact ⟨_, _, .wakes, by simp, by simp [Session.process?_become, hk]⟩
  | @retries n => exact ⟨_, _, .retries n, by simp, by simp [Session.process?_become, hk]⟩
  | yields => exact ⟨[], none, .ends rfl, by simp, by simp [Session.process?_finish]⟩
  | restoreStops => exact ⟨[], none, .ends rfl, by simp, by simp [Session.process?_finish]⟩
  | restoreAsks q next hr hg =>
    obtain ⟨hsig, hq, hnext⟩ := goesOn_of_asks hr hg
    exact ⟨[q], _, .asks q next hsig hq hnext, by simp, by simp [Session.process?_become, hk]⟩
  | restores lease stream l hr hg =>
    obtain ⟨rfl, rfl⟩ := Settings.progress_opened hg
    obtain rfl := reply_of_result? hr
    exact ⟨[], none, .ends rfl, by simp, by simp [Session.process?_finish]⟩
  | backsOff f l hr hg hp =>
    exact ⟨[], _, .fails (isFailure_of_failed hr hg) hp, by simp,
      by simp [Session.process?_become, hk]⟩
  | givesUp f l hr hg hp =>
    exact ⟨[], none, .exhausts (isFailure_of_failed hr hg) hp, by simp,
      by simp [Session.process?_finish]⟩

end Turns

/-! ## Bounds -/

/-- How long the task waits at a stage, at most. -/
def Restore.limit (c : Settings) : Restore → Duration
  | .delaying => c.lease.reregisterDelay
  | .attempting .. => c.requestTimeout
  | .backingOff n => c.lease.policy.delay n

theorem limit_restore (c : Settings) (r : Restore) :
    (Process.wait c (.restore r)).limit? = some (r.limit c) := by
  cases r <;> rfl

/-- **The latest start of an attempt**, after some failures, of a task that was scheduled at a time: the delay,
    and for each failure three requests to the limit and the longest wait. -/
def Settings.latest (c : Settings) (start n : Nat) : Nat :=
  start + c.lease.reregisterDelay.toNanos +
    n * (c.lease.policy.longest.toNanos + 3 * c.requestTimeout.toNanos)

/-- **The bounds of a task** that was scheduled at a time, on all that it has sent and heard. -/
structure Bounded (c : Settings) (start : Nat) (sent : List (Nat × Request))
    (heard : List (Nat × Signal Reply Item)) : Prop where
  /-- Nothing is sent before the delay has passed. -/
  patient : ∀ q ∈ sent, start + c.lease.reregisterDelay.toNanos ≤ q.1
  few : (tries sent).length ≤ c.lease.policy.attempts
  /-- All attempts but the last have failed. -/
  matched : (failures heard).length ≤ (tries sent).length ∧
    (tries sent).length ≤ (failures heard).length + 1
  /-- After each failure it waits for exactly the delay. -/
  paced : ∀ n f time, (failures heard)[n]? = some f → (tries sent)[n + 1]? = some time →
    time = f + (c.lease.policy.delay (n + 1)).toNanos
  brief : heard.length ≤ 4 * c.lease.policy.attempts

/-- **Where the task has to be**, at each stage, and since when it waits. -/
inductive OnSchedule (c : Settings) (start : Nat) (sent : List (Nat × Request))
    (heard : List (Nat × Signal Reply Item)) (since : Nat) : Restore → Prop
  | delaying : sent = [] → heard = [] → since = start →
      OnSchedule c start sent heard since .delaying
  | attempting {n : Nat} {stage : Registering} : n < c.lease.policy.attempts →
      (tries sent).length = n + 1 → (failures heard).length = n →
      heard.length ≤ 4 * n + 1 + stage.heard.length →
      start + c.lease.reregisterDelay.toNanos ≤ since →
      since ≤ c.latest start n + stage.heard.length * c.requestTimeout.toNanos →
      OnSchedule c start sent heard since (.attempting n stage)
  | backingOff {n : Nat} : n + 1 < c.lease.policy.attempts →
      (tries sent).length = n + 1 → (failures heard).length = n + 1 →
      (failures heard).getLast? = some since → heard.length ≤ 4 * (n + 1) →
      start + c.lease.reregisterDelay.toNanos ≤ since →
      since ≤ c.latest start n + 3 * c.requestTimeout.toNanos →
      OnSchedule c start sent heard since (.backingOff (n + 1))

section Schedules

variable {c : Settings} {start since now n : Nat} {sent : List (Nat × Request)}
  {heard : List (Nat × Signal Reply Item)} {r : Restore} {sig : Signal Reply Item}
  {more : List Request} {next : Option Restore}

theorem attempts_eq (c : Settings) :
    c.lease.policy.attempts = max 1 c.lease.reregisterMaxAttempts.toNat := Nat.max_comm _ _

theorem attempts_pos (c : Settings) : 0 < c.lease.policy.attempts :=
  Nat.lt_of_lt_of_le Nat.zero_lt_one (Nat.le_max_right _ _)

theorem heard_length_le (stage : Registering) : stage.heard.length ≤ 2 := by
  cases stage <;> simp [Registering.heard]

theorem latest_succ (c : Settings) (start n : Nat) :
    c.latest start (n + 1) = c.latest start n +
      (c.lease.policy.longest.toNanos + 3 * c.requestTimeout.toNanos) := by
  rw [Settings.latest, Settings.latest, Nat.succ_mul]
  omega

theorem latest_le_last (c : Settings) (start : Nat) (h : n < c.lease.policy.attempts) :
    c.latest start n ≤ c.latest start (c.lease.policy.attempts - 1) := by
  have hle : n ≤ c.lease.policy.attempts - 1 := by omega
  have hmul := Nat.mul_le_mul_right
    (c.lease.policy.longest.toNanos + 3 * c.requestTimeout.toNanos) hle
  unfold Settings.latest
  omega

/-- What has been heard of the stages of an attempt takes two limits at most. -/
theorem stages_le (stage : Registering) (limit : Nat) : stage.heard.length * limit ≤ 2 * limit :=
  Nat.mul_le_mul_right limit (heard_length_le stage)

namespace OnSchedule

/-- **Whoever is on schedule is over in time**, as long as no wait takes longer than its limit. -/
theorem now_le (h : OnSchedule c start sent heard since r)
    (hdue : now ≤ since + (r.limit c).toNanos) :
    now ≤ c.latest start (c.lease.policy.attempts - 1) + 3 * c.requestTimeout.toNanos := by
  cases h with
  | delaying _ _ hstart =>
    have hlast : start + c.lease.reregisterDelay.toNanos ≤
        c.latest start (c.lease.policy.attempts - 1) := Nat.le_add_right _ _
    simp only [Restore.limit] at hdue
    omega
  | @attempting n stage hn _ _ _ _ hsince =>
    have hlast := latest_le_last c start hn
    have hstage := stages_le stage c.requestTimeout.toNanos
    simp only [Restore.limit] at hdue
    omega
  | @backingOff n hn _ _ _ _ _ hsince =>
    have hlast := latest_le_last c start hn
    have hdelay := Duration.le_iff.1 (c.lease.policy.delay_le_longest (n + 1))
    rw [latest_succ] at hlast
    simp only [Restore.limit] at hdue
    omega

/-- There is another turn to come. -/
theorem heard_lt (h : OnSchedule c start sent heard since r) :
    heard.length < 4 * c.lease.policy.attempts := by
  have hpos := attempts_pos c
  cases h with
  | delaying _ hheard => rw [hheard]; exact Nat.mul_pos (by decide) hpos
  | @attempting n stage hn _ _ hheard =>
    have hstage := heard_length_le stage
    omega
  | backingOff => omega

end OnSchedule

namespace Bounded

/-- A task that has neither sent nor heard anything keeps the bounds. -/
theorem nil (c : Settings) (start : Nat) : Bounded c start [] [] where
  patient _ hq := nomatch hq
  few := Nat.zero_le _
  matched := ⟨Nat.le_refl 0, Nat.zero_le 1⟩
  paced _ _ _ hf := nomatch hf
  brief := Nat.zero_le _

/-- An attempt that begins on time keeps the bounds. -/
theorem tries_next (hb : Bounded c start sent heard)
    (hpatient : start + c.lease.reregisterDelay.toNanos ≤ now)
    (hfew : (tries sent).length < c.lease.policy.attempts)
    (hall : (tries sent).length = (failures heard).length)
    (hpaced : ∀ f, (failures heard).getLast? = some f →
      now = f + (c.lease.policy.delay (failures heard).length).toNanos)
    (hbrief : heard.length < 4 * c.lease.policy.attempts) :
    Bounded c start (sent ++ [(now, .grant c.lease.ttlSecs)]) (heard ++ [(now, .elapsed)]) := by
  have htries : tries (sent ++ [(now, .grant c.lease.ttlSecs)]) = tries sent ++ [now] :=
    tries_concat ..
  have hfailures : failures (heard ++ [(now, .elapsed)]) = failures heard :=
    failures_concat_of_not rfl now
  constructor
  case patient =>
    intro q hq
    rcases List.mem_append.1 hq with hq | hq
    · exact hb.patient q hq
    · obtain rfl := List.mem_singleton.1 hq
      exact hpatient
  case few =>
    rw [htries, List.length_append]
    exact hfew
  case matched =>
    rw [htries, hfailures, List.length_append, List.length_singleton]
    omega
  case paced =>
    intro n f time hf htime
    rw [hfailures] at hf
    rw [htries] at htime
    by_cases hn : n + 1 < (tries sent).length
    · rw [List.getElem?_append_left hn] at htime
      exact hb.paced n f time hf htime
    · -- the new attempt follows the last failure
      have hlt : n < (failures heard).length := (List.getElem?_eq_some_iff.1 hf).1
      have hlast : n = (failures heard).length - 1 := by omega
      rw [List.getElem?_append_right (by omega),
        show n + 1 - (tries sent).length = 0 by omega] at htime
      obtain rfl : now = time := Option.some.inj htime
      rw [hlast, ← List.getLast?_eq_getElem?] at hf
      rw [hpaced f hf, show n + 1 = (failures heard).length by omega]
  case brief =>
    rw [List.length_append]
    exact hbrief

/-- Whatever is sent in the middle of an attempt, and heard without a failure, keeps the bounds. -/
theorem asks (hb : Bounded c start sent heard) {q : Request} (hq : q.isGrant = false)
    (hsig : sig.isFailure = false) (hpatient : start + c.lease.reregisterDelay.toNanos ≤ now)
    (hbrief : heard.length < 4 * c.lease.policy.attempts) :
    Bounded c start (sent ++ [(now, q)]) (heard ++ [(now, sig)]) := by
  constructor
  case patient =>
    intro p hp
    rcases List.mem_append.1 hp with hp | hp
    · exact hb.patient p hp
    · obtain rfl := List.mem_singleton.1 hp
      exact hpatient
  case few => rw [tries_concat_of_not hq]; exact hb.few
  case matched => rw [tries_concat_of_not hq, failures_concat_of_not hsig]; exact hb.matched
  case paced => rw [tries_concat_of_not hq, failures_concat_of_not hsig]; exact hb.paced
  case brief =>
    rw [List.length_append]
    exact hbrief

/-- So does the end without a failure. -/
theorem ends (hb : Bounded c start sent heard) (hsig : sig.isFailure = false)
    (hbrief : heard.length < 4 * c.lease.policy.attempts) :
    Bounded c start sent (heard ++ [(now, sig)]) := by
  constructor
  case patient => exact hb.patient
  case few => exact hb.few
  case matched => rw [failures_concat_of_not hsig]; exact hb.matched
  case paced => rw [failures_concat_of_not hsig]; exact hb.paced
  case brief =>
    rw [List.length_append]
    exact hbrief

/-- The failure of an attempt keeps the bounds. -/
theorem fails (hb : Bounded c start sent heard) (hsig : sig.isFailure = true)
    (hlast : (tries sent).length = (failures heard).length + 1)
    (hbrief : heard.length < 4 * c.lease.policy.attempts) :
    Bounded c start sent (heard ++ [(now, sig)]) := by
  constructor
  case patient => exact hb.patient
  case few => exact hb.few
  case matched =>
    rw [failures_concat_of_failure hsig, List.length_append, List.length_singleton]
    omega
  case paced =>
    intro n f time hf htime
    -- no attempt follows this failure yet
    have hn : n + 1 < (tries sent).length := (List.getElem?_eq_some_iff.1 htime).1
    rw [failures_concat_of_failure hsig, List.getElem?_append_left (by omega)] at hf
    exact hb.paced n f time hf htime
  case brief =>
    rw [List.length_append]
    exact hbrief

end Bounded

/-- **Every turn that comes in time keeps the bounds, and the schedule**: no wait has taken longer than its
    limit, and one that has elapsed has taken exactly that. -/
theorem Restore.Step.bounded (h : r.Step c sig more next)
    (hs : OnSchedule c start sent heard since r) (hb : Bounded c start sent heard)
    (hsince : since ≤ now) (hdue : now ≤ since + (r.limit c).toNanos)
    (helapsed : sig = .elapsed → now = since + (r.limit c).toNanos) :
    Bounded c start (sent ++ more.map (Prod.mk now)) (heard ++ [(now, sig)]) ∧
      ∀ r', next = some r' →
        OnSchedule c start (sent ++ more.map (Prod.mk now)) (heard ++ [(now, sig)]) now r' := by
  have hbrief := hs.heard_lt
  cases h with
  | wakes =>
    have hnow := helapsed rfl
    simp only [Restore.limit] at hnow
    cases hs with
    | delaying hsent hheard hstart =>
      subst hsent hheard hstart
      have hpos := attempts_pos c
      refine ⟨hb.tries_next (by omega) hpos rfl (by rintro f ⟨⟩) hbrief, ?_⟩
      rintro _ ⟨⟩
      refine .attempting hpos rfl rfl (Nat.le_refl 1) (by omega) ?_
      simp only [Settings.latest, Registering.heard, List.length_nil]
      omega
  | retries m =>
    have hnow := helapsed rfl
    simp only [Restore.limit] at hnow
    cases hs with
    | @backingOff n hn htries hfailures hlast hheard hpatient hlate =>
      have hdelay := Duration.le_iff.1 (c.lease.policy.delay_le_longest (n + 1))
      have hall : (tries sent).length = (failures heard).length := by omega
      refine ⟨hb.tries_next (by omega) (by omega) hall (fun f hf => ?_) hbrief, ?_⟩
      · obtain rfl : since = f := Option.some.inj (hlast.symm.trans hf)
        rw [hfailures]
        exact hnow
      · rintro _ ⟨⟩
        refine .attempting hn ?_ ?_ ?_ (by omega) ?_
        · show (tries (sent ++ [(now, .grant c.lease.ttlSecs)])).length = _
          rw [tries_concat, List.length_append, htries]
          rfl
        · rw [failures_concat_of_not rfl, hfailures]
        · rw [List.length_append, List.length_singleton]
          omega
        · rw [latest_succ]
          simp only [Registering.heard, List.length_nil]
          omega
  | @asks n stage _ q after hsig hq hafter =>
    simp only [Restore.limit] at hdue
    cases hs with
    | attempting hn htries hfailures hheard hpatient hlate =>
      refine ⟨hb.asks hq hsig (by omega) hbrief, ?_⟩
      rintro _ ⟨⟩
      refine .attempting hn ?_ ?_ ?_ (by omega) ?_
      · exact (congrArg List.length (tries_concat_of_not hq now)).trans htries
      · rw [failures_concat_of_not hsig, hfailures]
      · rw [List.length_append, List.length_singleton]
        omega
      · rw [hafter, Nat.succ_mul]
        omega
  | @fails n stage _ hsig hretries =>
    simp only [Restore.limit] at hdue
    rw [List.map_nil, List.append_nil]
    cases hs with
    | attempting hn htries hfailures hheard hpatient hlate =>
      have hmore : n + 1 < c.lease.policy.attempts := of_decide_eq_true hretries
      have hstage := stages_le stage c.requestTimeout.toNanos
      have hnew : failures (heard ++ [(now, sig)]) = failures heard ++ [now] :=
        failures_concat_of_failure hsig now
      refine ⟨hb.fails hsig (by omega) hbrief, ?_⟩
      rintro _ ⟨⟩
      refine .backingOff hmore htries ?_ ?_ ?_ (by omega) (by omega)
      · rw [hnew, List.length_append, hfailures]
        rfl
      · rw [hnew, List.getLast?_concat]
      · have hle := heard_length_le stage
        rw [List.length_append, List.length_singleton]
        omega
  | exhausts hsig =>
    rw [List.map_nil, List.append_nil]
    cases hs with
    | attempting hn htries hfailures =>
      exact ⟨hb.fails hsig (by omega) hbrief, by rintro _ ⟨⟩⟩
  | ends hsig =>
    rw [List.map_nil, List.append_nil]
    exact ⟨hb.ends hsig hbrief, by rintro _ ⟨⟩⟩

end Schedules

end Leased

end Muster
