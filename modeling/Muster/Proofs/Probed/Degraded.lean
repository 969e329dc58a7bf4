/-
  Does a backend stay degraded while a service is down?

  A service is DOWN from the moment its watch gives up until a later watch of it is answered.  Giving up raises the
  flag of a degraded backend, and there is ONE flag for all services: an answer lowers it, whichever service it is
  about.

  (1) `degraded_act` — the flag after an act is up if a watch gives up, or if it was up and no watch is answered;
  (2) `degraded_down_iff` — hence at the end of every run the backend is degraded EXACTLY if a watch has given up
      and no watch has been answered since; and it has been degraded all the while that some service was down
      EXACTLY if nothing was ever answered about one service while another was down.

  THE CRUX: an answer about one service leaves another down, and the flag lowered.
-/
import Muster.Proofs.Probed.GivingUp

namespace Muster.Probed

/-- **A service is down** after some turns: its watch has given up, and none has been answered since. -/
def Settings.Down (c : Settings) (n : String) (past : List (State × Act)) : Prop :=
  Run.Since (c.GivesUp n) (State.Hears n) past

/-- **An answer about one service hides that another is down.** -/
def Settings.Hides (c : Settings) (past : List (State × Act)) (s : State) (a : Act) : Prop :=
  ∃ m n, m ≠ n ∧ s.Hears m a ∧ c.Down n past

section Acts

variable {c : Settings} {s t : State} {id : Nat} {n m : String} {a : Act}

/-- **The flag after a turn.** -/
theorem Turn.degraded {p : Process} {sig : Signal Reply Item} (h : Turn c s id p sig t) :
    t.flags.degraded = true ↔
      (∃ service index failures f, p = .watch service (.querying index failures) ∧
        sig = .reply (.error f) ∧ c.watch.policy.attempts ≤ failures + 1) ∨
      (s.flags.degraded = true ∧ ¬ ∃ service index failures new l,
        p = .watch service (.querying index failures) ∧ sig = .reply (.ok (.indexed new l))) := by
  cases h with
  | backsOff f l hp =>
    have hlt := of_decide_eq_true hp
    simp [Nat.not_le.2 hlt]
  | givesUp f l hp =>
    have hle := Nat.not_lt.1 (of_decide_eq_false hp)
    refine iff_of_true ?_ (.inl ⟨_, _, _, f, rfl, rfl, hle⟩)
    rw [(endWatch_books ..).1]
    split <;> simp
  | stops ls =>
    rw [(endWatch_books ..).1]
    split <;> simp
  | finds l o => simp [(merge_alike _ l s).flags]
  | changes new l ls => simp [(apply_alike _ l (s.heard ls)).flags, Settings.query]
  | loads l => simp [(apply_alike ..).flags, (merge_alike ..).flags, Settings.query]
  | loadFails f l => simp [(apply_alike ..).flags, Settings.query]
  | _ => simp [Settings.query]

/-- Only a turn can be an answer, or give up. -/
theorem degraded_call (c : Settings) (s : State) (k : Call) :
    (c.call s k).flags.degraded = s.flags.degraded := by
  cases k with
  | instances service =>
    unfold Settings.call
    dsimp only
    split <;> simp
  | _ => rfl

/-- **The flag after an act is up if a watch gives up, or if it was up and no watch is answered.** -/
theorem degraded_act (h : c.act s a = some t) (hs : s.Supervised) :
    t.flags.degraded = true ↔
      (∃ n, c.GivesUp n s a) ∨ (s.flags.degraded = true ∧ ¬ ∃ n, s.Hears n a) := by
  -- what is no signal is no news of any watch
  have hsilent (hno : ∀ n, s.news? n a = none) (heq : t.flags.degraded = s.flags.degraded) :
      t.flags.degraded = true ↔
        (∃ n, c.GivesUp n s a) ∨ (s.flags.degraded = true ∧ ¬ ∃ n, s.Hears n a) := by
    simp [Settings.GivesUp, State.Hears, hno, heq]
  cases a with
  | call k =>
    obtain rfl := Option.some.inj h
    exact hsilent (fun _ => rfl) (degraded_call c s k)
  | signal id sig =>
    obtain ⟨p, hp, hturn⟩ := Settings.turn h
    rw [hturn.degraded]
    refine or_congr ?_ (and_congr_right fun _ => not_congr ?_)
    · simp only [givesUp_iff hs]
      constructor
      · rintro ⟨n, i, k, f, rfl, rfl, hle⟩
        exact ⟨n, id, i, k, f, rfl, hp, hle⟩
      · rintro ⟨n, j, i, k, f, hsig, hj, hle⟩
        obtain ⟨rfl, rfl⟩ := Act.signal.inj hsig
        exact ⟨n, i, k, f, Option.some.inj (hp.symm.trans hj), rfl, hle⟩
    · simp only [State.Hears, news?_eq_result_iff]
      constructor
      · rintro ⟨n, i, k, new, l, rfl, rfl⟩
        exact ⟨n, new, l, id, i, k, rfl, hp⟩
      · rintro ⟨n, new, l, j, i, k, hsig, hj⟩
        obtain ⟨rfl, rfl⟩ := Act.signal.inj hsig
        exact ⟨n, i, k, new, l, Option.some.inj (hp.symm.trans hj), rfl⟩
  | abandon id =>
    obtain ⟨-, -, -, rfl⟩ := Settings.act_abandon_iff.1 h
    exact hsilent (fun _ => rfl) rfl
  | drop =>
    obtain rfl := Option.some.inj h
    exact hsilent (fun _ => rfl) rfl

/-- **An answer is about one service**, and lowers the flag. -/
theorem State.Hears.eq (h : s.Hears m a) (g : s.Hears n a) : m = n := by
  obtain ⟨_, _, h⟩ := h
  obtain ⟨_, _, g⟩ := g
  obtain ⟨id, i, k, rfl, hid⟩ := news?_eq_result_iff.1 h
  obtain ⟨id', i', k', hsig, hid'⟩ := news?_eq_result_iff.1 g
  obtain ⟨rfl, -⟩ := Act.signal.inj hsig
  exact (Process.watch.inj (Option.some.inj (hid.symm.trans hid'))).1

theorem not_degraded_of_hears (h : c.act s a = some t) (hs : s.Supervised) (hm : s.Hears m a) :
    t.flags.degraded = false := by
  refine Bool.eq_false_iff.2 fun hdeg => ?_
  rcases (degraded_act h hs).1 hdeg with ⟨n, hfail, -⟩ | ⟨-, hno⟩
  · obtain ⟨_, _, hm⟩ := hm
    obtain ⟨id, i, k, rfl, -⟩ := news?_eq_result_iff.1 hm
    obtain ⟨_, _, _, _, hsig, -⟩ := news?_eq_failed_iff.1 hfail
    cases hsig
  · exact hno ⟨m, hm⟩

end Acts

/-! ## Runs -/

section Runs

variable {c : Settings} {s : State} {turns : List (State × Act)}

/-- **At the end of every run the backend is degraded EXACTLY if a watch has given up and none has been answered
    since, of whatever service.**  It has been degraded all the while that some service was down EXACTLY if nothing
    was ever answered about one service while another was down. -/
theorem degraded_down_iff (reached : Run c.act .initial turns s) :
    (s.flags.state = .degraded ↔
        Run.Since (fun u a => ∃ n, c.GivesUp n u a) (fun u a => ∃ n, u.Hears n a) turns) ∧
      ((∀ past u, past <+: turns → Run c.act .initial past u → ∀ n, c.Down n past →
          u.flags.state = .degraded) ↔
        ∀ past u a, past ++ [(u, a)] <+: turns → ¬ c.Hides past u a) := by
  have hsupervised {past : List (State × Act)} {u : State} (h : Run c.act .initial past u) :
      u.Supervised := (supervised_run (g := .empty) h).2
  simp only [Flags.state_eq_degraded_iff]
  refine ⟨?_, fun hkept past u a hpast hhides => ?_, fun hnever past u hpast hu n hdown => ?_⟩
  · refine reached.since_iff (fun u => u.flags.degraded = true) (by decide) fun p hp v hv => ?_
    obtain ⟨front, -, -, -, hf, -, -⟩ := reached.split hp
    exact degraded_act hv (hsupervised hf)
  · obtain ⟨m, n, hne, hm, hdown⟩ := hhides
    obtain ⟨back, rfl⟩ := hpast
    obtain ⟨v, hv, -⟩ := Run.append_iff.1 reached
    obtain ⟨hu, ha⟩ := Run.concat_iff.1 hv
    -- the other service is still down, but the flag is not up
    have hstill : c.Down n (past ++ [(u, a)]) :=
      Run.since_concat.2 (.inr ⟨hdown, fun hn => hne (hm.eq hn)⟩)
    have hup := hkept _ v (List.prefix_append _ back) hv n hstill
    rw [not_degraded_of_hears ha (hsupervised hu) hm] at hup
    cases hup
  · refine (hu.history (fun p v => Run c.act .initial p v ∧
      ∀ n, c.Down n p → v.flags.degraded = true) ⟨.nil _, fun n h => absurd h Run.not_since_nil⟩ ?_).2
      n hdown
    rintro p v a w hp ⟨hv, ih⟩ ha
    refine ⟨Run.concat_iff.2 ⟨hv, ha⟩, fun n hn => (degraded_act ha (hsupervised hv)).2 ?_⟩
    rcases Run.since_concat.1 hn with hgives | ⟨hdown, hno⟩
    · exact .inl ⟨n, hgives⟩
    · refine .inr ⟨ih n hdown, ?_⟩
      rintro ⟨m, hm⟩
      exact hnever p v a (hp.trans hpast) ⟨m, n, fun he => hno (he ▸ hm), hm, hdown⟩

end Runs

/-! ## Two services -/

/-- A backend whose watches give up with their first failure. -/
def Settings.hasty : Settings :=
  .ofConfig ⟨"gateway", "10.0.0.9", 9000, .grpc⟩ { watch := { maxConsecutiveFailures := 1 } }

/-- Two services are loaded, and their watches ask for changes. -/
def pairActs : List Act :=
  [.call (.instances "order"), .signal 0 (.reply (.ok (.reports [⟨⟨"order", "10.0.0.1", 9000⟩, .passing⟩]))),
    .signal 1 .turn, .call (.instances "payment"),
    .signal 2 (.reply (.ok (.reports [⟨⟨"payment", "10.0.0.2", 9000⟩, .passing⟩]))), .signal 3 .turn]

/-- The watch of the one fails. -/
def failedAct : Act := .signal 1 (.reply (.error (.store "down")))

/-- The watch of the other is answered. -/
def answeredAct : Act :=
  .signal 3 (.reply (.ok (.indexed 5 [⟨⟨"payment", "10.0.0.2", 9000⟩, .passing⟩])))

/-- The one is answered for, and then the other goes down: the backend is degraded as long as it should be. -/
theorem degraded_down_later :
    ∃ turns s, Run Settings.hasty.act .initial turns s ∧
      turns.map Prod.snd = pairActs ++ [answeredAct] ++ [failedAct] ∧ s.flags.state = .degraded ∧
      ∀ past u, past <+: turns → Run Settings.hasty.act .initial past u →
        ∀ n, Settings.hasty.Down n past → u.flags.state = .degraded := by
  have hall : ((pairActs ++ [answeredAct] ++ [failedAct]).foldlM Settings.hasty.act .initial).map
      (fun s => s.flags.state) = some .degraded := by
    decide +kernel
  obtain ⟨s, hs, hdeg⟩ := Option.map_eq_some_iff.1 hall
  obtain ⟨turns, hr, hacts⟩ := Run.of_foldlM hs
  refine ⟨turns, s, hr, hacts, hdeg, (degraded_down_iff hr).2.2 ?_⟩
  -- nothing happens after the failure
  rintro past u a hpast ⟨-, n, -, -, hdown⟩
  obtain ⟨front, p, back, rfl, ⟨hfail, -⟩, -⟩ := hdown
  obtain ⟨_, _, _, _, hp, -⟩ := news?_eq_failed_iff.1 hfail
  have hprefix := hpast.map Prod.snd
  rw [hacts, List.map_append, List.map_singleton, List.prefix_concat_iff] at hprefix
  have hmem : p.2 ∈ pairActs ++ [answeredAct] := by
    rcases hprefix with heq | hpre
    · rw [← (List.append_inj' heq rfl).1]
      simp
    · exact hpre.subset (by simp)
  rw [hp] at hmem
  simp [pairActs, answeredAct] at hmem

/-- **A service that is down, and a backend that does NOT show it**: the watch of another service is answered. -/
theorem down_hidden :
    ∃ turns s, Run Settings.hasty.act .initial turns s ∧
      turns.map Prod.snd = pairActs ++ [failedAct] ++ [answeredAct] ∧
      Settings.hasty.Down "order" turns ∧ s.own.services = ["payment"] ∧ s.flags.state = .watching := by
  have hall : ((pairActs.foldlM Settings.hasty.act .initial).bind fun u =>
      (Settings.hasty.act u failedAct).bind fun v => (Settings.hasty.act v answeredAct).map fun s =>
        (u.process? 1, v.process? 3, s.own.services, s.flags.state)) =
      some (some (.watch "order" (.querying 0 0)), some (.watch "payment" (.querying 0 0)), ["payment"],
        .watching) := by
    decide +kernel
  obtain ⟨u, hu, hall⟩ := Option.bind_eq_some_iff.1 hall
  obtain ⟨v, hv, hall⟩ := Option.bind_eq_some_iff.1 hall
  obtain ⟨s, hs, hall⟩ := Option.map_eq_some_iff.1 hall
  simp only [Prod.mk.injEq] at hall
  obtain ⟨horder, hpayment, hservices, hstate⟩ := hall
  obtain ⟨turns, hr, hacts⟩ := Run.of_foldlM hu
  have hgives : Settings.hasty.GivesUp "order" u failedAct :=
    (givesUp_iff (supervised_run (g := .empty) hr).2).2 ⟨1, 0, 0, _, rfl, horder, by decide⟩
  have hother : ¬ v.Hears "order" answeredAct := by
    have hpay : v.Hears "payment" answeredAct :=
      ⟨5, _, news?_eq_result_iff.2 ⟨3, 0, 0, rfl, hpayment⟩⟩
    intro ho
    exact absurd (hpay.eq ho) (by decide)
  refine ⟨turns ++ [(u, failedAct)] ++ [(v, answeredAct)], s,
    Run.concat_iff.2 ⟨Run.concat_iff.2 ⟨hr, hv⟩, hs⟩, by simp [hacts], ?_, hservices, hstate⟩
  exact Run.since_concat.2 (.inr ⟨Run.since_concat.2 (.inl hgives), hother⟩)

end Muster.Probed
