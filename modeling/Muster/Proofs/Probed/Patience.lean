/-
  Is the patience of a watch exact?

  A watch whose queries fail asks again and again, with growing pauses, and gives up after as many failures in a
  row as are configured.  It must neither give up before nor go on afterwards, ask for nothing it has not asked
  for already, and leave the cache alone; and a query of the service makes it begin anew.

  (1) `Pauses` — between a failure and the next query there is exactly the backoff, and the query is the same;
  (2) `loaded_act` — nothing but an answered query of the service changes its cache while its watch fails;
  (3) `watch_patient` — all this along every run on a clock.
-/
import Muster.Proofs.Probed.Clock
import Muster.Proofs.Probed.GivingUp

namespace Muster.Probed

/-! ## What happens on a clock -/

/-- **What the watch of a service hears along a run on a clock.** -/
def heard (n : String) (turns : List (Timed State × Tick Act)) : List News :=
  newsOf n (turns.filterMap Tick.turn?)

/-- What a query of a service finds, in an act. -/
def State.found? (n : String) (s : State) : Act → Option (List Report)
  | .signal id (.reply (.ok (.reports l))) => if s.process? id = some (.querying n) then some l else none
  | _ => none

/-- **What queries of a service find along a run.** -/
def found (n : String) (turns : List (Timed State × Tick Act)) : List (List Report) :=
  (turns.filterMap Tick.turn?).filterMap fun p => p.1.found? n p.2

/-- What a query of a service finds goes into the cache. -/
def loadInto (n : String) (r : Registry) (l : List Report) : Registry :=
  if l.isEmpty then r else insertAll r n (eligible l)

/-- **Nobody acts at a number.** -/
def Still (id : Nat) (turns : List (Timed State × Tick Act)) : Prop :=
  ∀ q ∈ turns, ∀ a, q.2 = .act a → a.number q.1.session ≠ id

section Moments

variable {n : String} {turns : List (Timed State × Tick Act)} {u w : Timed State} {b : Tick Act}

theorem heard_append (n : String) (front back : List (Timed State × Tick Act)) :
    heard n (front ++ back) = heard n front ++ heard n back := by
  simp only [heard, newsOf, List.filterMap_append]

theorem found_append (n : String) (front back : List (Timed State × Tick Act)) :
    found n (front ++ back) = found n front ++ found n back := by
  simp only [found, List.filterMap_append]

theorem heard_act (n : String) (w : Timed State) (a : Act) :
    heard n [(w, .act a)] = (w.session.news? n a).toList := newsOf_concat n [] w.session a

/-- A tick is a failure EXACTLY if it is an act that is one. -/
theorem heard_eq_failed_iff : heard n [(w, b)] = [.failed] ↔
    ∃ a, b = .act a ∧ w.session.news? n a = some .failed := by
  cases b with
  | pass time => exact ⟨fun h => (nomatch h), fun ⟨_, h, _⟩ => nomatch h⟩
  | act a =>
    rw [heard_act]
    cases h : w.session.news? n a <;> simp [h]

end Moments

/-! ## The cache while a watch fails -/

section Caches

variable {c : Settings} {s t : State} {n : String} {a : Act} {id : Nat}

theorem get?_insertAll (r : Registry) (n : String) (l : List Instance) :
    (insertAll r n l).get? n = some (l.foldl Members.insert (r.members n)) := by
  have hall (g : Registry) (m : Members) (hm : g.get? n = some m) :
      (l.foldl (fun g i => g.insert n i) g).get? n = some (l.foldl Members.insert m) := by
    induction l generalizing g m with
    | nil => exact hm
    | cons i l ih =>
      refine ih _ _ ?_
      show (g.modify n (·.insert i)).get? n = _
      rw [Registry.get?_modify, if_pos rfl, Registry.members, hm, Option.getD_some]
  refine hall _ _ ?_
  rw [Registry.create, Registry.get?_modify, if_pos rfl]
  rfl

/-- What comes in under a name depends only on what there is under it. -/
theorem get?_loadInto_congr {r g : Registry} (h : r.get? n = g.get? n) (l : List Report) :
    (loadInto n r l).get? n = (loadInto n g l).get? n := by
  unfold loadInto
  split
  · exact h
  · rw [get?_insertAll, get?_insertAll, Registry.members, h, ← Registry.members]

/-- Only a query of the service finds something for it. -/
theorem found?_eq_none {p : Process} (hid : s.process? id = some p) (hp : p ≠ .querying n)
    (sig : Signal Reply Item) : s.found? n (.signal id sig) = none := by
  unfold State.found?
  split
  · rename_i h
    obtain ⟨rfl, -⟩ := Act.signal.inj h
    rw [hid, if_neg fun he => hp (Option.some.inj he)]
  · rfl

/-- A turn of a watch that is no result, and ends no load, leaves the cache alone, and begins no load. -/
theorem Turn.idles {w : Watch} {sig : Signal Reply Item} (h : Turn c s id (.watch n w) sig t)
    (hid : s.process? id = some (.watch n w)) (hw : ∀ i l, w ≠ .loading i l)
    (hnews : ∀ new l, w.news? sig ≠ some (.result new l)) :
    t.registry = s.registry ∧ ∀ i l, t.process? id ≠ some (.watch n (.loading i l)) := by
  have hgoes {u : State} {q : Process} (hq : u.process? id = some q) (hne : ∀ i l, q ≠ .watch n (.loading i l))
      (i : UInt64) (l : List Report) : u.process? id ≠ some (.watch n (.loading i l)) :=
    fun he => hne i l (Option.some.inj (hq.symm.trans he))
  have hends (u : State) (i : UInt64) (l : List Report) :
      (endWatch u id n).process? id ≠ some (.watch n (.loading i l)) := by
    rw [(endWatch_books u id n).2.2.2.1, Session.process?_finish, if_pos rfl]
    exact fun he => nomatch he
  cases h with
  | begins | backsOff | retries => exact ⟨rfl, hgoes (process?_become_self hid) (by simp)⟩
  | repeats | changes | sights => exact absurd rfl (hnews _ _)
  | givesUp => exact ⟨by simp, hends _⟩
  | stops ls => exact ⟨by simp, hends _⟩
  | loads | loadFails => exact absurd rfl (hw _ _)

/-- **Whoever is no watch of a service brings what queries find**, and nothing else. -/
theorem found_act (h : c.act s a = some t)
    (hno : ∀ id sig w, a = .signal id sig → s.process? id ≠ some (.watch n w)) :
    t.registry.get? n = ((s.found? n a).toList.foldl (loadInto n) s.registry).get? n := by
  cases a with
  | call k =>
    obtain rfl := Option.some.inj h
    rw [registry_call]
    rfl
  | signal id sig =>
    obtain ⟨p, hp, hturn⟩ := Settings.turn h
    by_cases hq : p = .querying n
    · subst hq
      cases hturn with
      | finds l o =>
        have hfound : s.found? n (.signal id (.reply (.ok (.reports l)))) = some l := if_pos hp
        rw [hfound]
        show (ensureWatch n (merge n l s)).registry.get? n = (loadInto n s.registry l).get? n
        rw [(ensureWatch_books ..).2.1, merge_registry, loadInto]
      | findFails f l hr =>
        have hfound : s.found? n (.signal id sig) = none := by
          cases sig with
          | reply r =>
            obtain rfl := Option.some.inj hr
            rfl
          | _ => rfl
        rw [hfound]
        rfl
    · rw [found?_eq_none hp hq sig, hturn.get?_eq (fun w he => hno id sig w rfl (he ▸ hp)) hq]
      rfl
  | abandon id =>
    obtain ⟨-, -, -, rfl⟩ := Settings.act_abandon_iff.1 h
    rfl
  | drop =>
    obtain rfl := Option.some.inj h
    rfl

/-- **While the watch of a service is not answered, nothing but what queries find comes into its cache.** -/
theorem loaded_act (h : c.act s a = some t) (hn : s.Numbered)
    (hloads : ¬ s.Loads n) (hears : ¬ s.Hears n a) :
    ¬ t.Loads n ∧
      t.registry.get? n = ((s.found? n a).toList.foldl (loadInto n) s.registry).get? n := by
  by_cases hown : ∃ id sig w, a = .signal id sig ∧ s.process? id = some (.watch n w)
  · obtain ⟨id, sig, w, rfl, hid⟩ := hown
    obtain ⟨p, hp, hturn⟩ := Settings.turn h
    obtain rfl := Option.some.inj (hid.symm.trans hp)
    obtain ⟨hreg, hnext⟩ := hturn.idles hid (fun i l hw => hloads ⟨id, i, l, hw ▸ hid⟩)
      fun new l hnews => hears ⟨new, l, (news?_signal hid).trans hnews⟩
    refine ⟨?_, by rw [found?_eq_none hid (by simp) sig, hreg]; rfl⟩
    rintro ⟨k, i, l, hk⟩
    by_cases he : k = id
    · exact hnext i l (he ▸ hk)
    · -- nobody else has moved
      rcases hturn.of_watch with ⟨w', ht, -⟩ | ⟨ht, -⟩
      · rw [ht, Session.process?_become, if_neg he] at hk
        exact hloads ⟨k, i, l, hk⟩
      · rw [ht, Session.process?_finish, if_neg he] at hk
        exact hloads ⟨k, i, l, hk⟩
  · refine ⟨?_, found_act h fun id sig w ha hid => hown ⟨id, sig, w, ha, hid⟩⟩
    rintro ⟨k, i, l, hk⟩
    rcases Settings.watch_or_beside h hn n with ⟨id, sig, w, ha, hid, -⟩ | ⟨hb, -, -⟩
    · exact hown ⟨id, sig, w, ha, hid⟩
    · rcases hb.only k _ (role_watchOf?_iff.2 hk) with hold | hfresh
      · exact hloads ⟨k, i, l, role_watchOf?_iff.1 hold⟩
      · cases hfresh

end Caches

/-! ## Between a failure and the next query -/

/-- **The pause after so many failures in a row**, in nanoseconds. -/
def Settings.pause (c : Settings) (failures : Nat) : Nat :=
  min (c.watch.policy.base.toNanos * Nat.pow 2 (min (failures - 1) 10)) c.watch.policy.longest.toNanos

/-- **A watch pauses after a failure**, the `k`-th in a row, at some time, of a query after an index. -/
structure Pauses (c : Settings) (n : String) (id k : Nat) (index : UInt64) (since : Nat) (w : Timed State) :
    Prop where
  waits : w.session.process? id = some (.watch n (.backingOff index k))
  /-- Time does not pass beyond the backoff. -/
  early : w.now ≤ since + c.pause k
  /-- When it has passed, the watch can go on. -/
  free : w.now = since + c.pause k → (c.tick w (.act (.signal id .elapsed))).isSome = true
  /-- If the backend is open, all it ever does is to ask the same again, and at no other time. -/
  asks : w.session.closed = false → ∀ a y, c.tick w (.act a) = some y → a.number w.session = id →
    w.now = since + c.pause k ∧
      y.session.requests = (id, .changes n c.scope index c.watch.wait) :: w.session.requests ∧
      y.session.process? id = some (.watch n (.querying index k))

section Pauses

variable {c : Settings} {n : String} {id k : Nat} {index : UInt64} {v w y : Timed State} {a : Act}
  {w' : Watch} {turns : List (Timed State × Tick Act)}

/-- Whoever acts at the number of a watch is the watch. -/
theorem signal_of_watch {s t : State} (hs : s.Orderly) (hid : s.process? id = some (.watch n w'))
    (h : c.act s a = some t) (hself : a.number s = id) :
    ∃ sig, a = .signal id sig ∧ Turn c s id (.watch n w') sig t := by
  rcases signal_or_abandon h (hs.lt_nextId hid) hself with ⟨sig, p, ha, hp, hturn⟩ | ⟨p, -, hp, hcall, -⟩
  · obtain rfl := Option.some.inj (hid.symm.trans hp)
    exact ⟨sig, ha, hturn⟩
  · obtain rfl := Option.some.inj (hid.symm.trans hp)
    cases hcall

/-- **Nobody moves who does not act.** -/
theorem still_run (run : Run c.tick v turns w) (hv : c.clockwork.Punctual v) {p : Process}
    (hid : v.session.process? id = some p) (still : Still id turns) :
    c.clockwork.Punctual w ∧ w.session.process? id = some p ∧ w.since id = v.since id := by
  refine run.invariant (fun x => c.clockwork.Punctual x ∧ x.session.process? id = some p ∧
    x.since id = v.since id) ⟨hv, hid, rfl⟩ ?_
  rintro ⟨x, b⟩ hmem y ⟨hx, hp, hsince⟩ hb
  have hrests : c.clockwork.Rests id x y := by
    cases b with
    | pass time => exact Clockwork.rests_pass hb
    | act a =>
      exact Clockwork.rests_act hb hx.upright (hx.upright.orderly.lt_nextId hp) (still _ hmem a rfl)
  exact ⟨hx.tick hb, hrests.process?.trans hp, hrests.since.trans hsince⟩

/-- **Whoever backs off pauses for exactly the backoff.** -/
theorem pauses_of_backingOff (hw : c.clockwork.Punctual w)
    (hid : w.session.process? id = some (.watch n (.backingOff index k))) :
    Pauses c n id k index (w.since id) w := by
  have hdue : c.clockwork.due? w id = some (w.since id + c.pause k) := by
    rw [Clockwork.due?, hid]
    show some (w.since id + (c.watch.policy.delay k).toNanos) = _
    rw [Backoff.toNanos_delay]
    rfl
  constructor
  case waits => exact hid
  case early => exact hw.due id _ hdue
  case free =>
    intro hnow
    refine Clockwork.isSome_tick_of_due rfl hdue (Nat.le_of_eq hnow.symm) ?_
    exact congrArg Option.isSome (c.act_of_process? hid .elapsed)
  case asks =>
    intro hopen a y h hself
    obtain ⟨-, t, ht, rfl⟩ := Clockwork.tick_act_iff.1 h
    obtain ⟨sig, rfl, hturn⟩ := signal_of_watch hw.upright.orderly hid ht hself
    cases hturn with
    | retries => exact ⟨hw.now_eq h rfl hdue, rfl, process?_become_self hid⟩
    | stops _ hc =>
      rw [hopen] at hc
      cases hc

end Pauses

/-! ## The theorem -/

/-- **The watch of a service**, after all that has happened. -/
structure Patient (c : Settings) (n : String) (turns : List (Timed State × Tick Act)) (w : Timed State) :
    Prop where
  /-- It takes every answer to its query, and every failure. -/
  takes : ∀ id index failures, w.session.process? id = some (.watch n (.querying index failures)) →
    (∀ new l, (c.act w.session (.signal id (.reply (.ok (.indexed new l))))).isSome = true) ∧
      ∀ f, (c.act w.session (.signal id (.reply (.error f)))).isSome = true
  /-- While the backend is open it ends EXACTLY with the failure that completes as many in a row as are
      configured. -/
  ends : w.session.closed = false → (∃ k, w.session.IsWatch n k) → ∀ b y, c.tick w b = some y →
    ((¬ ∃ k, y.session.IsWatch n k) ↔ heard n [(w, b)] = [.failed] ∧
      streak (heard n (turns ++ [(w, b)])) = max 1 c.watch.maxConsecutiveFailures.toNat)
  /-- Then the backend is degraded, the service is off the list of the watched, and the cache is as it was. -/
  ended : ∀ b y, c.tick w b = some y → heard n [(w, b)] = [.failed] →
    streak (heard n (turns ++ [(w, b)])) = max 1 c.watch.maxConsecutiveFailures.toNat →
    y.session.flags.state = .degraded ∧ n ∉ y.session.own.services ∧
      y.session.registry = w.session.registry
  /-- Since any moment from which on it has not been answered, only queries of the service have brought something
      into its cache. -/
  cached : ∀ front back v, turns = front ++ back → Run c.tick (.start .initial) front v →
    ¬ v.session.Loads n → (∀ new l, .result new l ∉ heard n back) →
    w.session.registry.get? n = ((found n back).foldl (loadInto n) v.session.registry).get? n
  /-- After any other failure it pauses for exactly the backoff, and then asks the same again. -/
  again : ∀ front u b back, turns = front ++ (u, b) :: back → heard n [(u, b)] = [.failed] →
    streak (heard n (front ++ [(u, b)])) < max 1 c.watch.maxConsecutiveFailures.toNat →
    ∃ id index f, b = .act (.signal id (.reply (.error f))) ∧
      u.session.requests.lookup id = some (.changes n c.scope index c.watch.wait) ∧
      (Still id back → Pauses c n id (streak (heard n (front ++ [(u, b)]))) index u.now w)
  /-- The clock does not stop. -/
  unstuck : (∃ time, 0 < time ∧ (c.tick w (.pass time)).isSome = true) ∨
    ∃ j sig, (Act.signal j sig).alarm? = some j ∧ (c.tick w (.act (.signal j sig))).isSome = true
  /-- A service that is not watched gets a watch with a query of it only. -/
  asked : (¬ ∃ k, w.session.IsWatch n k) → ∀ b y, c.tick w b = some y → (∃ k, y.session.IsWatch n k) →
    b = .act (.call (.instances n)) ∨
      ∃ id sig, b = .act (.signal id sig) ∧ w.session.process? id = some (.querying n)
  /-- If it is cached, the query starts ONE watch, -/
  anew : w.session.closed = false → (¬ ∃ k, w.session.IsWatch n k) →
    ∀ m, w.session.registry.get? n = some m → ∃ y k, c.tick w (.act (.call (.instances n))) = some y ∧
      y.session.returns = (w.session.nextId, .instances m.list) :: w.session.returns ∧
      y.session.processes = w.session.processes ++ [(k, .watch n .fresh)] ∧
      (∀ j, y.session.IsWatch n j ↔ j = k)
  /-- which asks from the beginning. -/
  fresh : ∀ k, w.session.process? k = some (.watch n .fresh) →
    (c.tick w (.act (.signal k .turn))).isSome = true ∧
      (w.session.closed = false → ∀ a y, c.tick w (.act a) = some y → a.number w.session = k →
        y.session.requests = (k, .changes n c.scope 0 c.watch.wait) :: w.session.requests ∧
          y.session.process? k = some (.watch n (.querying 0 0)))

section Patience

variable {c : Settings} {n : String} {turns : List (Timed State × Tick Act)} {u v w y : Timed State}
  {b : Tick Act}

/-- **What is true of the watch of a service along every run.** -/
theorem standing_run (reached : Run c.tick (.start .initial) turns w) (n : String) :
    c.clockwork.Punctual w ∧ w.session.Supervised ∧
      c.Counts n (turns.filterMap Tick.turn?) w.session := by
  have hrun := Clockwork.untimed reached
  exact ⟨punctual_run reached, (supervised_run (g := .empty) hrun).2, counts_run (g := .empty) hrun n⟩

/-- A tick that is a failure finds the watch in a query, with fewer failures than would end it. -/
theorem fails_tick (reached : Run c.tick (.start .initial) turns w) (h : c.tick w b = some y)
    (hb : heard n [(w, b)] = [.failed]) :
    ∃ id index failures f, b = .act (.signal id (.reply (.error f))) ∧
      w.session.process? id = some (.watch n (.querying index failures)) ∧
      streak (heard n (turns ++ [(w, b)])) = failures + 1 ∧
      failures < max 1 c.watch.maxConsecutiveFailures.toNat ∧
      Fails c w.session id n index (failures + 1) y.session := by
  obtain ⟨a, rfl, hnews⟩ := heard_eq_failed_iff.1 hb
  obtain ⟨id, index, failures, f, rfl, hid⟩ := news?_eq_failed_iff.1 hnews
  obtain ⟨-, -, hcounts⟩ := standing_run reached n
  obtain ⟨hstreak, hlt⟩ := hcounts id _ hid
  obtain ⟨-, t, ht, rfl⟩ := Clockwork.tick_act_iff.1 h
  obtain ⟨t', ht', hfails⟩ := fails_act (c := c) hid f
  obtain rfl := Option.some.inj (ht.symm.trans ht')
  refine ⟨id, index, failures, f, rfl, hid, ?_, Watch.attempts_eq c ▸ hlt, hfails⟩
  rw [heard_append, hb, streak_concat_failed, hstreak]
  rfl

/-- **A watch ends EXACTLY with the failure that completes the streak**, in a backend that is open. -/
theorem unwatched_tick_iff (reached : Run c.tick (.start .initial) turns w)
    (h : c.tick w b = some y) (hopen : w.session.closed = false) (live : ∃ k, w.session.IsWatch n k) :
    (¬ ∃ k, y.session.IsWatch n k) ↔ heard n [(w, b)] = [.failed] ∧
      streak (heard n (turns ++ [(w, b)])) = max 1 c.watch.maxConsecutiveFailures.toNat := by
  obtain ⟨hpunctual, hs, hcounts⟩ := standing_run reached n
  cases b with
  | pass time =>
    obtain ⟨-, rfl⟩ := Clockwork.tick_pass_iff.1 h
    exact iff_of_false (not_not_intro live) fun hand => nomatch hand.1
  | act a =>
    obtain ⟨-, t, ht, rfl⟩ := Clockwork.tick_act_iff.1 h
    have hiff := unwatched_iff ht hpunctual.upright.orderly.numbered hs hcounts hopen live
    rw [newsOf_concat, Watch.attempts_eq] at hiff
    rw [heard_append, heard_act]
    refine hiff.trans (and_congr_left fun _ => ?_)
    cases hnews : w.session.news? n a <;> simp

/-- The end of a watch leaves the cache alone. -/
theorem over_tick (reached : Run c.tick (.start .initial) turns w) (h : c.tick w b = some y)
    (hb : heard n [(w, b)] = [.failed])
    (hlast : streak (heard n (turns ++ [(w, b)])) = max 1 c.watch.maxConsecutiveFailures.toNat) :
    y.session.flags.state = .degraded ∧ n ∉ y.session.own.services ∧
      y.session.registry = w.session.registry := by
  obtain ⟨id, index, failures, f, rfl, hid, hstreak, -, hfails⟩ := fails_tick reached h hb
  obtain ⟨-, t, ht, rfl⟩ := Clockwork.tick_act_iff.1 h
  obtain ⟨-, hkeeps⟩ := c.keeps n w.session _ id _ _ t rfl hid ht
  cases hfails with
  | pauses hmore =>
    rw [Watch.attempts_eq] at hmore
    omega
  | ends _ hdeg hends =>
    refine ⟨(Flags.state_eq_degraded_iff _).2 hdeg, ?_, hkeeps index failures rfl (.inl ⟨f, rfl⟩)⟩
    rw [hends.2.1]
    simp

/-- **The cache of a service that is not answered for.** -/
theorem cached_run (reached : Run c.tick (.start .initial) turns v)
    {back : List (Timed State × Tick Act)} (run : Run c.tick v back w) (hloads : ¬ v.session.Loads n)
    (hears : ∀ new l, .result new l ∉ heard n back) :
    w.session.registry.get? n = ((found n back).foldl (loadInto n) v.session.registry).get? n := by
  refine (run.history (fun past x => c.clockwork.Punctual x ∧ ¬ x.session.Loads n ∧
    x.session.registry.get? n = ((found n past).foldl (loadInto n) v.session.registry).get? n)
    ⟨punctual_run reached, hloads, rfl⟩ ?_).2.2
  rintro past x b y hpast ⟨hx, hno, hreg⟩ hb
  have hy := hx.tick hb
  cases b with
  | pass time =>
    obtain ⟨-, rfl⟩ := Clockwork.tick_pass_iff.1 hb
    have hnone : found n [(x, .pass time)] = [] := rfl
    exact ⟨hy, hno, by rw [found_append, hnone, List.append_nil]; exact hreg⟩
  | act a =>
    obtain ⟨-, t, ht, rfl⟩ := Clockwork.tick_act_iff.1 hb
    have hsilent : ¬ x.session.Hears n a := by
      rintro ⟨new, l, hnews⟩
      refine hears new l ?_
      obtain ⟨rest, rfl⟩ := hpast
      rw [heard_append, heard_append, heard_act, hnews]
      simp
    obtain ⟨hnext, hfound⟩ := loaded_act ht hx.upright.orderly.numbered hno hsilent
    refine ⟨hy, hnext, ?_⟩
    rw [found_append, List.foldl_append]
    refine hfound.trans ?_
    show _ = ((x.session.found? n a).toList.foldl (loadInto n) _).get? n
    cases x.session.found? n a with
    | none => exact hreg
    | some l => exact get?_loadInto_congr hreg l

/-- **After a failure the watch pauses**, as long as it does not move, if there have not been enough. -/
theorem pauses_run {front back : List (Timed State × Tick Act)}
    (reached : Run c.tick (.start .initial) (front ++ (u, b) :: back) w)
    (hb : heard n [(u, b)] = [.failed])
    (hmore : streak (heard n (front ++ [(u, b)])) < max 1 c.watch.maxConsecutiveFailures.toNat) :
    ∃ id index f, b = .act (.signal id (.reply (.error f))) ∧
      u.session.requests.lookup id = some (.changes n c.scope index c.watch.wait) ∧
      (Still id back → Pauses c n id (streak (heard n (front ++ [(u, b)]))) index u.now w) := by
  obtain ⟨v, hfront, hback⟩ := Run.append_iff.1 (List.append_cons .. ▸ reached)
  obtain ⟨hu, hv⟩ := Run.concat_iff.1 hfront
  obtain ⟨id, index, failures, f, rfl, hid, hstreak, -, hfails⟩ := fails_tick hu hv hb
  obtain ⟨m, hm⟩ := exists_mirrors_run (g := .empty) (Clockwork.untimed hu) n
  obtain ⟨rfl, hasked⟩ := hm.querying id index failures hid
  refine ⟨id, _, f, rfl, hasked, fun still => ?_⟩
  cases hfails with
  | ends hle =>
    rw [Watch.attempts_eq] at hle
    omega
  | pauses _ _ hp =>
    obtain ⟨hw, hlive, hsince⟩ := still_run hback (punctual_run hfront)
      ((hp id).trans (process?_become_self hid)) still
    have hnow : v.since id = u.now := by
      obtain ⟨-, t, ht, rfl⟩ := Clockwork.tick_act_iff.1 hv
      exact if_pos (.inl rfl)
    rw [hstreak, ← hnow, ← hsince]
    exact pauses_of_backingOff hw hlive

/-! ## A watch that begins -/

/-- A service is on the list EXACTLY if it has a watch. -/
theorem mem_services_iff {s : State} (hs : s.Supervised) :
    n ∈ s.own.services ↔ ∃ k, s.IsWatch n k := by
  obtain ⟨o, ho⟩ := hs.watcher n
  have hbook : n ∈ s.own.services ↔ o.isSome = true := by
    rw [← ho.watched]
    simp [State.isWatched]
  rw [hbook]
  constructor
  · intro hsome
    obtain ⟨⟨k, w⟩, rfl⟩ := Option.isSome_iff_exists.1 hsome
    exact ⟨k, w, role_watchOf?_iff.1 ((ho.sole k w).2 rfl)⟩
  · rintro ⟨k, w, hk⟩
    rw [ho.sole.eq_of_role (role_watchOf?_iff.2 hk)]
    rfl

/-- Only its own name comes on the list when a watch is started. -/
theorem mem_ensureWatch {s : State} {m : String} (h : n ∈ (ensureWatch m s).own.services) :
    n ∈ s.own.services ∨ n = m := by
  rw [(ensureWatch_books m s).2.2.2.2.2.1] at h
  split at h
  · exact .inl h
  · simpa using h

/-- **Only a query brings a service on the list**, when it is made or when it is answered. -/
theorem mem_services_act {s t : State} {a : Act} (h : c.act s a = some t)
    (hmem : n ∈ t.own.services) : n ∈ s.own.services ∨ a = .call (.instances n) ∨
      ∃ id sig, a = .signal id sig ∧ s.process? id = some (.querying n) := by
  cases a with
  | call k =>
    obtain rfl := Option.some.inj h
    cases k with
    | instances service =>
      unfold Settings.call at hmem
      dsimp only at hmem
      split at hmem
      · rcases mem_ensureWatch hmem with hold | rfl
        · exact .inl hold
        · exact .inr (.inl rfl)
      · exact .inl hmem
    | _ => exact .inl hmem
  | signal id sig =>
    obtain ⟨p, hp, hturn⟩ := Settings.turn h
    cases p with
    | watch service w =>
      rcases hturn.of_watch with ⟨w', -, hown, -⟩ | ⟨-, hown, -⟩
      · rw [hown] at hmem
        exact .inl hmem
      · rw [hown] at hmem
        exact .inl (List.mem_filter.1 hmem).1
    | querying service =>
      cases hturn with
      | finds l o =>
        rcases mem_ensureWatch hmem with hold | rfl
        · rw [(merge_alike service l s).own] at hold
          exact .inl hold
        · exact .inr (.inr ⟨id, _, rfl, hp⟩)
      | findFails => exact .inl hmem
    | _ => cases hturn <;> exact .inl hmem
  | abandon id =>
    obtain ⟨-, -, -, rfl⟩ := Settings.act_abandon_iff.1 h
    exact .inl hmem
  | drop =>
    obtain rfl := Option.some.inj h
    exact .inl hmem

/-- A watch is started where there is none, in a backend that is open. -/
theorem ensureWatch_of_idle {s : State} (hopen : s.closed = false) (hno : s.isWatched n = false) :
    ensureWatch n s =
      Session.spawn { s with own := ⟨s.own.services ++ [n]⟩ } (.watch n .fresh) := by
  rw [ensureWatch, if_neg (by simp [hopen, hno])]

/-- **A query of a service that is cached and not watched starts ONE watch.** -/
theorem starts_tick (hw : c.clockwork.Punctual w) (hs : w.session.Supervised)
    (hopen : w.session.closed = false) (hno : ¬ ∃ k, w.session.IsWatch n k) {m : Members}
    (hm : w.session.registry.get? n = some m) :
    ∃ y k, c.tick w (.act (.call (.instances n))) = some y ∧
      y.session.returns = (w.session.nextId, .instances m.list) :: w.session.returns ∧
      y.session.processes = w.session.processes ++ [(k, .watch n .fresh)] ∧
      ∀ j, y.session.IsWatch n j ↔ j = k := by
  let s : State := w.session.instant (.instances m.list)
  have hunwatched : s.isWatched n = false := by
    refine Bool.eq_false_iff.2 fun hb => hno ((mem_services_iff hs).1 ?_)
    simpa [State.isWatched, s] using hb
  let t : State := Session.spawn { s with own := ⟨s.own.services ++ [n]⟩ } (.watch n .fresh)
  have hcall : c.act w.session (.call (.instances n)) = some t := by
    have hknown : c.call w.session (.instances n) = ensureWatch n s := by rw [Settings.call, hm]
    exact congrArg some (hknown.trans (ensureWatch_of_idle (s := s) hopen hunwatched))
  refine ⟨_, w.session.nextId + 1, Clockwork.tick_of_no_alarm rfl hcall, rfl, rfl, fun j => ?_⟩
  have hfresh : w.session.process? (w.session.nextId + 1) = none :=
    Session.numbered_iff.1 hw.upright.orderly.numbered _ (Nat.le_succ _)
  have hp : t.process? j = (w.session.process? j).or
      (if j = w.session.nextId + 1 then some (.watch n .fresh) else none) :=
    Session.process?_spawn _ _ j
  show (∃ v, t.process? j = some (.watch n v)) ↔ _
  rw [hp]
  constructor
  · rintro ⟨v, hv⟩
    rcases Option.or_eq_some_iff.1 hv with hold | ⟨-, hnew⟩
    · exact absurd ⟨j, v, hold⟩ hno
    · split at hnew
      · assumption
      · cases hnew
  · rintro rfl
    exact ⟨.fresh, by rw [hfresh, if_pos rfl]; rfl⟩

/-- **A watch that begins asks from the beginning.** -/
theorem begins_tick (hw : c.clockwork.Punctual w) {k : Nat}
    (hk : w.session.process? k = some (.watch n .fresh)) :
    (c.tick w (.act (.signal k .turn))).isSome = true ∧
      (w.session.closed = false → ∀ a y, c.tick w (.act a) = some y → a.number w.session = k →
        y.session.requests = (k, .changes n c.scope 0 c.watch.wait) :: w.session.requests ∧
          y.session.process? k = some (.watch n (.querying 0 0))) := by
  refine ⟨?_, fun hopen a y h hself => ?_⟩
  · obtain ⟨t, ht⟩ : ∃ t, c.act w.session (.signal k .turn) = some t := ⟨_, c.act_of_process? hk .turn⟩
    exact Option.isSome_iff_exists.2 ⟨_, Clockwork.tick_of_no_alarm rfl ht⟩
  · obtain ⟨-, t, ht, rfl⟩ := Clockwork.tick_act_iff.1 h
    obtain ⟨sig, rfl, hturn⟩ := signal_of_watch hw.upright.orderly hk ht hself
    cases hturn with
    | begins l => exact ⟨rfl, process?_become_self hk⟩
    | stops _ hc =>
      rw [hopen] at hc
      cases hc

/-! ## The theorem -/

/-- **The patience of a watch is exact**, along every run on a clock. -/
theorem watch_patient (reached : Run c.tick (.start .initial) turns w) (n : String) :
    Patient c n turns w := by
  obtain ⟨hpunctual, hs, -⟩ := standing_run reached n
  constructor
  case takes =>
    intro id index failures hid
    exact ⟨fun new l => congrArg Option.isSome (c.act_of_process? hid _),
      fun f => congrArg Option.isSome (c.act_of_process? hid _)⟩
  case ends => exact fun hopen live b y h => unwatched_tick_iff reached h hopen live
  case ended => exact fun b y h => over_tick reached h
  case cached =>
    rintro front back v rfl hv
    obtain ⟨v', hfront, hback⟩ := Run.append_iff.1 reached
    obtain rfl := hfront.unique hv
    exact cached_run hv hback
  case again =>
    rintro front u b back rfl hb hmore
    exact pauses_run reached hb hmore
  case unstuck => exact c.unstuck w
  case asked =>
    intro hno b y h hyes
    cases b with
    | pass time =>
      obtain ⟨-, rfl⟩ := Clockwork.tick_pass_iff.1 h
      exact absurd hyes hno
    | act a =>
      obtain ⟨-, t, ht, rfl⟩ := Clockwork.tick_act_iff.1 h
      have ht' := supervised_act ht hpunctual.upright.orderly.numbered hs
      rcases mem_services_act ht ((mem_services_iff ht').2 hyes) with hmem | rfl | ⟨id, sig, rfl, hid⟩
      · exact absurd ((mem_services_iff hs).1 hmem) hno
      · exact .inl rfl
      · exact .inr ⟨id, sig, rfl, hid⟩
  case anew => exact fun hopen hno m hm => starts_tick hpunctual hs hopen hno hm
  case fresh => exact fun k hk => begins_tick hpunctual hk

end Patience

/-- With two failures: a watch that has failed once is answered, so that it takes two more to end it, a second
    apart. -/
theorem watch_patient_answered : ∃ c turns w b y,
    Run (Settings.tick c) (.start .initial) turns w ∧ Patient c "order" turns w ∧ c.tick w b = some y ∧
      (∃ k, w.session.IsWatch "order" k) ∧ (¬ ∃ k, y.session.IsWatch "order" k) ∧
      streak (heard "order" (turns ++ [(w, b)])) = 2 ∧ y.session.flags.state = .degraded ∧
      y.session.registry = w.session.registry := by
  let c : Settings := .ofConfig ⟨"gateway", "10.0.0.9", 9000, .grpc⟩
    { watch := { maxConsecutiveFailures := 2 } }
  let own (sig : Signal Reply Item) : Tick Act := .act (.signal 1 sig)
  let down : Signal Reply Item := .reply (.error (.store "down"))
  let l : List Report := [⟨⟨"order", "10.0.0.1", 9000⟩, .passing⟩]
  let front : List (Tick Act) := [.act (.call (.instances "order")), .act (.signal 0 (.reply (.ok (.reports l)))),
    own .turn, own down, .pass 1000000000, own .elapsed, own (.reply (.ok (.indexed 5 l))), own down,
    .pass 1000000000, own .elapsed]
  have hall : ((front.foldlM c.tick (.start .initial)).bind fun w =>
      (c.tick w (own down)).map fun y => (w.session.process? 1, w.session.closed, y.session.processes)) =
      some (some (.watch "order" (.querying 5 1)), false, []) := by
    decide +kernel
  obtain ⟨w, hw, hall⟩ := Option.bind_eq_some_iff.1 hall
  obtain ⟨y, hy, hall⟩ := Option.map_eq_some_iff.1 hall
  simp only [Prod.mk.injEq] at hall
  obtain ⟨hlive, hopen, hover⟩ := hall
  obtain ⟨turns, hreached, -⟩ := Run.of_foldlM hw
  have hpatient := watch_patient hreached "order"
  have hlive : ∃ k, w.session.IsWatch "order" k := ⟨1, _, hlive⟩
  have hover : ¬ ∃ k, y.session.IsWatch "order" k := by
    rintro ⟨k, v, hk⟩
    rw [Session.process?, hover] at hk
    cases hk
  obtain ⟨hfailed, hstreak⟩ := (hpatient.ends hopen hlive _ y hy).1 hover
  obtain ⟨hdegraded, -, hregistry⟩ := hpatient.ended _ y hy hfailed hstreak
  exact ⟨c, turns, w, _, y, hreached, hpatient, hy, hlive, hover, hstreak, hdegraded, hregistry⟩

end Muster.Probed
