/-
  When does a watch give up?

  A watch counts the failures of its queries since the last one that was answered.  As long as there are fewer
  than configured it waits and asks again; with the last one it gives up, and its service has no watch until
  somebody queries it.

  (1) `streak` — how many failures in a row some news ends with;
  (2) `Settings.GivesUp` — a query fails, and then the service has no watch; `givesUp_iff` is the same, inside the
      backend;
  (3) `counts_run` — along every run a watch has the streak of its news in its own books, and it is below the
      limit;
  (4) `unwatched_iff` — hence in a backend that is open a watch ends EXACTLY with the failure that brings the streak
      to the limit.

  THE CRUX (`Turn.counts`): the news of a watch begins with `begins`, which ends the streak of the watch before it.
-/
import Muster.Proofs.Probed.Mirror
import Muster.Proofs.Watching

namespace Muster.Probed

/-! ## Failures in a row -/

/-- **How many failures in a row some news ends with.** -/
def streak (news : List News) : Nat := (news.reverse.takeWhile (· == .failed)).length

theorem streak_concat_failed (l : List News) : streak (l ++ [.failed]) = streak l + 1 := by
  simp [streak]

/-- Whatever is no failure ends the streak. -/
theorem streak_concat_of_ne {x : News} (h : x ≠ .failed) (l : List News) : streak (l ++ [x]) = 0 := by
  simp [streak, h]

/-- **The books of a watch**: it counts the failures in a row, and there are fewer than would end it. -/
def Watch.Counts (c : Settings) (news : List News) : Watch → Prop
  | .fresh => True
  | .loading .. => streak news = 0
  | .querying _ f | .backingOff _ f => f = streak news ∧ f < c.watch.policy.attempts

/-- A query of the watch of a service is answered. -/
def State.Hears (n : String) (s : State) (a : Act) : Prop :=
  ∃ new l, s.news? n a = some (.result new l)

/-- **The watch of a service gives up**: its query fails, and the service has no watch any more. -/
def Settings.GivesUp (c : Settings) (n : String) (s : State) (a : Act) : Prop :=
  s.news? n a = some .failed ∧ ∃ t, c.act s a = some t ∧ ¬ ∃ k, t.IsWatch n k

section Turns

variable {c : Settings} {s t : State} {id i : Nat} {n : String} {w w' : Watch} {index : UInt64}
  {failures : Nat} {sig : Signal Reply Item} {a : Act} {l : List News}

theorem Watch.attempts_eq (c : Settings) :
    c.watch.policy.attempts = max 1 c.watch.maxConsecutiveFailures.toNat := Nat.max_comm _ _

theorem Watch.attempts_pos (c : Settings) : 0 < c.watch.policy.attempts :=
  Nat.lt_of_lt_of_le Nat.zero_lt_one (Nat.le_max_right _ _)

/-! ## News -/

/-- Only a query that is under way can fail, -/
theorem news?_eq_failed_iff :
    s.news? n a = some .failed ↔ ∃ id index failures f, a = .signal id (.reply (.error f)) ∧
      s.process? id = some (.watch n (.querying index failures)) := by
  constructor
  · intro h
    cases a with
    | signal id sig =>
      obtain ⟨w, hw, hnews⟩ := Option.bind_eq_some_iff.1 h
      rw [role_watchOf?_iff] at hw
      unfold Watch.news? at hnews
      split at hnews
      · cases hnews
      · cases hnews
      · exact ⟨_, _, _, _, rfl, hw⟩
      · cases hnews
    | _ => cases h
  · rintro ⟨id, index, failures, f, rfl, hid⟩
    rw [news?_signal hid]
    rfl

/-- or be answered. -/
theorem news?_eq_result_iff {new : UInt64} {r : List Report} :
    s.news? n a = some (.result new r) ↔ ∃ id index failures,
      a = .signal id (.reply (.ok (.indexed new r))) ∧
        s.process? id = some (.watch n (.querying index failures)) := by
  constructor
  · intro h
    cases a with
    | signal id sig =>
      obtain ⟨w, hw, hnews⟩ := Option.bind_eq_some_iff.1 h
      rw [role_watchOf?_iff] at hw
      unfold Watch.news? at hnews
      split at hnews
      · cases hnews
      · cases hnews
        exact ⟨_, _, _, rfl, hw⟩
      · cases hnews
      · cases hnews
    | _ => cases h
  · rintro ⟨id, index, failures, rfl, hid⟩
    rw [news?_signal hid]
    rfl

theorem newsOf_concat (n : String) (turns : List (State × Act)) (s : State) (a : Act) :
    newsOf n (turns ++ [(s, a)]) = newsOf n turns ++ (s.news? n a).toList := by
  rw [newsOf, List.filterMap_append, ← newsOf]
  cases h : s.news? n a <;> simp [h]

/-! ## Turns -/

/-- A watch that has ended has no successor yet. -/
theorem State.Ends.unwatched (h : s.Ends t id n) (hs : s.Supervised)
    (hid : s.process? id = some (.watch n w)) : ¬ ∃ k, t.IsWatch n k := by
  rintro ⟨k, v, hk⟩
  rw [h.1, Session.process?_finish] at hk
  split at hk
  · cases hk
  · rename_i hne
    exact hne (hs.unique hid hk).1

/-- **What a failure brings about**: a pause before the query is repeated, or the end of the watch. -/
inductive Fails (c : Settings) (s : State) (id : Nat) (n : String) (index : UInt64) (failures : Nat) :
    State → Prop
  | pauses {t : State} : failures < c.watch.policy.attempts → t.flags = s.flags →
      (∀ k, t.process? k = (s.become id (.watch n (.backingOff index failures))).process? k) →
      Fails c s id n index failures t
  | ends {t : State} : c.watch.policy.attempts ≤ failures → t.flags.degraded = true → s.Ends t id n →
      Fails c s id n index failures t

theorem Turn.fails {f : Failure}
    (h : Turn c s id (.watch n (.querying index failures)) (.reply (.error f)) t) :
    Fails c s id n index (failures + 1) t := by
  cases h with
  | backsOff f l hp => exact .pauses (of_decide_eq_true hp) rfl fun _ => rfl
  | givesUp f l hp =>
    have hle : c.watch.policy.attempts ≤ failures + 1 := Nat.not_lt.1 (of_decide_eq_false hp)
    refine .ends hle ?_ (ends_endWatch (by simp) (by simp) (by simp))
    rw [(endWatch_books ..).1]
    split <;> simp

/-- Every failure is taken. -/
theorem fails_act (hid : s.process? id = some (.watch n (.querying index failures))) (f : Failure) :
    ∃ t, c.act s (.signal id (.reply (.error f))) = some t ∧ Fails c s id n index (failures + 1) t := by
  exact ⟨_, c.act_of_process? hid _, Settings.turn_afterFailure.fails⟩

/-- **A watch gives up EXACTLY if its own count is at the limit.** -/
theorem givesUp_iff (hs : s.Supervised) :
    c.GivesUp n s a ↔ ∃ id index failures f, a = .signal id (.reply (.error f)) ∧
      s.process? id = some (.watch n (.querying index failures)) ∧
      c.watch.policy.attempts ≤ failures + 1 := by
  constructor
  · rintro ⟨hnews, t, ht, hover⟩
    obtain ⟨id, index, failures, f, rfl, hid⟩ := news?_eq_failed_iff.1 hnews
    obtain ⟨u, hu, hfails⟩ := fails_act (c := c) hid f
    obtain rfl := Option.some.inj (ht.symm.trans hu)
    refine ⟨id, index, failures, f, rfl, hid, ?_⟩
    cases hfails with
    | pauses _ _ hp => exact absurd ⟨id, _, (hp id).trans (process?_become_self hid)⟩ hover
    | ends hle => exact hle
  · rintro ⟨id, index, failures, f, rfl, hid, hle⟩
    obtain ⟨t, ht, hfails⟩ := fails_act (c := c) hid f
    refine ⟨news?_eq_failed_iff.2 ⟨id, index, failures, f, rfl, hid⟩, t, ht, ?_⟩
    cases hfails with
    | pauses hlt => omega
    | ends _ _ hends => exact hends.unwatched hs hid

/-- **The books stay true while the watch goes on**; and it ends with a failure at the limit, or because the
    backend is closed. -/
theorem Turn.counts (h : Turn c s id (.watch n w) sig t)
    (hid : s.process? id = some (.watch n w)) (hw : w.Counts c l) :
    (∃ w', t.process? id = some (.watch n w') ∧ w'.Counts c (l ++ (w.news? sig).toList)) ∨
      (s.Ends t id n ∧ (w.news? sig = some .failed ∨ s.closed = true)) := by
  have hpos := Watch.attempts_pos c
  -- whoever has been answered begins to count anew
  have hquery {u : State} {p : Process} {i : UInt64} {x : News} (hu : u.process? id = some p)
      (hx : x ≠ .failed) : ∃ w', (c.query u id n i 0).process? id = some (.watch n w') ∧
        w'.Counts c (l ++ [x]) :=
    ⟨_, process?_become_self hu, (streak_concat_of_ne hx l).symm, hpos⟩
  have hsame {v : Watch} {y : Signal Reply Item} (hv : v.news? y = none) :
      l ++ (v.news? y).toList = l := by rw [hv]; exact List.append_nil l
  cases h with
  | begins l => exact .inl (hquery (u := s.note l) hid (by decide))
  | repeats r ls => exact .inl (hquery (((heard_books s ls).2.2.2.1 id).trans hid) (by simp))
  | changes new r ls =>
    have hlive := ((apply_alike n r (s.heard ls)).process? id).trans
      (((heard_books s ls).2.2.2.1 id).trans hid)
    exact .inl (hquery hlive (by simp))
  | sights new r ls =>
    have hlive := ((heard_books s ls).2.2.2.1 id).trans hid
    exact .inl ⟨_, process?_become_self hlive, streak_concat_of_ne (by simp) l⟩
  | backsOff f _ hp =>
    obtain ⟨hf, -⟩ := hw
    refine .inl ⟨_, process?_become_self hid, ?_, of_decide_eq_true hp⟩
    rw [hf]
    exact (streak_concat_failed l).symm
  | givesUp f _ hp => exact .inr ⟨ends_endWatch (by simp) (by simp) (by simp), .inl rfl⟩
  | stops ls hc => exact .inr ⟨ends_endWatch (by simp) (by simp) (by simp), .inr hc⟩
  | @loads _ index r loaded =>
    have hlive := ((apply_alike n r (merge n loaded s)).process? id).trans
      (((merge_alike n loaded s).process? id).trans hid)
    exact .inl ⟨_, process?_become_self hlive, by rw [hsame rfl]; exact hw.symm, hpos⟩
  | @loadFails _ index r _ f line hr =>
    have hlive := ((apply_alike n r (s.note line)).process? id).trans hid
    exact .inl ⟨_, process?_become_self hlive, by rw [hsame rfl]; exact hw.symm, hpos⟩
  | retries => exact .inl ⟨_, process?_become_self hid, by rw [hsame rfl]; exact hw⟩

end Turns

/-! ## Runs -/

/-- **The books of the watch of a service are true** after some turns. -/
def Settings.Counts (c : Settings) (n : String) (past : List (State × Act)) (s : State) : Prop :=
  ∀ k w, s.process? k = some (.watch n w) → w.Counts c (newsOf n past)

section Runs

variable {c : Settings} {s t : State} {n : String} {a : Act} {past turns : List (State × Act)}

theorem counts_act (h : c.act s a = some t) (hn : s.Numbered) (hs : s.Supervised)
    (hc : c.Counts n past s) : c.Counts n (past ++ [(s, a)]) t := by
  intro k v hk
  rw [newsOf_concat]
  rcases Settings.watch_or_beside h hn n with ⟨id, sig, w, rfl, hid, hturn⟩ | ⟨hb, hnews, -⟩
  · rw [news?_signal hid]
    rcases hturn.counts hid (hc id w hid) with ⟨w', hid', hw'⟩ | ⟨hends, -⟩
    · obtain ⟨rfl, rfl⟩ := (supervised_act h hn hs).unique hid' hk
      exact hw'
    · exact absurd ⟨k, v, hk⟩ (hends.unwatched hs hid)
  · rw [hnews, Option.toList_none, List.append_nil]
    rcases hb.only k v (role_watchOf?_iff.2 hk) with hold | rfl
    · exact hc k v (role_watchOf?_iff.1 hold)
    · trivial

/-- **A watch counts right along every run.** -/
theorem counts_run {g : Registry} (h : Run c.act (.over g) turns s) (n : String) :
    c.Counts n turns s := by
  refine (h.history (fun past u => (u.Numbered ∧ u.Supervised) ∧ c.Counts n past u)
    ⟨⟨numbered_over g, supervised_over g⟩, fun _ _ hk => nomatch hk⟩ ?_).2
  rintro past u a v - ⟨⟨hn, hs⟩, hc⟩ ha
  exact ⟨⟨numbered_act ha hn, supervised_act ha hn hs⟩, counts_act ha hn hs hc⟩

/-- **In a backend that is open a watch ends EXACTLY with the failure that brings the streak to the limit.** -/
theorem unwatched_iff (h : c.act s a = some t) (hn : s.Numbered) (hs : s.Supervised)
    (hc : c.Counts n past s) (hopen : s.closed = false) (live : ∃ k, s.IsWatch n k) :
    (¬ ∃ k, t.IsWatch n k) ↔ s.news? n a = some .failed ∧
      streak (newsOf n (past ++ [(s, a)])) = c.watch.policy.attempts := by
  by_cases hf : s.news? n a = some .failed
  · obtain ⟨id, index, failures, f, rfl, hid⟩ := news?_eq_failed_iff.1 hf
    obtain ⟨hcount, hlt⟩ := hc id _ hid
    obtain ⟨u, hu, hfails⟩ := fails_act (c := c) hid f
    obtain rfl := Option.some.inj (h.symm.trans hu)
    rw [newsOf_concat, hf, Option.toList_some, streak_concat_failed, ← hcount]
    cases hfails with
    | pauses hmore _ hp =>
      refine iff_of_false (fun hno => hno ⟨id, _, (hp id).trans (process?_become_self hid)⟩) ?_
      rintro ⟨-, heq⟩
      omega
    | ends hle _ hends =>
      exact iff_of_true (hends.unwatched hs hid) ⟨rfl, by omega⟩
  · refine iff_of_false (fun hno => hno ?_) fun hand => hf hand.1
    rcases Settings.watch_or_beside h hn n with ⟨id, sig, w, rfl, hid, hturn⟩ | ⟨hb, -, -⟩
    · rw [news?_signal hid] at hf
      rcases hturn.counts hid (hc id w hid) with ⟨w', hid', -⟩ | ⟨-, hfail | hclosed⟩
      · exact ⟨id, w', hid'⟩
      · exact absurd hfail hf
      · rw [hopen] at hclosed
        cases hclosed
    · obtain ⟨k, w, hk⟩ := live
      exact ⟨k, w, role_watchOf?_iff.1 (hb.keeps k w (role_watchOf?_iff.2 hk))⟩

end Runs

end Muster.Probed
