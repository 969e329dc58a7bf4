/-
  A query of a service that nobody has asked for.

  The service is not cached, and nobody watches it.  The query asks the agent, once, and whatever the agent does
  it returns: when it is answered, or when its time is up.

  (1) `State.Cold` — nothing is known of the service, and the backend is open; `cold_act_iff` says what ends that;
  (2) `ComesIn` — who is in the cache afterwards: of the reports that COUNT, which are those that pass, or all if
      none passes, the first one of each endpoint;
  (3) `mem_loaded_iff` — so it is, whatever is reported;
  (4) `Query.Answered` — what the query does while it waits, when it fails, and when it is answered;
  (5) `cold_query` — along every run on a clock.

  THE CRUX (`eligible_eq_filter`): the reports that count are a part of all reports in the same order, so that the
  first of them at an endpoint is the one that an insertion keeps.
-/
import Muster.Proofs.Probed.Patience

namespace Muster.Probed

/-! ## What counts -/

/-- **A report counts** if it passes, or if none does. -/
def Report.CountsIn (l : List Report) (r : Report) : Prop :=
  r.status = .passing ∨ ∀ q ∈ l, q.status ≠ .passing

instance (l : List Report) (r : Report) : Decidable (r.CountsIn l) :=
  inferInstanceAs (Decidable (_ ∨ _))

/-- **An instance comes in**: it has the first report at its endpoint that counts. -/
def ComesIn (l : List Report) (i : Instance) : Prop :=
  ∃ front r back, l = front ++ r :: back ∧ r.service = i ∧ r.CountsIn l ∧
    ∀ q ∈ front, q.CountsIn l → q.service.endpoint ≠ i.endpoint

section Loads

variable {l : List Report} {i : Instance} {m : Members} {e : String}

/-- **A load takes the reports that count**, in their order. -/
theorem eligible_eq_filter (l : List Report) :
    eligible l = (l.filter fun r => decide (r.CountsIn l)).map (·.service) := by
  have hpasses (r : Report) : r.status.isPassing = true ↔ r.status = .passing := beq_iff_eq
  unfold eligible
  dsimp only
  congr 1
  cases h : (l.filter fun r => r.status.isPassing).isEmpty with
  | true =>
    -- nobody passes, so everybody counts
    have hnone : ∀ q ∈ l, q.status ≠ .passing := fun q hq hp =>
      List.filter_eq_nil_iff.1 (List.isEmpty_iff.1 h) q hq ((hpasses q).2 hp)
    have hall : ∀ r ∈ l, decide (r.CountsIn l) = true := fun r _ => decide_eq_true (.inr hnone)
    rw [if_pos rfl, List.filter_eq_self.2 hall]
  | false =>
    have hsome : (l.filter fun r => r.status.isPassing) ≠ [] := List.isEmpty_eq_false_iff.1 h
    obtain ⟨q, hq⟩ := List.exists_mem_of_ne_nil _ hsome
    obtain ⟨hq, hp⟩ := List.mem_filter.1 hq
    rw [if_neg (by decide)]
    refine List.filter_congr fun r _ => ?_
    have hcounts : r.CountsIn l ↔ r.status.isPassing = true :=
      (or_iff_left fun hnone => hnone q hq ((hpasses q).1 hp)).trans (hpasses r).symm
    rw [Bool.eq_iff_iff, decide_eq_true_iff, hcounts]

/-- Of several instances at an endpoint the one that was there first stays, and then the first that comes. -/
theorem get?_foldl_insert (is : List Instance) (m : Members) (e : String) :
    (is.foldl Members.insert m).get? e = (m.get? e).or (is.find? fun i => i.endpoint == e) := by
  induction is generalizing m with
  | nil => rw [List.foldl_nil, List.find?_nil, Option.or_none]
  | cons i is ih =>
    rw [List.foldl_cons, ih, Members.get?_insert, Option.or_assoc, List.find?_cons]
    by_cases h : i.endpoint = e
    · rw [if_pos h, beq_iff_eq.2 h]
      rfl
    · rw [if_neg h, beq_eq_false_iff_ne.2 h]
      rfl

/-- **Whoever is loaded comes in**, and nobody else. -/
theorem mem_loaded_iff : i ∈ ((eligible l).foldl Members.insert .empty).list ↔ ComesIn l i := by
  rw [Members.mem_list_iff, get?_foldl_insert, Members.get?_empty, Option.none_or, eligible_eq_filter,
    List.find?_map, List.find?_filter, Option.map_eq_some_iff]
  constructor
  · rintro ⟨r, hr, rfl⟩
    obtain ⟨hcounts, front, back, rfl, hfront⟩ := List.find?_eq_some_iff_append.1 hr
    simp only [Function.comp_apply, decide_eq_true_eq, beq_iff_eq] at hcounts
    refine ⟨front, r, back, rfl, rfl, hcounts.1, fun q hq hc he => ?_⟩
    have hno := hfront q hq
    simp [hc, he] at hno
  · rintro ⟨front, r, back, rfl, rfl, hcounts, hfront⟩
    refine ⟨r, List.find?_eq_some_iff_append.2 ⟨by simp [hcounts], front, back, rfl, fun q hq => ?_⟩, rfl⟩
    by_cases hc : q.CountsIn (front ++ r :: back)
    · simp [hfront q hq hc]
    · simp [hc]

/-- **Every endpoint that counts is taken by somebody.** -/
theorem exists_comesIn {r : Report} (hr : r ∈ l) (hc : r.CountsIn l) :
    ∃ i, ComesIn l i ∧ i.endpoint = r.service.endpoint := by
  have hmem : r.service ∈ eligible l := by
    rw [eligible_eq_filter]
    exact List.mem_map_of_mem (List.mem_filter.2 ⟨hr, decide_eq_true hc⟩)
  have hsome : ((eligible l).find? fun i => i.endpoint == r.service.endpoint).isSome = true :=
    List.find?_isSome.2 ⟨_, hmem, beq_iff_eq.2 rfl⟩
  obtain ⟨i, hi⟩ := Option.isSome_iff_exists.1 hsome
  have he : i.endpoint = r.service.endpoint := by simpa using List.find?_some hi
  refine ⟨i, mem_loaded_iff.1 (Members.mem_list_iff.2 ?_), he⟩
  rw [get?_foldl_insert, Members.get?_empty, Option.none_or, he, hi]

/-- **What a load leaves under a name that was not known.** -/
theorem get?_merge_of_none {s : State} {n : String} (h : s.registry.get? n = none) (l : List Report) :
    (merge n l s).registry.get? n =
      if l = [] then none else some ((eligible l).foldl Members.insert .empty) := by
  rw [merge_registry]
  by_cases hl : l = []
  · rw [if_pos (List.isEmpty_iff.2 hl), if_pos hl, h]
  · rw [if_neg fun he => hl (List.isEmpty_iff.1 he), if_neg hl, get?_insertAll, Registry.members, h]
    rfl

end Loads

/-! ## Services that nobody has asked for -/

/-- **Nothing is known of a service**: it is neither cached nor watched, and the backend is open. -/
structure State.Cold (s : State) (n : String) : Prop where
  unknown : s.registry.get? n = none
  unwatched : ¬ ∃ k, s.IsWatch n k
  opened : s.closed = false

section Colds

variable {c : Settings} {s t : State} {n : String} {a : Act} {id : Nat} {l : List Report}

/-- Nobody but a shutdown and the end of the backend closes it. -/
theorem closed_act (h : c.act s a = some t) (hs : s.Upright .closing) :
    t.closed = true ↔ s.closed = true ∨ a = .call .shutdown ∨ a = .drop := by
  cases a with
  | call k =>
    obtain rfl := Option.some.inj h
    by_cases hk : k = .shutdown
    · subst hk
      exact iff_of_true rfl (.inr (.inl rfl))
    · rw [(c.edits_call s hk).closed_eq]
      simp [hk]
  | signal id sig =>
    obtain ⟨p, hp, hturn⟩ := Settings.turn h
    rw [(hturn.edits (hs.orderly.lt_nextId hp)).closed_eq]
    simp
  | abandon id =>
    obtain ⟨-, -, -, rfl⟩ := Settings.act_abandon_iff.1 h
    simp
  | drop =>
    obtain rfl := Option.some.inj h
    exact iff_of_true rfl (.inr (.inr rfl))

/-- What an act finds for a service is the answer to a query of it. -/
theorem found?_eq_some_iff : s.found? n a = some l ↔
    ∃ id, a = .signal id (.reply (.ok (.reports l))) ∧ s.process? id = some (.querying n) := by
  unfold State.found?
  split
  · rename_i id l'
    rw [Option.ite_none_right_eq_some]
    constructor
    · rintro ⟨hid, he⟩
      obtain rfl := Option.some.inj he
      exact ⟨id, rfl, hid⟩
    · rintro ⟨k, he, hk⟩
      obtain ⟨rfl, hr⟩ := Act.signal.inj he
      obtain rfl := Reply.reports.inj (Except.ok.inj (Signal.reply.inj hr))
      exact ⟨hk, rfl⟩
  · rename_i hno
    refine iff_of_false (fun h => nomatch h) ?_
    rintro ⟨k, rfl, -⟩
    exact hno k l rfl

/-- The state in which a query of a service has been answered. -/
def State.answered (s : State) (id : Nat) (n : String) (l : List Report) : State :=
  let u := ensureWatch n (merge n l s)
  u.answer id (.instances (u.registry.members n).list)

theorem act_answered (c : Settings) (hid : s.process? id = some (.querying n)) (l : List Report) :
    c.act s (.signal id (.reply (.ok (.reports l)))) = some (s.answered id n l) :=
  c.act_of_process? hid _

/-- Where nobody watches a service, its query starts a watch. -/
theorem ensureWatch_merge (hs : s.Supervised) (cold : s.Cold n) (l : List Report) :
    ensureWatch n (merge n l s) =
      Session.spawn { merge n l s with own := ⟨s.own.services ++ [n]⟩ } (.watch n .fresh) := by
  have ha := merge_alike n l s
  have hidle : (merge n l s).isWatched n = false := by
    refine Bool.eq_false_iff.2 fun hb => cold.unwatched ((mem_services_iff hs).1 ?_)
    rw [State.isWatched, ha.own] at hb
    simpa using hb
  rw [ensureWatch_of_idle (ha.closed.trans cold.opened) hidle, ha.own]

/-- **After the answer the processes are the others, and ONE watch.** -/
theorem process?_answered (hs : s.Supervised) (cold : s.Cold n) (hn : s.Numbered) (l : List Report) (id j : Nat) :
    (s.answered id n l).process? j =
      if j = id then none else if j = s.nextId then some (.watch n .fresh) else s.process? j := by
  have ha := merge_alike n l s
  let u : State := { merge n l s with own := ⟨s.own.services ++ [n]⟩ }
  have hstarts : (u.spawn (.watch n .fresh)).process? j =
      if j = s.nextId then some (.watch n .fresh) else s.process? j := by
    have hu : u.Numbered := ha.numbered hn
    rw [hu.process?_spawn, ← ha.process? j, ← ha.nextId]
    rfl
  show (Session.finish (ensureWatch n (merge n l s)) id).process? j = _
  rw [Session.process?_finish, ensureWatch_merge hs cold l, hstarts]

/-- **Something becomes known of a service**, or the backend is closed. -/
def State.Warms (n : String) (s : State) (a : Act) : Prop :=
  a = .call .shutdown ∨ a = .drop ∨ ∃ l, s.found? n a = some l

/-- A call for a service that is not cached only asks for it. -/
theorem call_of_unknown (h : s.registry.get? n = none) :
    c.call s (.instances n) = s.begin (.instances n c.scope) (.querying n) := by
  rw [Settings.call, h]

/-- **Whatever warms a service ends that nobody has asked for it.** -/
theorem not_cold_of_warms (h : c.act s a = some t) (hu : s.Upright .closing) (hs : s.Supervised) (cold : s.Cold n)
    (hwarm : s.Warms n a) : ¬ t.Cold n := by
  rintro ⟨-, hwatch, hopen⟩
  rcases hwarm with hshut | hdrop | ⟨l, hl⟩
  · exact absurd ((closed_act h hu).2 (.inr (.inl hshut))) (by simp [hopen])
  · exact absurd ((closed_act h hu).2 (.inr (.inr hdrop))) (by simp [hopen])
  · obtain ⟨id, rfl, hid⟩ := found?_eq_some_iff.1 hl
    obtain rfl := Option.some.inj ((act_answered c hid l).symm.trans h)
    refine hwatch ⟨s.nextId, .fresh, ?_⟩
    rw [process?_answered hs cold hu.orderly.numbered, if_neg (hu.orderly.numbered.ne_nextId hid).symm,
      if_pos rfl]

/-- **Only an answer starts a watch** of a service that nobody has asked for. -/
theorem unwatched_act (h : c.act s a = some t) (hu : s.Upright .closing) (hs : s.Supervised) (cold : s.Cold n)
    (hnone : s.found? n a = none) : ¬ ∃ k, t.IsWatch n k := by
  intro hwatch
  have ht := supervised_act h hu.orderly.numbered hs
  rcases mem_services_act h ((mem_services_iff ht).2 hwatch) with hold | rfl | ⟨id, sig, rfl, hid⟩
  · exact cold.unwatched ((mem_services_iff hs).1 hold)
  · -- a call only asks, since the service is not cached
    obtain rfl := Option.some.inj h
    obtain ⟨k, w, hk⟩ := hwatch
    rw [call_of_unknown cold.unknown] at hk
    have hrole := Session.role_begin_none (f := Process.watchOf? n) hu.orderly.numbered
      (.instances n c.scope) (q := .querying n) rfl k
    rw [role_watchOf?_iff.2 hk] at hrole
    exact cold.unwatched ⟨k, w, role_watchOf?_iff.1 hrole.symm⟩
  · obtain ⟨p, hp, hturn⟩ := Settings.turn h
    obtain rfl := Option.some.inj (hid.symm.trans hp)
    cases hturn with
    | finds l o =>
      have hsome : s.found? n (.signal id (.reply (.ok (.reports l)))) = some l :=
        found?_eq_some_iff.2 ⟨id, rfl, hid⟩
      cases hnone.symm.trans hsome
    | findFails f line =>
      obtain ⟨k, w, hk⟩ := hwatch
      have hfinish : (s.finish id).process? k = some (.watch n w) := hk
      rw [Session.process?_finish] at hfinish
      split at hfinish
      · cases hfinish
      · exact cold.unwatched ⟨k, w, hfinish⟩

/-- **A service that nobody has asked for** stays so EXACTLY unless the backend is closed, or a query of the service
    is answered. -/
theorem cold_act_iff (h : c.act s a = some t) (hu : s.Upright .closing) (hs : s.Supervised) (cold : s.Cold n) :
    t.Cold n ↔ ¬ s.Warms n a := by
  constructor
  · exact fun hcold hwarm => not_cold_of_warms h hu hs cold hwarm hcold
  · intro hno
    obtain ⟨hshut, hdrop, hfound⟩ := (not_or.1 hno).imp id not_or.1
    have hnone : s.found? n a = none := Option.eq_none_iff_forall_ne_some.2 fun l hl => hfound ⟨l, hl⟩
    refine ⟨?_, unwatched_act h hu hs cold hnone, Bool.eq_false_iff.2 fun hclosed => ?_⟩
    · have hno (id : Nat) (sig : Signal Reply Item) (w : Watch) (_ : a = .signal id sig) :
          s.process? id ≠ some (.watch n w) := fun hid => cold.unwatched ⟨id, w, hid⟩
      rw [found_act h hno, hnone]
      exact cold.unknown
    · rcases (closed_act h hu).1 hclosed with hc | hc | hc
      · exact absurd (cold.opened.symm.trans hc) (by decide)
      · exact hshut hc
      · exact hdrop hc

end Colds

/-! ## A query -/

/-- **A query of a service that nobody has asked for**, along a run on a clock, before it is answered. -/
structure Query (c : Settings) where
  service : String
  past : List (Timed State × Tick Act)
  /-- When the call is made. -/
  caller : Timed State
  reached : Run c.tick (.start .initial) past caller
  cold : caller.session.Cold service
  asked : Timed State
  call : c.tick caller (.act (.call (.instances service))) = some asked
  since : List (Timed State × Tick Act)
  now : Timed State
  run : Run c.tick asked since now
  /-- The query has not been answered, nor given up. -/
  still : Still caller.session.nextId since

/-- **Nothing was brought**: the call returns no instances, and all else is as it was. -/
structure Fruitless (id : Nat) (s t : State) : Prop where
  returned : t.returns = (id, .instances []) :: s.returns
  cached : t.registry = s.registry
  processes : ∀ j, t.process? j = if j = id then none else s.process? j
  watched : t.own = s.own

/-- **The reports were brought**: they are in the cache and in the answer, and the service is watched. -/
structure Brought (n : String) (l : List Report) (id : Nat) (s t : State) : Prop where
  /-- The answer holds whoever comes in, one for each endpoint that counts, and is what is cached. -/
  answer : ∃ list, t.returns = (id, .instances list) :: s.returns ∧
    (list.map Instance.endpoint).Nodup ∧ (∀ i, i ∈ list ↔ ComesIn l i) ∧
    (∀ r ∈ l, r.CountsIn l → ∃ i ∈ list, i.endpoint = r.service.endpoint) ∧
    (t.registry.get? n).map Members.list = if l = [] then none else some list
  /-- An answer without instances changes nothing in the cache, -/
  empty : l = [] → (id, .instances []) ∈ t.returns ∧ t.registry = s.registry
  /-- and no answer anything of another service. -/
  others : s.registry.Only n t.registry
  /-- ONE watch is started, and all other processes are as they were. -/
  watch : ∃ k, k ≠ id ∧ s.process? k = none ∧ (∀ j, t.IsWatch n j ↔ j = k) ∧
    ∀ j, t.process? j = if j = id then none else if j = k then some (.watch n .fresh) else s.process? j

/-- **What a query does.** -/
structure Query.Answered {c : Settings} (x : Query c) : Prop where
  /-- It asks the agent, once, and waits. -/
  asks : x.asked.session.requests =
      (x.caller.session.nextId, .instances x.service c.scope) :: x.caller.session.requests ∧
    x.asked.session.returns = x.caller.session.returns
  waits : x.now.session.process? x.caller.session.nextId = some (.querying x.service)
  /-- It never waits beyond its limit, and then it can give up. -/
  timely : x.now.now ≤ x.caller.now + c.requestTimeout.toNanos ∧
    (x.now.now = x.caller.now + c.requestTimeout.toNanos →
      (c.tick x.now (.act (.signal x.caller.session.nextId .timeout))).isSome = true)
  /-- It takes every answer, and every failure. -/
  takes : ∀ r : Except Failure (List Report),
    (c.tick x.now (.act (.signal x.caller.session.nextId (.reply (r.map .reports))))).isSome = true
  /-- Nothing else ends it, but its caller. -/
  ends : ∀ a y, c.tick x.now (.act a) = some y → a.number x.now.session = x.caller.session.nextId →
    (∃ r : Except Failure (List Report), a = .signal x.caller.session.nextId (.reply (r.map .reports))) ∨
      (a = .signal x.caller.session.nextId .timeout ∧
        x.now.now = x.caller.now + c.requestTimeout.toNanos) ∨
      a = .abandon x.caller.session.nextId
  /-- Nothing is known of the service until the backend is closed, or another query of it is answered. -/
  cools : (∀ q ∈ x.since, ∀ a, q.2 = .act a → ¬ q.1.session.Warms x.service a) → x.now.session.Cold x.service
  /-- If it fails, or its time is up, it has brought nothing. -/
  fails : ∀ sig y, (sig = .timeout ∨ ∃ f, sig = .reply (.error f)) →
    c.tick x.now (.act (.signal x.caller.session.nextId sig)) = some y →
      Fruitless x.caller.session.nextId x.now.session y.session
  /-- If it is answered, it has brought the reports. -/
  brings : x.now.session.Cold x.service → ∀ l y,
    c.tick x.now (.act (.signal x.caller.session.nextId (.reply (.ok (.reports l))))) = some y →
      Brought x.service l x.caller.session.nextId x.now.session y.session

section Answers

variable {c : Settings} {s t : State} {n : String} {id : Nat}

/-- A load returns nothing, and no more does a watch that is started. -/
theorem returns_ensureWatch_merge (n : String) (l : List Report) (s : State) :
    (ensureWatch n (merge n l s)).returns = s.returns := by
  have hmerge : (merge n l s).returns = s.returns := by
    unfold merge
    split
    · rfl
    · dsimp only
      split <;> rfl
  unfold ensureWatch
  split
  · exact hmerge
  · exact hmerge

/-- **A query that fails brings nothing.** -/
theorem fruitless_act {sig : Signal Reply Item} (hid : s.process? id = some (.querying n))
    (hsig : sig = .timeout ∨ ∃ f, sig = .reply (.error f)) (h : c.act s (.signal id sig) = some t) :
    Fruitless id s t := by
  rw [c.act_of_process? hid] at h
  rcases hsig with rfl | ⟨f, rfl⟩
  all_goals
    obtain rfl := Option.some.inj h
    exact ⟨rfl, rfl, fun j => Session.process?_finish s id j, rfl⟩

/-- **A query that is answered brings the reports.** -/
theorem brought_answered (hs : s.Supervised) (ho : s.Orderly) (cold : s.Cold n)
    (hid : s.process? id = some (.querying n)) (l : List Report) :
    Brought n l id s (s.answered id n l) := by
  let m : Members := (eligible l).foldl Members.insert .empty
  have hregistry : (s.answered id n l).registry = (merge n l s).registry := (ensureWatch_books ..).2.1
  have hget := get?_merge_of_none cold.unknown l
  -- without reports, nobody comes in
  have hmembers : (ensureWatch n (merge n l s)).registry.members n = m := by
    rw [(ensureWatch_books ..).2.1, Registry.members, hget]
    by_cases hl : l = []
    · subst hl
      rfl
    · rw [if_neg hl]
      rfl
  have hreturned : (s.answered id n l).returns = (id, .instances m.list) :: s.returns := by
    show (id, .instances ((ensureWatch n (merge n l s)).registry.members n).list) ::
      (ensureWatch n (merge n l s)).returns = _
    rw [hmembers, returns_ensureWatch_merge]
  have hproc := process?_answered hs cold ho.numbered l id
  have hnew : s.nextId ≠ id := (ho.numbered.ne_nextId hid).symm
  constructor
  case answer =>
    refine ⟨m.list, hreturned, m.distinct, fun i => mem_loaded_iff, fun r hr hc => ?_, ?_⟩
    · obtain ⟨i, hi, he⟩ := exists_comesIn hr hc
      exact ⟨i, mem_loaded_iff.2 hi, he⟩
    · rw [hregistry, hget]
      split <;> rfl
  case empty =>
    rintro rfl
    refine ⟨by rw [hreturned]; exact List.mem_cons_self .., ?_⟩
    rw [hregistry, merge_registry]
    rfl
  case others =>
    rw [hregistry]
    exact merge_only n l s
  case watch =>
    refine ⟨s.nextId, hnew, ho.numbered.process?_nextId, fun j => ?_, hproc⟩
    constructor
    · rintro ⟨w, hw⟩
      rw [hproc] at hw
      split at hw
      · cases hw
      · split at hw
        · assumption
        · exact absurd ⟨j, w, hw⟩ cold.unwatched
    · rintro rfl
      exact ⟨.fresh, by rw [hproc, if_neg hnew, if_pos rfl]⟩

end Answers

/-! ## The theorem -/

namespace Query

variable {c : Settings} (x : Query c)

/-- The number of the call. -/
def id : Nat := x.caller.session.nextId

theorem whole : Run c.tick (.start .initial)
    (x.past ++ (x.caller, .act (.call (.instances x.service))) :: x.since) x.now :=
  Run.append_iff.2 ⟨x.caller, x.reached, .cons x.call x.run⟩

/-- **A call for a service that is not cached** asks for it. -/
theorem asked_eq : x.asked = c.clockwork.stamp x.caller (.call (.instances x.service))
    (x.caller.session.begin (.instances x.service c.scope) (.querying x.service)) := by
  obtain ⟨-, t, ht, he⟩ := Clockwork.tick_act_iff.1 x.call
  obtain rfl := Option.some.inj ht
  rw [he, call_of_unknown x.cold.unknown]

/-- **The query waits since it was made.** -/
theorem waiting : c.clockwork.Punctual x.now ∧
    x.now.session.process? x.id = some (.querying x.service) ∧ x.now.since x.id = x.caller.now := by
  have hcaller := punctual_run x.reached
  have hn := hcaller.upright.orderly.numbered
  have hlive : x.asked.session.process? x.id = some (.querying x.service) := by
    rw [x.asked_eq]
    refine process?_become_self (p := .querying x.service) ?_
    rw [Session.process?_spawn, id, hn.process?_nextId, if_pos rfl]
    rfl
  have hsince : x.asked.since x.id = x.caller.now := by
    rw [x.asked_eq]
    exact if_pos (.inl rfl)
  obtain ⟨hnow, hid, hwaits⟩ := still_run x.run (hcaller.tick x.call) hlive x.still
  exact ⟨hnow, hid, hwaits.trans hsince⟩

theorem due?_now : c.clockwork.due? x.now x.id = some (x.caller.now + c.requestTimeout.toNanos) := by
  obtain ⟨-, hid, hsince⟩ := x.waiting
  rw [Clockwork.due?, hid, hsince]
  rfl

/-- **What ends the wait of a query**: an answer, a failure, its limit, or its caller. -/
theorem ends {a : Act} {y : Timed State} (h : c.tick x.now (.act a) = some y)
    (hself : a.number x.now.session = x.id) :
    (∃ r : Except Failure (List Report), a = .signal x.id (.reply (r.map .reports))) ∨
      (a = .signal x.id .timeout ∧ x.now.now = x.caller.now + c.requestTimeout.toNanos) ∨
      a = .abandon x.id := by
  obtain ⟨hnow, hid, -⟩ := x.waiting
  obtain ⟨-, t, ht, -⟩ := Clockwork.tick_act_iff.1 h
  rcases signal_or_abandon ht (hnow.upright.orderly.lt_nextId hid) hself with
    ⟨sig, p, rfl, hp, hturn⟩ | ⟨p, rfl, -⟩
  · obtain rfl := Option.some.inj (hid.symm.trans hp)
    cases hturn with
    | finds l o => exact .inl ⟨.ok l, rfl⟩
    | findFails f line hr =>
      cases sig with
      | reply r =>
        obtain rfl := Option.some.inj hr
        exact .inl ⟨.error f, rfl⟩
      | timeout => exact .inr (.inl ⟨rfl, hnow.now_eq h rfl x.due?_now⟩)
      | _ => cases hr
  · exact .inr (.inr rfl)

/-- **Nothing becomes known of the service by itself.** -/
theorem cools (quiet : ∀ q ∈ x.since, ∀ a, q.2 = .act a → ¬ q.1.session.Warms x.service a) :
    x.now.session.Cold x.service := by
  -- from the call on; it only asks, and so warms nothing
  have hstart : x.caller.session.Upright .closing ∧ x.caller.session.Supervised ∧ x.caller.session.Cold x.service :=
    ⟨(punctual_run x.reached).upright, (supervised_run (g := .empty) (Clockwork.untimed x.reached)).2, x.cold⟩
  have hrun : Run c.tick x.caller ((x.caller, .act (.call (.instances x.service))) :: x.since) x.now :=
    .cons x.call x.run
  have hquiet : ∀ q ∈ (x.caller, Tick.act (.call (.instances x.service))) :: x.since, ∀ a, q.2 = .act a →
      ¬ q.1.session.Warms x.service a := by
    refine List.forall_mem_cons.2 ⟨?_, quiet⟩
    rintro a ha (he | he | ⟨l, hl⟩)
    all_goals obtain rfl := Tick.act.inj ha
    · cases he
    · cases he
    · cases hl
  refine (hrun.invariant (fun u : Timed State => u.session.Upright .closing ∧ u.session.Supervised ∧
    u.session.Cold x.service) hstart ?_).2.2
  rintro ⟨u, b⟩ hmem v ⟨hu, hs, hcold⟩ hb
  cases b with
  | pass time =>
    obtain ⟨-, rfl⟩ := Clockwork.tick_pass_iff.1 hb
    exact ⟨hu, hs, hcold⟩
  | act a =>
    obtain ⟨-, t, ht, rfl⟩ := Clockwork.tick_act_iff.1 hb
    exact ⟨(upright_act ht hu).2, supervised_act ht hu.orderly.numbered hs,
      (cold_act_iff ht hu hs hcold).2 (hquiet _ hmem a rfl)⟩

end Query

/-- **What a query of a service that nobody has asked for does**, along every run on a clock. -/
theorem cold_query {c : Settings} (x : Query c) : x.Answered := by
  obtain ⟨hnow, hid, -⟩ := x.waiting
  have hs : x.now.session.Supervised := (supervised_run (g := .empty) (Clockwork.untimed x.whole)).2
  have hact {a : Act} {y : Timed State} (h : c.tick x.now (.act a) = some y) :
      c.act x.now.session a = some y.session := by
    obtain ⟨-, t, ht, rfl⟩ := Clockwork.tick_act_iff.1 h
    exact ht
  constructor
  case asks =>
    rw [x.asked_eq]
    exact ⟨rfl, rfl⟩
  case waits => exact hid
  case timely =>
    refine ⟨hnow.due _ _ x.due?_now, fun hlate => ?_⟩
    refine Clockwork.isSome_tick_of_due rfl x.due?_now (Nat.le_of_eq hlate.symm) ?_
    exact congrArg Option.isSome (c.act_of_process? hid .timeout)
  case takes =>
    intro r
    have htakes : (c.act x.now.session (.signal x.id (.reply (r.map .reports)))).isSome = true := by
      rw [c.act_of_process? hid]
      cases r <;> rfl
    obtain ⟨t, ht⟩ := Option.isSome_iff_exists.1 htakes
    exact Option.isSome_iff_exists.2 ⟨_, Clockwork.tick_of_no_alarm rfl ht⟩
  case ends => exact fun a y h hself => x.ends h hself
  case cools => exact x.cools
  case fails => exact fun sig y hsig h => fruitless_act hid hsig (hact h)
  case brings =>
    intro cold l y h
    have he := Option.some.inj ((act_answered c hid l).symm.trans (hact h))
    rw [← he]
    exact brought_answered hs hnow.upright.orderly cold hid l

/-- A service is reported four times, at two endpoints; at one of them it passes, under two names.  The query waits
    for a millisecond, and brings the one that was reported first. -/
theorem cold_query_mixed : ∃ (c : Settings) (x : Query c) (l : List Report) (y : Timed State), x.Answered ∧
    x.service = "order" ∧ x.now.now = 1000000 ∧ l.length = 4 ∧
    c.tick x.now (.act (.signal x.caller.session.nextId (.reply (.ok (.reports l))))) = some y ∧
    Brought "order" l x.caller.session.nextId x.now.session y.session ∧
    (y.session.registry.get? "order").map Members.list = some [⟨"order", "10.0.0.2", 9000⟩] := by
  let l : List Report := [⟨⟨"order", "10.0.0.1", 9000⟩, .critical⟩, ⟨⟨"order", "10.0.0.2", 9000⟩, .passing⟩,
    ⟨⟨"payment", "10.0.0.2", 9000⟩, .passing⟩, ⟨⟨"order", "10.0.0.1", 9000⟩, .warning⟩]
  let start : Timed State := .start .initial
  have hall : ((Settings.sample.tick start (.act (.call (.instances "order")))).bind fun u =>
      (Settings.sample.tick u (.pass 1000000)).bind fun v =>
        (Settings.sample.tick v (.act (.signal 0 (.reply (.ok (.reports l)))))).map fun y =>
          (v.now, (y.session.registry.get? "order").map Members.list)) =
      some (1000000, some [⟨"order", "10.0.0.2", 9000⟩]) := by
    decide +kernel
  obtain ⟨u, hu, hall⟩ := Option.bind_eq_some_iff.1 hall
  obtain ⟨v, hv, hall⟩ := Option.bind_eq_some_iff.1 hall
  obtain ⟨y, hy, hall⟩ := Option.map_eq_some_iff.1 hall
  obtain ⟨hnow, hlist⟩ := Prod.mk.inj hall
  have hcold : start.session.Cold "order" := ⟨rfl, fun ⟨_, _, hk⟩ => (nomatch hk), rfl⟩
  -- while it waits, only time passes
  have honly (q : Timed State × Tick Act) (hq : q ∈ [(u, Tick.pass 1000000)]) (a : Act) : q.2 ≠ .act a := by
    obtain rfl := List.mem_singleton.1 hq
    exact fun he => nomatch he
  let x : Query .sample :=
    { service := "order", past := [], caller := start, reached := .nil start, cold := hcold, asked := u,
      call := hu, since := [(u, .pass 1000000)], now := v, run := .single hv,
      still := fun q hq a ha => absurd ha (honly q hq a) }
  have hx := cold_query x
  have hwarm : v.session.Cold "order" := hx.cools fun q hq a ha => absurd ha (honly q hq a)
  exact ⟨.sample, x, l, y, hx, rfl, hnow, rfl, hy, hx.brings hwarm l y hy, hlist⟩

end Muster.Probed
