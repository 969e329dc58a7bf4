/-
  Do the books know which tasks work on the registration?

  A backend keeps three entries about its tasks: whether a lost registration is being restored, which
  task is in charge of the renewals, and under which lease the registration is.  Tasks outlive all of
  these.  Whoever renews a lease that was dropped can still be told of the end of the renewals, and
  must make nothing of it.

  (1) `Recorded` — what the books say after all that has happened: whoever was DISPLACED is not in charge,
      whoever renews and was not displaced is, and a lease that was dropped is spent;
  (2) `recorded_run` — it is so along every run in which no lease is granted twice;
  (3) `tasks_accounted` — hence the tasks are accounted for: restoring is noted exactly while one task
      restores, at most one task that renews is not cancelled, and it is the one in the books, with the
      lease of the registration; all others can end without a trace.

  A task is cancelled, here, when something has happened that cancels it.  The machine looks at its books
  instead (`State.isCancelled`); that this is the same is one of the results.
-/
import Muster.Proofs.Leased.Leases

namespace Muster.Leased

/-! ## Who is displaced -/

/-- **The task in charge is displaced**: the registration is replaced or given up. -/
def State.Displaces (s : State) (k : Nat) (a : Act) : Prop := s.own.renewal = some k ∧ s.Replaces a

/-- **A task is cancelled**: it was displaced, or the backend is closed. -/
def Cancelled (turns : List (State × Act)) (s : State) (k : Nat) : Prop :=
  s.closed = true ∨ ∃ p ∈ turns, p.1.Displaces k p.2

section Charge

variable {s t : State} {a : Act} {k : Nat} {lease : Int}

/-- Whoever is in charge after an act was in charge before, or has just begun. -/
theorem Handover.charged (h : Handover s a t) (hk : t.own.renewal = some k) :
    (s.own.renewal = some k ∧ ¬ s.Replaces a) ∨ (k = s.nextId ∧ s.nextId < t.nextId) := by
  cases h with
  | keeps ha g => exact .inl ⟨g.renewal ▸ hk, ha⟩
  | grants _ _ ha _ _ hr => exact .inl ⟨hr ▸ hk, ha⟩
  | enrols _ _ _ _ _ hr hnext => exact .inr ⟨Option.some.inj (hk.symm.trans hr), hnext⟩
  | drops _ _ hr => rw [hr] at hk; cases hk

/-- Whoever is in charge stays so, unless the registration is replaced or given up. -/
theorem Handover.stays (h : Handover s a t) (hk : s.own.renewal = some k) (ha : ¬ s.Replaces a) :
    t.own.renewal = some k := by
  cases h with
  | keeps _ g => rw [g.renewal, hk]
  | grants _ _ _ _ _ hr => rw [hr, hk]
  | enrols _ _ he => exact absurd (.inl he) ha
  | drops hd => exact absurd (.inr hd) ha

/-- Whoever renews a lease has renewed it before, or is in charge now. -/
theorem Handover.renewed (h : Handover s a t)
    (hk : t.role Process.hold? k = some (.renewed lease)) :
    s.role Process.hold? k = some (.renewed lease) ∨ t.own.renewal = some k := by
  cases h with
  | keeps _ g => exact .inl (g.holds k _ hk)
  | grants id l _ _ _ _ ht =>
    rw [ht] at hk
    split at hk
    · cases hk
    · exact .inl hk
  | enrols id l _ _ _ hr _ ht =>
    rw [ht] at hk
    split at hk
    · cases hk
    · split at hk
      · rename_i he
        exact .inr (he ▸ hr)
      · exact .inl hk
  | drops _ _ _ ht => exact .inl (ht k ▸ hk)

end Charge

/-! ## What the books say -/

/-- **The books after all that has happened.** -/
structure Recorded (turns : List (State × Act)) (s : State) : Prop where
  upright : s.Upright .closing
  leases : Leases (granted turns) s
  /-- The task in charge has begun. -/
  charged : ∀ k, s.own.renewal = some k → k < s.nextId
  /-- Whoever was displaced is not in charge. -/
  displaced : ∀ p ∈ turns, ∀ k, p.1.Displaces k p.2 → k < s.nextId ∧ s.own.renewal ≠ some k
  /-- Whoever renews is in charge, or was displaced. -/
  renewed : ∀ k lease, s.role Process.hold? k = some (.renewed lease) →
    s.own.renewal = some k ∨ ∃ p ∈ turns, p.1.Displaces k p.2
  /-- A lease that was dropped is spent. -/
  dropped : ∀ p ∈ turns, ∀ lease, p.1.Drops lease p.2 → lease ∈ granted turns ∧ s.Spent lease

theorem recorded_initial : Recorded [] .initial where
  upright := upright_initial
  leases := leases_initial
  charged _ h := nomatch h
  displaced _ h := nomatch h
  renewed _ _ h := nomatch h
  dropped _ h := nomatch h

/-- **Every act is recorded**, as long as it grants no lease that was granted before. -/
theorem recorded_act {c : Settings} {turns : List (State × Act)} {s t : State} {a : Act}
    (h : c.act s a = some t) (hs : Recorded turns s)
    (hnew : ∀ lease, a.granted? = some lease → lease ∉ granted turns) :
    Recorded (turns ++ [(s, a)]) t := by
  have hover := handover_act h hs.upright.orderly.numbered
  obtain ⟨hspares, hupright⟩ := upright_act h hs.upright
  have hnext := hspares.nextId
  have hmore : granted (turns ++ [(s, a)]) = granted turns ++ a.granted?.toList :=
    granted_concat turns s a
  constructor
  case upright => exact hupright
  case leases => rw [hmore]; exact leases_act hover hs.leases hnew
  case charged =>
    intro k hk
    rcases hover.charged hk with ⟨hk, -⟩ | ⟨rfl, hlt⟩
    · exact Nat.lt_of_lt_of_le (hs.charged k hk) hnext
    · exact hlt
  case displaced =>
    intro p hp k hd
    -- whoever has a number is not put in charge once more
    have hold (hlt : k < s.nextId) (hno : ¬ (s.own.renewal = some k ∧ ¬ s.Replaces a)) :
        k < t.nextId ∧ t.own.renewal ≠ some k := by
      refine ⟨Nat.lt_of_lt_of_le hlt hnext, fun hk => ?_⟩
      rcases hover.charged hk with hk | ⟨rfl, -⟩
      · exact hno hk
      · exact Nat.lt_irrefl _ hlt
    rcases List.mem_append.1 hp with hp | hp
    · obtain ⟨hlt, hne⟩ := hs.displaced p hp k hd
      exact hold hlt fun hk => hne hk.1
    · obtain rfl := List.mem_singleton.1 hp
      exact hold (hs.charged k hd.1) fun hk => hk.2 hd.2
  case renewed =>
    intro k lease hk
    rcases hover.renewed hk with hk | hk
    · rcases hs.renewed k lease hk with hk | ⟨p, hp, hd⟩
      · by_cases ha : s.Replaces a
        · exact .inr ⟨(s, a), by simp, hk, ha⟩
        · exact .inl (hover.stays hk ha)
      · exact .inr ⟨p, List.mem_append_left _ hp, hd⟩
    · exact .inl hk
  case dropped =>
    intro p hp lease hd
    rw [hmore]
    rcases List.mem_append.1 hp with hp | hp
    · obtain ⟨hmem, hspent⟩ := hs.dropped p hp lease hd
      exact ⟨List.mem_append_left _ hmem, spent_act hover hspent fun hg => hnew lease hg hmem⟩
    · obtain rfl := List.mem_singleton.1 hp
      exact ⟨List.mem_append_left _ (hs.leases.booked lease hd.1),
        spent_of_drops hover hs.leases hd⟩

/-- **A run in which no lease is granted twice is recorded.** -/
theorem recorded_run {c : Settings} {turns : List (State × Act)} {s : State}
    (reached : Run c.act .initial turns s) (distinct : (granted turns).Nodup) :
    Recorded turns s := by
  refine reached.history Recorded recorded_initial fun past u a v hpast ih ha => ?_
  exact recorded_act ha ih fun lease hg => fresh_of_nodup distinct hpast hg

/-! ## The tasks -/

/-- A task reads the renewals of a lease. -/
def State.Renews (s : State) (k : Nat) (lease : Int) : Prop :=
  ∃ stream, s.process? k = some (.renewal lease stream)

/-- A task restores the registration. -/
def State.Restores (s : State) (k : Nat) : Prop := ∃ r, s.process? k = some (.restore r)

/-- Whoever is gone does not restore. -/
theorem not_restores_of_none {s : State} {k : Nat} (h : s.process? k = none) : ¬ s.Restores k := by
  rintro ⟨r, hr⟩
  cases h.symm.trans hr

/-- **A task ends without a trace**, but for the log: it is over, and no book has changed. -/
structure State.Leaves (s : State) (k : Nat) (t : State) : Prop where
  flags : t.flags = s.flags
  registry : t.registry = s.registry
  closed : t.closed = s.closed
  processes : ∀ j, t.process? j = (s.finish k).process? j
  nextId : t.nextId = s.nextId
  own : t.own = s.own
  requests : t.requests = s.requests

/-- **The tasks are accounted for**, after all that has happened. -/
structure Accounted (c : Settings) (turns : List (State × Act)) (s : State) : Prop where
  /-- Restoring is noted EXACTLY while one task restores, -/
  restoring : s.own.restoring = true ↔ ∃! k, s.Restores k
  /-- and there are never two. -/
  restorer : ∀ j k, s.Restores j → s.Restores k → j = k
  /-- The books know who is cancelled. -/
  cancelled : ∀ k lease, s.Renews k lease → (s.isCancelled k = true ↔ Cancelled turns s k)
  /-- At most one task that renews is not, -/
  renewal : ∀ j k l m, s.Renews j l → s.Renews k m → ¬ Cancelled turns s j → ¬ Cancelled turns s k →
    j = k
  /-- and it is in charge, of the lease of a registration that stands. -/
  charge : ∀ k lease, s.Renews k lease → ¬ Cancelled turns s k →
    s.own.renewal = some k ∧ s.own.lease = some lease ∧ s.flags.registered = true
  /-- Whoever renews a lease that was dropped ends without a trace, however its renewals end. -/
  dropped : ∀ k lease i, s.Renews k lease → (∃ p ∈ turns, p.1.Drops lease p.2) →
    (∀ x, i ≠ some (.ok x)) → ∃ t, c.act s (.signal k (.item i)) = some t ∧ s.Leaves k t

section Tasks

variable {c : Settings} {turns : List (State × Act)} {s : State} {k : Nat} {lease : Int}

theorem State.Renews.role (h : s.Renews k lease) :
    s.role Process.hold? k = some (.renewed lease) := by
  obtain ⟨stream, hk⟩ := h
  exact Session.role_of_process? hk

/-- The end of the renewals of a lease that is not in the books leaves no trace. -/
theorem leaves_of_unused (c : Settings) {i : Option (Except Failure Item)} (hk : s.Renews k lease)
    (hl : s.own.lease ≠ some lease) (hi : ∀ x, i ≠ some (.ok x)) :
    ∃ t, c.act s (.signal k (.item i)) = some t ∧ s.Leaves k t := by
  obtain ⟨stream, hk⟩ := hk
  have hact : c.act s (.signal k (.item i)) = c.stepRenewal s k lease (.item i) :=
    c.act_of_process? hk _
  -- two endings, and in both the lease is found to be no longer in use
  rw [hact]
  rcases i with _ | (f | x)
  · refine ⟨_, rfl, ?_⟩
    constructor <;> simp [Settings.endRenewal, hl]
  · refine ⟨_, rfl, ?_⟩
    constructor <;> simp [Settings.endRenewal, hl, Session.process?_finish]
  · exact absurd rfl (hi x)

/-- **The books know who is cancelled.** -/
theorem Recorded.cancelled_iff (h : Recorded turns s) (hk : s.Renews k lease) :
    s.isCancelled k = true ↔ Cancelled turns s k := by
  have hbooks : s.isCancelled k = true ↔ s.closed = true ∨ s.own.renewal ≠ some k := by
    simp [State.isCancelled]
  rw [hbooks]
  refine or_congr_right ⟨fun hne => (h.renewed k lease hk.role).resolve_left hne, ?_⟩
  rintro ⟨p, hp, hd⟩
  exact (h.displaced p hp k hd).2

/-- At the end of every run there is one task that restores, or none. -/
theorem restorer_run (reached : Run c.act .initial turns s) : ∃ o, s.Restorer o := by
  have hinv := reached.invariant (fun u => u.Numbered ∧ ∃ o, u.Restorer o)
    ⟨numbered_initial, none, restorer_initial⟩ fun p _ v hu hv => by
      obtain ⟨hn, o, ho⟩ := hu
      exact ⟨numbered_act hv hn, restorer_act hv hn ho⟩
  exact hinv.2

/-- A backend that is open has its renewals in order. -/
theorem kept_run (reached : Run c.act .initial turns s) (hopen : s.closed = false) : s.Kept := by
  have hopened : Run.Throughout (fun u : State => u.closed = false) turns s :=
    reached.throughout_of_last _ hopen fun q _ v hv hc => open_act hv hc
  have hordered := reached.invariant State.Ordered ordered_initial fun q hq v hu hv =>
    ordered_act hv hu (hopened.1 q hq)
  exact hordered.kept

/-- **The task that is not cancelled** is in charge, of the lease of a registration that stands. -/
theorem charge_of_not_cancelled (reached : Run c.act .initial turns s) (h : Recorded turns s)
    (hk : s.Renews k lease) (hno : ¬ Cancelled turns s k) :
    s.own.renewal = some k ∧ s.own.lease = some lease ∧ s.flags.registered = true := by
  rw [← h.cancelled_iff hk] at hno
  obtain ⟨hopen, hcharge⟩ : s.closed = false ∧ s.own.renewal = some k := by
    simpa [State.isCancelled] using hno
  have hkept := kept_run reached hopen
  have hren : s.renewing = some lease := by
    obtain ⟨stream, hk⟩ := hk
    rw [State.renewing, hcharge, Option.bind_some, hk]; rfl
  refine ⟨hcharge, hkept.lease lease hren, ?_⟩
  rw [← Bool.not_eq_false]
  intro hoff
  rw [hkept.off hoff] at hren
  cases hren

/-- **The tasks are accounted for**, along every run in which no lease is granted twice. -/
theorem tasks_accounted (reached : Run c.act .initial turns s) (distinct : (granted turns).Nodup) :
    Accounted c turns s := by
  have hrec := recorded_run reached distinct
  obtain ⟨o, ho⟩ := restorer_run reached
  have hsole (j k : Nat) (hj : s.Restores j) (hk : s.Restores k) : j = k := by
    obtain ⟨q, hq⟩ := hj
    obtain ⟨r, hr⟩ := hk
    have he := (ho.eq_of_process? hq).symm.trans (ho.eq_of_process? hr)
    exact (Prod.mk.inj (Option.some.inj he)).1
  constructor
  case restoring =>
    rw [ho.restoring, Option.isSome_iff_exists]
    constructor
    · rintro ⟨⟨k, r⟩, rfl⟩
      have hk : s.Restores k := ⟨r, (ho.restores k r).2 rfl⟩
      exact ⟨k, hk, fun j hj => hsole j k hj hk⟩
    · rintro ⟨k, ⟨r, hr⟩, -⟩
      exact ⟨_, ho.eq_of_process? hr⟩
  case restorer => exact hsole
  case cancelled => exact fun k lease hk => hrec.cancelled_iff hk
  case renewal =>
    intro j k l m hj hk hnj hnk
    have hcharge := (charge_of_not_cancelled reached hrec hj hnj).1
    exact Option.some.inj (hcharge.symm.trans (charge_of_not_cancelled reached hrec hk hnk).1)
  case charge => exact fun k lease hk hno => charge_of_not_cancelled reached hrec hk hno
  case dropped =>
    rintro k lease i hk ⟨p, hp, hd⟩ hi
    exact leaves_of_unused c hk (hrec.dropped p hp lease hd).2.unused hi

end Tasks

/-- A backend that watches and is registered deregisters and registers once more, while the first lease is still
    renewed; then its key is removed. -/
def lostAgain : List Act :=
  announcedActs ++ [.call .deregister, .call .register, .signal 5 (.reply (.ok (.granted 101))),
    .signal 5 (.reply (.ok .done)), .signal 5 (.reply (.ok (.opened 2))),
    .signal 1 (.item (some (.ok (.changes [.delete Settings.sample.key]))))]

/-- Of the two tasks that renew one is cancelled, and a third task restores the registration that was lost. -/
theorem tasks_accounted_renewed :
    ∃ turns s, Run Settings.sample.act .initial turns s ∧ turns.map Prod.snd = lostAgain ∧
      granted turns = [100, 101] ∧ (s.Renews 3 100 ∧ s.isCancelled 3 = true) ∧
      (s.Renews 6 101 ∧ s.isCancelled 6 = false) ∧ (s.Restores 7 ∧ s.own.restoring = true) ∧
      Accounted .sample turns s := by
  have hlast : ((lostAgain.foldlM Settings.sample.act .initial).map fun s =>
      ([3, 6, 7].map s.process?, [3, 6].map s.isCancelled, s.own.restoring)) =
        some ([some (.renewal 100 1), some (.renewal 101 2), some (.restore .delaying)],
          [true, false], true) := by
    decide +kernel
  obtain ⟨s, hr, hacts, hx⟩ := Run.of_view hlast
  simp only [List.map_cons, List.map_nil, Prod.mk.injEq, List.cons.injEq, and_true] at hx
  obtain ⟨⟨hfirst, hsecond, hrestore⟩, ⟨hcancelled, hlive⟩, hnoted⟩ := hx
  have hgranted : granted (Run.turnsOf Settings.sample.act .initial lostAgain) = [100, 101] := by
    rw [granted, hacts]; rfl
  exact ⟨_, s, hr, hacts, hgranted, ⟨⟨1, hfirst⟩, hcancelled⟩, ⟨⟨2, hsecond⟩, hlive⟩,
    ⟨⟨_, hrestore⟩, hnoted⟩, tasks_accounted hr (by rw [hgranted]; decide)⟩

end Muster.Leased
