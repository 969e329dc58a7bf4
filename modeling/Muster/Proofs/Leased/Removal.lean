/-
  Can a deregistration that failed be made up for?

  A deregistration takes the lease out of the books BEFORE it asks the store to end it.  If the store does
  not answer, or fails, the lease is in no book any more: the next deregistration finds none, sends
  nothing and succeeds at once, while the key is still there.

  (1) `Registered` — a registration, and all that has happened since;
  (2) `Registered.lease_now` — its lease is in the books EXACTLY as long as nobody has deregistered;
  (3) `removes_of_success` — a deregistration that has asked for the end of a lease succeeds only if the lease
      has been ended;
  (4) `Registered.retried_iff` — hence its removal is asked for until it succeeds EXACTLY when nobody has
      deregistered yet, or the lease has been ended.
-/
import Muster.Proofs.Leased.Edits
import Muster.Proofs.Leased.OwnKey

namespace Muster.Leased

/-! ## Registrations and their ends -/

/-- A registration comes to its end, under a lease. -/
def State.EnrolsUnder (s : State) (lease : Int) : Act → Prop
  | .signal id (.reply (.ok (.opened _))) =>
    (s.process? id).bind Process.stage? = some (.opening lease)
  | _ => False

/-- **A removal succeeds**: the store has ended a lease as it was asked to. -/
def State.Removes (s : State) (lease : Int) : Act → Prop
  | .signal id (.reply (.ok .done)) => s.process? id = some (.revoking lease)
  | _ => False

/-- **A registration that succeeded**, and what has happened since.  Nobody has registered the process
    anew. -/
structure Registered (c : Settings) where
  front : List (State × Act)
  before : State
  reached : Run c.act .initial front before
  act : Act
  lease : Int
  enrols : before.EnrolsUnder lease act
  after : State
  step : c.act before act = some after
  since : List (State × Act)
  now : State
  run : Run c.act after since now
  last : ∀ p ∈ since, ¬ p.1.Enrols p.2

/-- **Its removal is asked for until it succeeds.**  As long as no removal of its lease has succeeded —
    none was tried, or each has failed or is not answered — a deregistration asks for it; and a
    deregistration that succeeds had one that did. -/
def Registered.Retried {c : Settings} (x : Registered c) : Prop :=
  ((∀ p ∈ x.since, ¬ p.1.Removes x.lease p.2) →
    (c.call x.now .deregister).requests = (x.now.nextId, .revoke x.lease) :: x.now.requests) ∧
  ∀ turns t, Run c.act (c.call x.now .deregister) turns t →
    (x.now.nextId, .status (.ok ())) ∈ t.returns → ∃ p ∈ x.since ++ turns, p.1.Removes x.lease p.2

/-! ## The lease in the books -/

section Lease

variable {c : Settings} {s t : State} {a : Act} {lease : Int}

theorem lease_of_enrols (h : c.act s a = some t) (he : s.EnrolsUnder lease a) :
    t.own.lease = some lease := by
  unfold State.EnrolsUnder at he
  split at he
  · obtain ⟨p, hp, h⟩ := Option.bind_eq_some_iff.1 h
    rw [hp, Option.bind_some] at he
    cases p with
    | registering stage =>
      obtain rfl := Option.some.inj he
      obtain rfl := Option.some.inj h
      simp [Settings.stepRegistering]
    | restore r =>
      cases r with
      | attempting failures stage =>
        obtain rfl := Option.some.inj he
        obtain rfl := Option.some.inj h
        simp [Settings.stepAttempt]
      | _ => cases he
    | _ => cases he
  · exact he.elim

/-- A turn of the crew keeps the lease, unless it comes to the end of a registration. -/
theorem Turn.lease_eq {id : Nat} {p : Process} {sig : Signal Reply Item} (h : Turn c s id p sig t)
    (hid : s.process? id = some p) (hp : p.isCrew = true)
    (he : ¬ s.Enrols (.signal id sig)) : t.own.lease = s.own.lease := by
  cases h with
  | enrols lease stream hr hg | restores lease stream l hr hg =>
    obtain ⟨rfl, rfl⟩ := Settings.progress_opened hg
    obtain rfl := reply_of_result? hr
    exact absurd (by simp [State.Enrols, hid, Process.isOpening, Process.stage?]) he
  | asks | refused | renews | renewalLost | renewalEnds | renewalStops | skips | wakes | retries
  | yields | restoreStops | restoreAsks | backsOff | givesUp => simp
  | _ => cases hp

/-- **Only a registration and a deregistration write the lease.** -/
theorem lease_act (h : c.act s a = some t) (hn : s.Numbered) (he : ¬ s.Enrols a)
    (hd : a ≠ .call .deregister) : t.own.lease = s.own.lease := by
  cases Settings.deed h hn with
  | idle g => exact congrArg Standing.lease g.standing
  | begins => rfl
  | deregisters => exact absurd rfl hd
  | outside g =>
    obtain ⟨b, -, g⟩ := g
    refine (congrArg Standing.lease g.standing).trans ?_
    simp [State.standing]
  | crew hp hc ht => exact ht.lease_eq hp hc he
  | leaves => rfl

theorem lease_deregister (c : Settings) (s : State) : (c.call s .deregister).own.lease = none := by
  simp [Settings.call]

/-- A lease that is in the books stays there while nobody registers or deregisters. -/
theorem lease_run {turns : List (State × Act)} (h : Run c.act s turns t) (hn : s.Numbered)
    (he : ∀ p ∈ turns, ¬ p.1.Enrols p.2) (hd : ∀ p ∈ turns, p.2 ≠ .call .deregister) :
    t.own.lease = s.own.lease := by
  have hinv := h.invariant (fun u => u.Numbered ∧ u.own.lease = s.own.lease) ⟨hn, rfl⟩
    fun p hp v hu ha => by
      exact ⟨numbered_act ha hu.1, (lease_act ha hu.1 (he p hp) (hd p hp)).trans hu.2⟩
  exact hinv.2

/-- A lease that is in no book stays out of them while nobody registers. -/
theorem lease_run_none {turns : List (State × Act)} (h : Run c.act s turns t) (hn : s.Numbered)
    (he : ∀ p ∈ turns, ¬ p.1.Enrols p.2) (hs : s.own.lease = none) : t.own.lease = none := by
  have hinv := h.invariant (fun u => u.Numbered ∧ u.own.lease = none) ⟨hn, hs⟩
    fun p hp v hu ha => by
      refine ⟨numbered_act ha hu.1, ?_⟩
      by_cases hd : p.2 = .call .deregister
      · rw [hd] at ha
        obtain rfl := Option.some.inj ha
        exact lease_deregister c p.1
      · exact (lease_act ha hu.1 (he p hp) hd).trans hu.2
  exact hinv.2

theorem requests_deregister (c : Settings) (s : State) :
    (c.call s .deregister).requests =
      (s.own.lease.map fun lease => (s.nextId, .revoke lease)).toList ++ s.requests := by
  show (deregister s).requests = _
  unfold deregister
  cases s.own.lease <;> simp

end Lease

/-! ## Deregistrations that succeed -/

section Success

variable {c : Settings} {s t : State} {k : Nat} {lease : Int}

/-- **A deregistration that waits succeeds only if its lease is ended.** -/
theorem unanswered_act {a : Act} (h : c.act s a = some t) (hs : s.Upright .closing)
    (hk : s.Unanswered k (.revoking lease)) (ha : ¬ s.Removes lease a) :
    t.Unanswered k (.revoking lease) := by
  by_cases he : a.number s = k
  · rcases signal_or_abandon h hk.number he with ⟨sig, p, rfl, hp, hturn⟩ | ⟨-, rfl, -, -, rfl⟩
    · obtain rfl := hk.process p hp
      cases hturn with
      | revokes => exact absurd hp ha
      | revokeFails f => exact hk.fail f
    · exact hk.abandon
  · exact hk.spares (upright_act h hs).1 (Ne.symm he)

/-- A deregistration that has asked for the end of a lease succeeds only if the lease is ended. -/
theorem removes_of_success {turns : List (State × Act)}
    (h : Run c.act (c.call s .deregister) turns t) (hs : s.Upright .closing)
    (hl : s.own.lease = some lease) (hok : (s.nextId, .status (.ok ())) ∈ t.returns) :
    ∃ p ∈ turns, p.1.Removes lease p.2 := by
  by_contra hno
  have hno : ∀ p ∈ turns, ¬ p.1.Removes lease p.2 := fun p hp he => hno ⟨p, hp, he⟩
  have hcall : c.act s (.call .deregister) = some (c.call s .deregister) := rfl
  have hbegun : (c.call s .deregister).Unanswered s.nextId (.revoking lease) := by
    let u : State := { s.setRegistered false with
      own := { s.own with called := false, renewal := none, lease := none } }
    have hu : c.call s .deregister = u.begin (.revoke lease) (.revoking lease) := by
      simp [Settings.call, deregister, hl, u]
    have ho : u.Orderly := ⟨hs.orderly.distinct, hs.orderly.numbered, hs.orderly.returned⟩
    rw [hu]
    exact .begin ho _
  have hinv := h.invariant
    (fun u => u.Upright .closing ∧ u.Unanswered s.nextId (.revoking lease))
    ⟨(upright_act hcall hs).2, hbegun⟩ fun p hp v hu ha =>
      ⟨(upright_act ha hu.1).2, unanswered_act ha hu.1 hu.2 (hno p hp)⟩
  exact hinv.2.unsaid hok

/-- **Without a lease in the books a deregistration sends nothing**, and succeeds at once. -/
theorem succeeds_of_no_lease (c : Settings) (hl : s.own.lease = none) :
    (c.call s .deregister).requests = s.requests ∧
      (s.nextId, .status (.ok ())) ∈ (c.call s .deregister).returns := by
  refine ⟨by rw [requests_deregister, hl]; rfl, ?_⟩
  simp [Settings.call, deregister, hl, Session.instant, Session.returns, Session.setRegistered]

end Success

/-! ## Removals that are retried -/

namespace Registered

variable {c : Settings} (x : Registered c)

theorem upright_after : x.after.Upright .closing :=
  (upright_act x.step (upright_run x.reached upright_initial)).2

theorem upright_now : x.now.Upright .closing := upright_run x.run x.upright_after

/-- **Its lease is in the books as long as nobody has deregistered** -/
theorem lease_kept (hd : ∀ p ∈ x.since, p.2 ≠ .call .deregister) :
    x.now.own.lease = some x.lease :=
  (lease_run x.run x.upright_after.orderly.numbered x.last hd).trans
    (lease_of_enrols x.step x.enrols)

/-- — and in none of them once somebody has. -/
theorem lease_lost {p : State × Act} (hp : p ∈ x.since) (hd : p.2 = .call .deregister) :
    x.now.own.lease = none := by
  -- cut the run at the deregistration: it empties the book, and nobody fills it again
  obtain ⟨front, back, v, hturns, hfront, hv, hback⟩ := x.run.split hp
  rw [hd] at hv
  obtain rfl := Option.some.inj hv
  have hn := numbered_run hfront x.upright_after.orderly.numbered
  refine lease_run_none hback (numbered_call c hn _) (fun q hq => ?_) (lease_deregister c p.1)
  exact x.last q (by rw [hturns]; simp [hq])

/-- **Its removal is asked for until it succeeds EXACTLY when nobody has deregistered yet**, or the lease
    has been ended. -/
theorem retried_iff :
    x.Retried ↔
      (∀ p ∈ x.since, p.2 ≠ .call .deregister) ∨ ∃ p ∈ x.since, p.1.Removes x.lease p.2 := by
  constructor
  · rintro ⟨hasks, -⟩
    by_contra hno
    obtain ⟨hd, hremoves⟩ := not_or.1 hno
    obtain ⟨p, hp, hd⟩ : ∃ p ∈ x.since, p.2 = .call .deregister := by
      simpa only [not_forall, not_not, exists_prop] using hd
    -- the lease is gone from the books, so nothing is sent
    have hsent := hasks fun p hp he => hremoves ⟨p, hp, he⟩
    rw [requests_deregister, x.lease_lost hp hd] at hsent
    exact List.cons_ne_self _ _ hsent.symm
  · rintro (hd | ⟨p, hp, he⟩)
    · have hlease := x.lease_kept hd
      refine ⟨fun _ => by rw [requests_deregister, hlease]; rfl, fun turns t hrun hok => ?_⟩
      obtain ⟨p, hp, he⟩ := removes_of_success hrun x.upright_now hlease hok
      exact ⟨p, List.mem_append_right _ hp, he⟩
    · exact ⟨fun hno => absurd he (hno p hp), fun turns t _ _ =>
        ⟨p, List.mem_append_left _ hp, he⟩⟩

end Registered

/-! ## A registration whose removal fails -/

/-- A backend registers under a lease, and does not register anew afterwards. -/
theorem exists_registered {acts : List Act} {now : State}
    (h : (registerActs ++ acts).foldlM Settings.sample.act .initial = some now)
    (hacts : ∀ a ∈ acts, ∀ s : State, ¬ s.Enrols a) :
    ∃ x : Registered .sample, x.lease = 100 ∧ x.since.map Prod.snd = acts ∧ x.now = now := by
  have hfront : (registerActs.take 3).foldlM Settings.sample.act .initial = some _ := rfl
  obtain ⟨front, hreached, -⟩ := Run.of_foldlM hfront
  rw [List.foldlM_append] at h
  obtain ⟨after, hafter, h⟩ := Option.bind_eq_some_iff.1 h
  obtain ⟨since, hrun, hsince⟩ := Run.of_foldlM h
  refine ⟨⟨front, _, hreached, .signal 0 (.reply (.ok (.opened 0))), 100, rfl, after, hafter, since,
    now, hrun, fun p hp => hacts p.2 ?_ p.1⟩, rfl, hsince, rfl⟩
  exact hsince ▸ List.mem_map_of_mem hp

end Muster.Leased
