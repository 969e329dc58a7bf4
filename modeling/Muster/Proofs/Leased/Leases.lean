/-
  Who holds a lease?

  A lease is granted to a process that registers.  It is PLEDGED until the registration comes to its
  end; then it is the registration's, and a task reads its renewals.  That task can live on when the
  registration is replaced or given up, and then it renews a lease that nobody uses any more.

  As long as the store never grants the same lease twice:

  (1) `Handover` — what an act can do to the leases: one is granted, one passes from the process that
      registers to the task that renews it, the registration's is dropped, or nobody gets anything new;
  (2) `leases_act` — nobody shares a lease, none is pledged that is already in the books, and whoever
      renews the one in the books is in charge;
  (3) `spent_act` — a lease that is replaced or given up is never the registration's again.

  THE CRUX is in (2): the process that registers is the only one that holds its lease, so no task that
  is left over can be taken for the one in charge.
-/
import Muster.Proofs.Leased.Health
import Muster.Proofs.Leased.Removal

namespace Muster.Leased

/-! ## Leases and their holders -/

/-- The lease of a registration on its way, once it is granted. -/
def Registering.lease? : Registering → Option Int
  | .granting => none
  | .putting lease | .opening lease => some lease

/-- **How a process holds a lease**: it is about to register under it, or it reads its renewals. -/
inductive Hold where
  | pledged (lease : Int)
  | renewed (lease : Int)
deriving DecidableEq, Repr

/-- The lease that is held. -/
def Hold.lease : Hold → Int
  | pledged lease | renewed lease => lease

/-- What a process holds. -/
def Process.hold? : Process → Option Hold
  | .registering stage | .restore (.attempting _ stage) => stage.lease?.map .pledged
  | .renewal lease _ => some (.renewed lease)
  | _ => none

/-- The lease that an act grants. -/
def Act.granted? : Act → Option Int
  | .signal _ (.reply (.ok (.granted lease))) => some lease
  | _ => none

/-- **The leases that were granted** along a run, in their order. -/
def granted (turns : List (State × Act)) : List Int :=
  (turns.map Prod.snd).filterMap Act.granted?

theorem granted_concat (turns : List (State × Act)) (s : State) (a : Act) :
    granted (turns ++ [(s, a)]) = granted turns ++ a.granted?.toList := by
  rw [granted, List.map_append, List.filterMap_append, ← granted]
  cases h : a.granted? <;> simp [h]

/-- Where no lease is granted twice, the next one that is granted is new. -/
theorem fresh_of_nodup {past turns : List (State × Act)} {s : State} {a : Act} {lease : Int}
    (distinct : (granted turns).Nodup) (hpast : past ++ [(s, a)] <+: turns)
    (hg : a.granted? = some lease) : lease ∉ granted past := by
  have hsub : granted past ++ [lease] <+: granted turns := by
    have hmore := granted_concat past s a
    rw [hg, Option.toList_some] at hmore
    rw [← hmore]
    exact (hpast.map Prod.snd).filterMap Act.granted?
  have hnodup := distinct.sublist hsub.sublist
  exact fun hmem => (List.nodup_append.1 hnodup).2.2 lease hmem lease (List.mem_singleton_self _) rfl

/-- **The registration is replaced, or given up**: another one comes to its end, or the process
    deregisters. -/
def State.Replaces (s : State) (a : Act) : Prop := s.Enrols a ∨ a = .call .deregister

/-- The lease of the registration is dropped: it was in the books, and the registration is replaced or
    given up. -/
def State.Drops (s : State) (lease : Int) (a : Act) : Prop :=
  s.own.lease = some lease ∧ s.Replaces a

/-- **A lease is spent**: it is not in the books, and nobody is about to register under it. -/
structure State.Spent (s : State) (lease : Int) : Prop where
  unused : s.own.lease ≠ some lease
  unpledged : ∀ k, s.role Process.hold? k ≠ some (.pledged lease)

/-- The crew is all that can hold a lease. -/
theorem crew_hold? (s : State) (k : Nat) :
    (s.crew k).bind Process.hold? = s.role Process.hold? k := by
  unfold State.crew Session.role
  cases s.process? k with
  | none => rfl
  | some p => cases p <;> rfl

/-! ## Letting go -/

/-- **Nobody gets a lease**: the books name the same one, and every process holds what it held, or lets
    it go. -/
structure Fewer (s t : State) : Prop where
  lease : t.own.lease = s.own.lease
  renewal : t.own.renewal = s.own.renewal
  holds : ∀ k h, t.role Process.hold? k = some h → s.role Process.hold? k = some h

namespace Fewer

variable {s t u : State} {id : Nat} {p q : Process}

theorem refl (s : State) : Fewer s s := ⟨rfl, rfl, fun _ _ h => h⟩

theorem trans (h : Fewer s t) (g : Fewer t u) : Fewer s u :=
  ⟨g.lease.trans h.lease, g.renewal.trans h.renewal, fun k x hx => h.holds k x (g.holds k x hx)⟩

theorem of_idle (h : Idle s t) : Fewer s t where
  lease := congrArg Standing.lease h.standing
  renewal := congrArg Standing.renewal h.standing
  holds k x hx := by rwa [← crew_hold?, h.crew, crew_hold?] at hx

/-- A process may go on, as long as it gets nothing. -/
theorem of_become (hid : s.process? id = some p) (hl : t.own.lease = s.own.lease)
    (hr : t.own.renewal = s.own.renewal) (ht : ∀ k, t.process? k = (s.become id q).process? k)
    (hq : ∀ h, q.hold? = some h → p.hold? = some h) : Fewer s t where
  lease := hl
  renewal := hr
  holds k x hx := by
    rw [Session.role_become hid ht] at hx
    split at hx
    · rename_i hk
      rw [hk, Session.role_of_process? hid]
      exact hq x hx
    · exact hx

/-- A process that ends lets go what it held. -/
theorem of_finish (id : Nat) (hl : t.own.lease = s.own.lease) (hr : t.own.renewal = s.own.renewal)
    (ht : ∀ k, t.process? k = (s.finish id).process? k) : Fewer s t where
  lease := hl
  renewal := hr
  holds k x hx := by
    rw [Session.role_finish ht] at hx
    split at hx
    · cases hx
    · exact hx

/-- A process that begins with a request holds nothing yet. -/
theorem of_begin (hn : s.Numbered) (hl : t.own.lease = s.own.lease)
    (hr : t.own.renewal = s.own.renewal) (r : Request) (hq : q.hold? = none)
    (ht : ∀ k, t.process? k = (s.begin r q).process? k) : Fewer s t where
  lease := hl
  renewal := hr
  holds k x hx := by
    rwa [Session.role, ht, ← Session.role, Session.role_begin_none hn r hq] at hx

/-- A loss gives nobody a lease. -/
theorem scheduleRestore (c : Settings) (forced : Bool) (s : State) :
    Fewer s (c.scheduleRestore forced s) where
  lease := by simp
  renewal := by simp
  holds k x hx := by
    by_cases hr : s.own.restoring = true
    · simpa [Session.role, hr] using hx
    · have hsame := Session.role_or_none (s := s) (t := c.scheduleRestore forced s)
        (f := Process.hold?) (q := .restore .delaying) (b := (· = s.nextId)) rfl (by simp [hr]) k
      rwa [← hsame]

theorem lose (c : Settings) (b : Bool) (s : State) : Fewer s (c.lose b s) := by
  cases b with
  | true => exact scheduleRestore c false s
  | false => exact refl s

theorem of_outside {c : Settings} (h : Outside c s t) : Fewer s t := by
  obtain ⟨b, -, g⟩ := h
  exact (lose c b s).trans (of_idle g)

end Fewer

/-! ## Handovers -/

/-- **What an act does to the leases.** -/
inductive Handover (s : State) (a : Act) (t : State) : Prop
  /-- Nobody gets one. -/
  | keeps : ¬ s.Replaces a → Fewer s t → Handover s a t
  /-- One is granted to a process that registers. -/
  | grants (id : Nat) (lease : Int) : ¬ s.Replaces a → a.granted? = some lease →
      t.own.lease = s.own.lease → t.own.renewal = s.own.renewal →
      (∀ k, t.role Process.hold? k =
        if k = id then some (.pledged lease) else s.role Process.hold? k) → Handover s a t
  /-- A registration comes to its end: its lease passes to the task that renews it. -/
  | enrols (id : Nat) (lease : Int) : s.Enrols a →
      s.role Process.hold? id = some (.pledged lease) →
      t.own.lease = some lease → t.own.renewal = some s.nextId → s.nextId < t.nextId →
      (∀ k, t.role Process.hold? k = if k = id then none
        else if k = s.nextId then some (.renewed lease) else s.role Process.hold? k) → Handover s a t
  /-- The registration is given up. -/
  | drops : a = .call .deregister → t.own.lease = none → t.own.renewal = none →
      (∀ k, t.role Process.hold? k = s.role Process.hold? k) → Handover s a t

/-- **A request that is answered and followed by another**: the answer grants a lease, or it goes on with
    the one it has. -/
theorem Settings.progress_lease {c : Settings} {stage next : Registering}
    {r : Except Failure Reply} {q : Request} (h : c.progress stage r = some (.asks q next)) :
    (∃ lease, r = .ok (.granted lease) ∧ next = .putting lease) ∨ next.lease? = stage.lease? := by
  unfold progress at h
  split at h
  · cases h; exact .inl ⟨_, rfl, rfl⟩
  · cases h; exact .inr rfl
  · cases h
  · cases h
  · cases h

section Handovers

variable {c : Settings} {s t : State} {a : Act} {id : Nat}

/-- A process that asks for the next thing of its registration is granted a lease, or keeps its own. -/
theorem handover_asks {p q : Process} {sig : Signal Reply Item} {stage next : Registering}
    {r : Except Failure Reply} {x : Request} (ha : ¬ s.Replaces (.signal id sig))
    (hid : s.process? id = some p) (hr : sig.result? stage.operation c.requestTimeout = some r)
    (hg : c.progress stage r = some (.asks x next)) (hp : p.hold? = stage.lease?.map .pledged)
    (hq : q.hold? = next.lease?.map .pledged) :
    Handover s (.signal id sig) (s.ask id x q) := by
  rcases Settings.progress_lease hg with ⟨lease, rfl, rfl⟩ | hsame
  · obtain rfl := reply_of_result? hr
    refine .grants id lease ha rfl (by simp) (by simp) fun k => ?_
    rw [Session.role_become (q := q) hid (by simp), hq]; rfl
  · refine .keeps ha (.of_become (q := q) hid (by simp) (by simp) (by simp) fun h hh => ?_)
    rwa [hp, ← hsame, ← hq]

/-- **The handover of a turn of the crew** that comes to no registration's end. -/
theorem Turn.handover {p : Process} {sig : Signal Reply Item} (h : Turn c s id p sig t)
    (hid : s.process? id = some p) (hp : p.isCrew = true) (he : ¬ s.Enrols (.signal id sig)) :
    Handover s (.signal id sig) t := by
  have ha : ¬ s.Replaces (.signal id sig) := fun hr => hr.elim he fun hd => nomatch hd
  cases h with
  | asks q next hr hg => exact handover_asks ha hid hr hg rfl rfl
  | restoreAsks q next hr hg => exact handover_asks ha hid hr hg rfl rfl
  | enrols lease stream hr hg | restores lease stream l hr hg =>
    obtain ⟨rfl, rfl⟩ := Settings.progress_opened hg
    obtain rfl := reply_of_result? hr
    exact absurd (by simp [State.Enrols, hid, Process.isOpening, Process.stage?]) he
  | wakes =>
    refine .keeps ha (.of_become (q := .restore (.attempting 0 .granting)) hid ?_ ?_ ?_ ?_)
    all_goals simp [Process.hold?, Registering.lease?, Session.process?_become]
  | @retries failures =>
    refine .keeps ha (.of_become (q := .restore (.attempting failures .granting)) hid ?_ ?_ ?_ ?_)
    all_goals simp [Process.hold?, Registering.lease?]
  | @backsOff failures =>
    refine .keeps ha (.of_become (q := .restore (.backingOff (failures + 1))) hid ?_ ?_ ?_ ?_)
    all_goals simp [Process.hold?, Session.process?_become]
  | renews _ l => exact .keeps ha (.of_idle (.note s l))
  | renewalLost ls l =>
    have hends : Fewer s (((s.notes ls).finish id).note l) := by
      refine .of_finish id ?_ ?_ ?_
      all_goals simp [Session.process?_finish]
    exact .keeps ha (hends.trans (.scheduleRestore c true _))
  | refused | renewalEnds | renewalStops | skips | yields | restoreStops | givesUp =>
    refine .keeps ha (.of_finish id ?_ ?_ ?_)
    all_goals simp [Session.process?_finish]
  | _ => cases hp

/-- Whoever enrols hands its lease over to the task that renews it. -/
theorem handover_enrols (c : Settings) (stream : Nat) {p : Process} {lease : Int} (hn : s.Numbered)
    (he : s.Enrols a) (hid : s.process? id = some p) (hp : p.hold? = some (.pledged lease))
    (hl : t.own.lease = some lease) (hr : t.own.renewal = some s.nextId)
    (ht : ∀ k, t.process? k = (Session.finish (c.enrol lease stream s) id).process? k)
    (hnext : t.nextId = s.nextId + 1) : Handover s a t := by
  have hrole : s.role Process.hold? id = some (.pledged lease) :=
    (Session.role_of_process? hid).trans hp
  refine .enrols id lease he hrole hl hr (by omega) fun k => ?_
  rw [Session.role_finish ht, Session.role_spawn (q := .renewal lease stream) hn (by simp)]
  rfl

/-- **The handover at the end of a registration.** -/
theorem handover_of_enrols (h : c.act s a = some t) (hn : s.Numbered) (he : s.Enrols a) :
    Handover s a t := by
  have henr := he
  unfold State.Enrols at he
  split at he
  · rename_i id stream
    obtain ⟨p, hp, h⟩ := Option.bind_eq_some_iff.1 h
    rw [hp, Option.any_some] at he
    cases p with
    | registering stage =>
      cases stage with
      | opening lease =>
        obtain rfl := Option.some.inj h
        refine handover_enrols c stream hn henr hp rfl ?_ ?_ (fun k => ?_) ?_
        all_goals simp [Settings.stepRegistering]
      | _ => cases he
    | restore r =>
      cases r with
      | attempting failures stage =>
        cases stage with
        | opening lease =>
          obtain rfl := Option.some.inj h
          refine handover_enrols c stream hn henr hp rfl ?_ ?_ (fun k => ?_) ?_
          all_goals simp [Settings.stepAttempt, Session.process?_finish]
        | _ => cases he
      | _ => cases he
    | _ => cases he
  · exact he.elim

theorem handover_deregister (c : Settings) (hn : s.Numbered) :
    Handover s (.call .deregister) (c.call s .deregister) := by
  refine .drops rfl (lease_deregister c s) (by simp [Settings.call]) fun k => ?_
  rw [← crew_hold?, Settings.call, crew_deregister hn, crew_hold?]

/-- **Every act is a handover.** -/
theorem handover_act (h : c.act s a = some t) (hn : s.Numbered) : Handover s a t := by
  by_cases he : s.Enrols a
  · exact handover_of_enrols h hn he
  by_cases hd : a = .call .deregister
  · subst hd
    obtain rfl := Option.some.inj h
    exact handover_deregister c hn
  have ha : ¬ s.Replaces a := fun hr => hr.elim he hd
  cases Settings.deed h hn with
  | idle g => exact .keeps ha (.of_idle g)
  | begins =>
    refine .keeps ha (.of_begin (q := .registering .granting) hn ?_ ?_ (.grant c.lease.ttlSecs) ?_
      fun k => ?_)
    all_goals rfl
  | deregisters => exact absurd rfl hd
  | outside g => exact .keeps ha (.of_outside g)
  | crew hp hc ht => exact ht.handover hp hc he
  | leaves => exact .keeps ha (.of_finish _ rfl rfl fun _ => rfl)

end Handovers

/-! ## Leases that are granted once -/

/-- **The leases are in order**, after some have been granted. -/
structure Leases (past : List Int) (s : State) : Prop where
  /-- Whatever is held or in the books was granted. -/
  held : ∀ k h, s.role Process.hold? k = some h → h.lease ∈ past
  booked : ∀ lease, s.own.lease = some lease → lease ∈ past
  /-- No two processes share a lease. -/
  sole : ∀ k k' h h', s.role Process.hold? k = some h → s.role Process.hold? k' = some h' →
    h.lease = h'.lease → k = k'
  /-- What is pledged is not in the books yet. -/
  pledged : ∀ k lease, s.role Process.hold? k = some (.pledged lease) → s.own.lease ≠ some lease
  /-- Whoever renews the lease in the books is in charge. -/
  charge : ∀ k lease, s.role Process.hold? k = some (.renewed lease) → s.own.lease = some lease →
    s.own.renewal = some k

theorem leases_initial : Leases [] .initial where
  held _ _ h := nomatch h
  booked _ h := nomatch h
  sole _ _ _ _ h := nomatch h
  pledged _ _ h := nomatch h
  charge _ _ h := nomatch h

namespace Leases

variable {past : List Int} {s t : State} {a : Act} {id : Nat} {lease : Int}

theorem mono (h : Leases past s) (more : List Int) : Leases (past ++ more) s :=
  { h with
    held := fun k x hx => List.mem_append_left _ (h.held k x hx)
    booked := fun l hl => List.mem_append_left _ (h.booked l hl) }

theorem fewer (h : Leases past s) (g : Fewer s t) : Leases past t where
  held k x hx := h.held k x (g.holds k x hx)
  booked l hl := h.booked l (g.lease ▸ hl)
  sole k k' x y hx hy := h.sole k k' x y (g.holds k x hx) (g.holds k' y hy)
  pledged k l hk := by rw [g.lease]; exact h.pledged k l (g.holds k _ hk)
  charge k l hk hl := by rw [g.renewal]; exact h.charge k l (g.holds k _ hk) (g.lease ▸ hl)

/-- **A lease that is new is nobody's** but the process's it is granted to. -/
theorem grants (h : Leases past s) (hnew : lease ∉ past) (hl : t.own.lease = s.own.lease)
    (hr : t.own.renewal = s.own.renewal)
    (ht : ∀ k, t.role Process.hold? k =
      if k = id then some (.pledged lease) else s.role Process.hold? k) :
    Leases (past ++ [lease]) t := by
  -- whoever holds something afterwards holds it since now, or has held it
  have hor (k : Nat) (x : Hold) (hx : t.role Process.hold? k = some x) :
      (k = id ∧ x = .pledged lease) ∨ s.role Process.hold? k = some x := by
    rw [ht] at hx
    split at hx
    · rename_i hk
      exact .inl ⟨hk, (Option.some.inj hx).symm⟩
    · exact .inr hx
  constructor
  case held =>
    intro k x hx
    rcases hor k x hx with ⟨-, rfl⟩ | hx
    · simp [Hold.lease]
    · exact List.mem_append_left _ (h.held k x hx)
  case booked =>
    intro l hb
    exact List.mem_append_left _ (h.booked l (hl ▸ hb))
  case sole =>
    intro k k' x y hx hy hxy
    rcases hor k x hx with ⟨rfl, rfl⟩ | hx <;> rcases hor k' y hy with ⟨rfl, rfl⟩ | hy
    · rfl
    · exact absurd (h.held k' y hy) (hxy ▸ hnew)
    · exact absurd (h.held k x hx) (hxy ▸ hnew)
    · exact h.sole k k' x y hx hy hxy
  case pledged =>
    intro k l hk hb
    rw [hl] at hb
    rcases hor k _ hk with ⟨-, he⟩ | hk
    · obtain rfl := Hold.pledged.inj he
      exact hnew (h.booked l hb)
    · exact h.pledged k l hk hb
  case charge =>
    intro k l hk hb
    rw [hr]
    rcases hor k _ hk with ⟨-, he⟩ | hk
    · cases he
    · exact h.charge k l hk (hl ▸ hb)

/-- **The lease of a registration that comes to its end is nobody's** but the task's that renews it. -/
theorem enrols (h : Leases past s) (hid : s.role Process.hold? id = some (.pledged lease))
    (hl : t.own.lease = some lease) (hr : t.own.renewal = some s.nextId)
    (ht : ∀ k, t.role Process.hold? k = if k = id then none
      else if k = s.nextId then some (.renewed lease) else s.role Process.hold? k) :
    Leases past t := by
  have hor (k : Nat) (x : Hold) (hx : t.role Process.hold? k = some x) :
      (k = s.nextId ∧ x = .renewed lease) ∨ (k ≠ id ∧ s.role Process.hold? k = some x) := by
    rw [ht] at hx
    split at hx
    · cases hx
    · rename_i hne
      split at hx
      · rename_i hk
        exact .inl ⟨hk, (Option.some.inj hx).symm⟩
      · exact .inr ⟨hne, hx⟩
  -- nobody else held the lease before
  have hothers {k : Nat} {x : Hold} (hk : k ≠ id) (hx : s.role Process.hold? k = some x) :
      x.lease ≠ lease := fun he => hk (h.sole k id x _ hx hid he)
  constructor
  case held =>
    intro k x hx
    rcases hor k x hx with ⟨-, rfl⟩ | ⟨-, hx⟩
    · exact h.held id (.pledged lease) hid
    · exact h.held k x hx
  case booked =>
    intro l hb
    obtain rfl := Option.some.inj (hl.symm.trans hb)
    exact h.held id (.pledged lease) hid
  case sole =>
    intro k k' x y hx hy hxy
    rcases hor k x hx with ⟨rfl, rfl⟩ | ⟨hk, hx⟩ <;> rcases hor k' y hy with ⟨rfl, rfl⟩ | ⟨hk', hy⟩
    · rfl
    · exact absurd hxy.symm (hothers hk' hy)
    · exact absurd hxy (hothers hk hx)
    · exact h.sole k k' x y hx hy hxy
  case pledged =>
    intro k l hk hb
    obtain rfl := Option.some.inj (hl.symm.trans hb)
    rcases hor k _ hk with ⟨-, he⟩ | ⟨hne, hk⟩
    · cases he
    · exact hothers hne hk rfl
  case charge =>
    intro k l hk hb
    obtain rfl := Option.some.inj (hl.symm.trans hb)
    rcases hor k _ hk with ⟨rfl, -⟩ | ⟨hne, hk⟩
    · exact hr
    · exact absurd rfl (hothers hne hk)

/-- What is given up is in no book. -/
theorem drops (h : Leases past s) (hl : t.own.lease = none)
    (ht : ∀ k, t.role Process.hold? k = s.role Process.hold? k) : Leases past t where
  held k x hx := h.held k x (ht k ▸ hx)
  booked l hb := by rw [hl] at hb; cases hb
  sole k k' x y hx hy := h.sole k k' x y (ht k ▸ hx) (ht k' ▸ hy)
  pledged k l _ := by rw [hl]; exact nofun
  charge k l _ hb := by rw [hl] at hb; cases hb

end Leases

section Spending

variable {past : List Int} {s t : State} {a : Act} {lease : Int}

/-- **Every act keeps the leases in order**, as long as it grants none that was granted before. -/
theorem leases_act (h : Handover s a t) (hs : Leases past s)
    (hnew : ∀ lease, a.granted? = some lease → lease ∉ past) :
    Leases (past ++ a.granted?.toList) t := by
  cases h with
  | keeps _ g => exact (hs.fewer g).mono _
  | grants id lease _ hg hl hr ht =>
    rw [hg]
    exact hs.grants (hnew lease hg) hl hr ht
  | enrols id lease _ hid hl hr _ ht => exact (hs.enrols hid hl hr ht).mono _
  | drops _ hl _ ht => exact (hs.drops hl ht).mono _

/-- Whoever has a lease pledged after an act had it before, or is granted it. -/
theorem Handover.pledged (h : Handover s a t) {k : Nat}
    (hk : t.role Process.hold? k = some (.pledged lease)) :
    s.role Process.hold? k = some (.pledged lease) ∨
      (a.granted? = some lease ∧ ¬ s.Replaces a) := by
  cases h with
  | keeps _ g => exact .inl (g.holds k _ hk)
  | grants id l ha hg _ _ ht =>
    rw [ht] at hk
    split at hk
    · obtain rfl := Hold.pledged.inj (Option.some.inj hk)
      exact .inr ⟨hg, ha⟩
    · exact .inl hk
  | enrols id l _ _ _ _ _ ht =>
    rw [ht] at hk
    split at hk
    · cases hk
    · split at hk
      · cases hk
      · exact .inl hk
  | drops _ _ _ ht => exact .inl (ht k ▸ hk)

/-- A lease that is in the books after an act was there before, or pledged. -/
theorem Handover.booked (h : Handover s a t) (hl : t.own.lease = some lease) :
    (s.own.lease = some lease ∧ ¬ s.Replaces a) ∨
      ∃ k, s.role Process.hold? k = some (.pledged lease) := by
  cases h with
  | keeps ha g => exact .inl ⟨g.lease ▸ hl, ha⟩
  | grants _ _ ha _ hsame => exact .inl ⟨hsame ▸ hl, ha⟩
  | enrols id l _ hid hnew =>
    obtain rfl := Option.some.inj (hnew.symm.trans hl)
    exact .inr ⟨id, hid⟩
  | drops _ hnone => rw [hnone] at hl; cases hl

/-- **A lease that is dropped is spent**: as it was in the books, nobody had it pledged. -/
theorem spent_of_drops (h : Handover s a t) (hs : Leases past s) (hd : s.Drops lease a) :
    t.Spent lease := by
  obtain ⟨hlease, hrep⟩ := hd
  constructor
  case unused =>
    intro hl
    rcases h.booked hl with ⟨-, hno⟩ | ⟨k, hk⟩
    · exact hno hrep
    · exact hs.pledged k lease hk hlease
  case unpledged =>
    intro k hk
    rcases h.pledged hk with hk | ⟨-, hno⟩
    · exact hs.pledged k lease hk hlease
    · exact hno hrep

/-- **A lease that is spent stays spent**, as long as it is not granted once more. -/
theorem spent_act (h : Handover s a t) (hs : s.Spent lease) (hnew : a.granted? ≠ some lease) :
    t.Spent lease := by
  constructor
  case unused =>
    intro hl
    rcases h.booked hl with ⟨hl, -⟩ | ⟨k, hk⟩
    · exact hs.unused hl
    · exact hs.unpledged k hk
  case unpledged =>
    intro k hk
    rcases h.pledged hk with hk | ⟨hg, -⟩
    · exact hs.unpledged k hk
    · exact hnew hg

end Spending

end Muster.Leased
