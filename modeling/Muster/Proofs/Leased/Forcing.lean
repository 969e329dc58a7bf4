/-
  When is a needless restoring skipped?

  A restoring that is arranged because the renewals have ended is FORCED: not even the own instance in
  the cache keeps it from registering anew, as nobody renews the lease behind that instance.  What is
  forced is kept in one entry of the books.  The end of the delay before restoring takes it down, and
  nothing else does: neither a registration that comes to its end, nor a deregistration.

  A restoring is NEEDLESS if, when its delay is over, the own instance is in the cache and the lease of the
  registration is renewed.

  (1) `forced_act` — the entry is raised when the renewals of the registration end, and lowered when a
      delay is over;
  (2) `Forcing` — as long as a forced restoring has not seen a registration come to its end, nobody renews
      the lease;
  (3) `needless_skipped_iff` — hence a needless restoring is skipped EXACTLY unless the renewals of the
      registration have ended, and no delay has been over since; which is to say, unless a registration
      has come to its end while restoring was forced.

  THE CRUX of (2): whoever reads the renewals of the lease in the books is in charge, so once they have
  ended nobody is, until somebody registers.
-/
import Muster.Proofs.Leased.Tasks

namespace Muster.Leased

/-! ## What raises and lowers the entry -/

/-- **The renewals of the registration end**: a task that reads them is told so, or of an error. -/
def State.LosesRenewals (s : State) : Act → Prop
  | .signal k (.item i) => (∀ x, i ≠ some (.ok x)) ∧ s.flags.registered = true ∧
      ∃ lease, s.Renews k lease ∧ s.own.lease = some lease
  | _ => False

/-- **The delay before a restoring is over.** -/
def State.Wakes (s : State) : Act → Prop
  | .signal k .elapsed => s.process? k = some (.restore .delaying)
  | _ => False

/-- **A registration comes to its end while restoring is forced**: what has forced it is made up for. -/
def State.Outdates (s : State) (a : Act) : Prop := s.Enrols a ∧ s.own.forced = true

/-- **A restoring is needless**: its delay is over, the own instance is in the cache, and the lease of the
    registration is renewed. -/
structure Settings.Needless (c : Settings) (s : State) (a : Act) : Prop where
  wakes : s.Wakes a
  cached : s.registry.has c.self.name c.self.endpoint = true
  renewed : s.Renewed

section Acts

variable {c : Settings} {s t : State} {a : Act} {id : Nat}

/-- **What the end of the renewals leads to**: the task that has read them is over, and restoring is
    arranged. -/
theorem act_of_losesRenewals (h : c.act s a = some t) (hl : s.LosesRenewals a) :
    ∃ k lease u, s.Renews k lease ∧ s.own.lease = some lease ∧ u.own = s.own ∧
      u.nextId = s.nextId ∧ (∀ j, u.process? j = (s.finish k).process? j) ∧
      t = c.scheduleRestore true u := by
  unfold State.LosesRenewals at hl
  split at hl
  · rename_i k i
    obtain ⟨hi, hreg, lease, hk, hlease⟩ := hl
    obtain ⟨stream, hid⟩ := hk
    obtain ⟨p, hp, ht⟩ := Settings.turn h
    obtain rfl : Process.renewal lease stream = p := Option.some.inj (hid.symm.trans hp)
    cases ht with
    | renews => exact absurd rfl (hi _)
    | renewalLost ls l =>
      refine ⟨k, lease, _, ⟨stream, hid⟩, hlease, ?_, ?_, fun j => ?_, rfl⟩
      all_goals simp [Session.process?_finish]
    | renewalEnds ls l _ hor =>
      -- the registration stands, and is under this lease
      rcases hor with hoff | hne
      · rw [hoff] at hreg; cases hreg
      · exact absurd hlease hne
  · exact hl.elim

theorem forced_of_losesRenewals (h : c.act s a = some t) (hl : s.LosesRenewals a) :
    t.own.forced = true := by
  obtain ⟨k, lease, u, -, -, -, -, -, rfl⟩ := act_of_losesRenewals h hl
  simp

/-- A restoring that gets a time signal: the entry is lowered if the delay before it was over, and left
    alone between attempts. -/
theorem forced_of_elapsed {r : Restore} (h : c.act s (.signal id .elapsed) = some t)
    (hid : s.process? id = some (.restore r)) :
    (r = .delaying → t.own.forced = false) ∧ (r ≠ .delaying → t.own.forced = s.own.forced) := by
  have hstep : c.stepRestore s id r .elapsed = some t := by
    change (s.process? id).bind _ = _ at h
    rw [hid] at h
    exact h
  cases r with
  | delaying =>
    obtain rfl := Option.some.inj hstep
    refine ⟨fun _ => ?_, fun hne => absurd rfl hne⟩
    unfold Settings.afterDelay Settings.attempt
    dsimp only
    split
    · simp
    · split <;> simp
  | attempting => cases hstep
  | backingOff failures =>
    obtain rfl := Option.some.inj hstep
    refine ⟨(nomatch ·), fun _ => ?_⟩
    unfold Settings.attempt
    split <;> simp

theorem forced_of_wakes (h : c.act s a = some t) (hw : s.Wakes a) : t.own.forced = false := by
  unfold State.Wakes at hw
  split at hw
  · exact (forced_of_elapsed h hw).1 rfl
  · exact hw.elim

/-- A turn of the crew that neither loses the renewals nor wakes up leaves the entry alone. -/
theorem Turn.forced_eq {p : Process} {sig : Signal Reply Item} (ht : Turn c s id p sig t)
    (h : c.act s (.signal id sig) = some t) (hid : s.process? id = some p) (hp : p.isCrew = true)
    (hl : ¬ s.LosesRenewals (.signal id sig)) (hw : ¬ s.Wakes (.signal id sig)) :
    t.own.forced = s.own.forced := by
  cases ht with
  | renewalLost ls l hi hreg hlease => exact absurd ⟨hi, hreg, _, ⟨_, hid⟩, hlease⟩ hl
  | skips | wakes => exact absurd hid hw
  | yields =>
    refine (forced_of_elapsed h hid).2 fun hr => hw ?_
    rw [hr] at hid
    exact hid
  | asks | enrols | refused | renews | renewalEnds | renewalStops | retries | restoreStops
  | restoreAsks | restores | backsOff | givesUp => simp
  | _ => cases hp

theorem forced_eq (h : c.act s a = some t) (hn : s.Numbered) (hl : ¬ s.LosesRenewals a)
    (hw : ¬ s.Wakes a) : t.own.forced = s.own.forced := by
  cases Settings.deed h hn with
  | idle g => exact congrArg Standing.forced g.standing
  | begins => rfl
  | deregisters => simp
  | outside g =>
    obtain ⟨b, -, g⟩ := g
    refine (congrArg Standing.forced g.standing).trans ?_
    simp [State.standing]
  | crew hp hc ht => exact ht.forced_eq h hp hc hl hw
  | leaves => rfl

/-- **Restoring is forced after an act EXACTLY if the act loses the renewals**, or it was forced and no
    delay is over. -/
theorem forced_act (h : c.act s a = some t) (hn : s.Numbered) :
    t.own.forced = true ↔ s.LosesRenewals a ∨ (s.own.forced = true ∧ ¬ s.Wakes a) := by
  by_cases hl : s.LosesRenewals a
  · simp [hl, forced_of_losesRenewals h hl]
  by_cases hw : s.Wakes a
  · simp [hl, hw, forced_of_wakes h hw]
  · simp [hl, hw, forced_eq h hn hl hw]

/-! ## Nobody renews what is lost -/

theorem renewing_eq_some_iff {lease : Int} :
    s.renewing = some lease ↔
      ∃ k, s.own.renewal = some k ∧ s.role Process.hold? k = some (.renewed lease) := by
  have hrole (p : Process) : p.lease? = some lease ↔ p.hold? = some (.renewed lease) := by
    cases p with
    | restore r => cases r <;> simp [Process.lease?, Process.hold?]
    | _ => simp [Process.lease?, Process.hold?]
  rw [State.renewing, Option.bind_eq_some_iff]
  refine exists_congr fun k => and_congr_right fun _ => ?_
  simp only [Session.role, Option.bind_eq_some_iff, hrole]

/-- **Once the renewals have ended nobody renews the lease**, as whoever does is in charge. -/
theorem renewing_of_losesRenewals {past : List Int} (h : c.act s a = some t) (hn : s.Numbered)
    (hs : Leases past s) (hl : s.LosesRenewals a) : t.renewing = none := by
  obtain ⟨k, lease, u, hk, hlease, hown, hnext, hproc, rfl⟩ := act_of_losesRenewals h hl
  have hcharge : s.own.renewal = some k := hs.charge k lease hk.role hlease
  have hne : k ≠ s.nextId := by
    obtain ⟨stream, hk⟩ := hk
    exact hn.ne_nextId hk
  simp [State.renewing, hown, hcharge, hproc, hnext, hne, Session.process?_finish]

/-- Where nobody renews the lease, nobody will before a registration comes to its end. -/
theorem Handover.renewing (h : Handover s a t) (he : ¬ s.Enrols a) (hs : s.renewing = none) :
    t.renewing = none := by
  rw [Option.eq_none_iff_forall_ne_some] at hs ⊢
  intro lease ht
  obtain ⟨k, hk, hrole⟩ := renewing_eq_some_iff.1 ht
  refine hs lease (renewing_eq_some_iff.2 ⟨k, ?_⟩)
  cases h with
  | keeps _ g => exact ⟨g.renewal ▸ hk, g.holds k _ hrole⟩
  | grants id l _ _ _ hr hroles =>
    rw [hroles] at hrole
    split at hrole
    · cases hrole
    · exact ⟨hr ▸ hk, hrole⟩
  | enrols _ _ henr => exact absurd henr he
  | drops _ _ hr => rw [hr] at hk; cases hk

end Acts

/-! ## Runs -/

/-- **What a forced restoring means**, after all that has happened: nobody renews the lease, unless it is
    outdated. -/
structure Forcing (turns : List (State × Act)) (s : State) : Prop extends Recorded turns s where
  outdated : Run.Since State.Outdates State.Wakes turns → s.own.forced = true
  lost : s.own.forced = true → s.renewing = none ∨ Run.Since State.Outdates State.Wakes turns

theorem forcing_initial : Forcing [] .initial where
  toRecorded := recorded_initial
  outdated h := absurd h Run.not_since_nil
  lost h := nomatch h

/-- Whoever comes to the end of a registration wakes nobody up. -/
theorem not_wakes_of_enrols {s : State} {a : Act} (h : s.Enrols a) : ¬ s.Wakes a := by
  intro hw
  unfold State.Wakes at hw
  split at hw
  · exact h
  · exact hw

/-- **Every act keeps this**, as long as it grants no lease that was granted before. -/
theorem forcing_act {c : Settings} {turns : List (State × Act)} {s t : State} {a : Act}
    (h : c.act s a = some t) (hs : Forcing turns s)
    (hnew : ∀ lease, a.granted? = some lease → lease ∉ granted turns) :
    Forcing (turns ++ [(s, a)]) t := by
  have hn : s.Numbered := hs.upright.orderly.numbered
  refine ⟨recorded_act h hs.toRecorded hnew, fun hout => ?_, fun hforced => ?_⟩
  · rw [forced_act h hn]
    rcases Run.since_concat.1 hout with ⟨henr, hforced⟩ | ⟨hout, hw⟩
    · exact .inr ⟨hforced, not_wakes_of_enrols henr⟩
    · exact .inr ⟨hs.outdated hout, hw⟩
  · rw [Run.since_concat]
    rcases (forced_act h hn).1 hforced with hl | ⟨hforced, hw⟩
    · exact .inl (renewing_of_losesRenewals h hn hs.leases hl)
    · rcases hs.lost hforced with hnone | hout
      · by_cases he : s.Enrols a
        · exact .inr (.inl ⟨he, hforced⟩)
        · exact .inl ((handover_act h hn).renewing he hnone)
      · exact .inr (.inr ⟨hout, hw⟩)

theorem forcing_run {c : Settings} {turns : List (State × Act)} {s : State}
    (reached : Run c.act .initial turns s) (distinct : (granted turns).Nodup) :
    Forcing turns s := by
  refine reached.history Forcing forcing_initial fun past u a v hpast ih ha => ?_
  exact forcing_act ha ih fun lease hg => fresh_of_nodup distinct hpast hg

section Needless

variable {c : Settings} {turns : List (State × Act)} {s t : State} {a : Act}

/-- **A registration that is renewed stands.** -/
theorem standing_of_renewed (reached : Run c.act .initial turns s) (h : s.Renewed) :
    s.flags.registered = true ∧ s.renewing ≠ none := by
  have hopen : s.closed = false := by
    obtain ⟨k, lease, stream, -, hcancel, -⟩ := h
    simp only [State.isCancelled, Bool.or_eq_false_iff] at hcancel
    exact hcancel.1
  have hkept := kept_run reached hopen
  have hren := (renewed_iff hkept hopen).1 h
  refine ⟨?_, hren⟩
  rw [← Bool.not_eq_false]
  exact fun hoff => hren (hkept.off hoff)

/-- **Restoring is forced EXACTLY if the renewals of the registration have ended**, and no delay has been
    over since. -/
theorem forced_iff (reached : Run c.act .initial turns s) :
    s.own.forced = true ↔ Run.Since State.LosesRenewals State.Wakes turns := by
  have hnumbered := numbered_throughout reached numbered_initial
  exact reached.since_iff (fun u => u.own.forced = true) (by decide) fun q hq v hv =>
    forced_act hv (hnumbered.1 q hq)

/-- **What a needless restoring sends**: nothing if it is not forced, and a request for a lease if it is. -/
theorem requests_of_needless (h : c.act s a = some t)
    (hneedless : c.Needless s a) (hreg : s.flags.registered = true) :
    (s.own.forced = false → t.requests = s.requests) ∧
      (s.own.forced = true →
        ∃ id, t.requests = (id, .grant c.lease.ttlSecs) :: s.requests) := by
  obtain ⟨hw, hhas, -⟩ := hneedless
  unfold State.Wakes at hw
  split at hw
  · rename_i id
    obtain rfl := Option.some.inj ((c.act_of_delaying hw).symm.trans h)
    refine ⟨fun hforced => ?_, fun hforced => ⟨id, ?_⟩⟩
    · simp [Settings.afterDelay, hforced, hhas]
    · simp [Settings.afterDelay, Settings.attempt, hforced, hreg]
  · exact hw.elim

/-- **Which needless restorings are skipped**, along every run: all, EXACTLY unless the renewals of the
    registration have ended, and no delay has been over since.  Where no lease is granted twice, this is
    so EXACTLY if some registration has come to its end while restoring was forced. -/
theorem needless_skipped_iff (reached : Run c.act .initial turns s) (h : c.act s a = some t)
    (needless : c.Needless s a) :
    (t.requests = s.requests ↔ ¬ Run.Since State.LosesRenewals State.Wakes turns) ∧
      (Run.Since State.LosesRenewals State.Wakes turns →
        ∃ id, t.requests = (id, .grant c.lease.ttlSecs) :: s.requests) ∧
      ((granted turns).Nodup → (Run.Since State.LosesRenewals State.Wakes turns ↔
        Run.Since State.Outdates State.Wakes turns)) := by
  obtain ⟨hreg, hren⟩ := standing_of_renewed reached needless.renewed
  obtain ⟨hskips, hasks⟩ := requests_of_needless h needless hreg
  rw [← forced_iff reached]
  refine ⟨⟨fun hsame hforced => ?_, fun hno => hskips ?_⟩, hasks, fun distinct => ?_⟩
  · obtain ⟨id, hmore⟩ := hasks hforced
    exact List.cons_ne_self _ _ (hmore.symm.trans hsame)
  · rwa [Bool.not_eq_true] at hno
  · have hforcing := forcing_run reached distinct
    exact ⟨fun hforced => (hforcing.lost hforced).resolve_left hren, hforcing.outdated⟩

end Needless

/-! ## A key that shows up again -/

/-- **What decides whether a restoring is needless**, and what it will do. -/
structure Outlook where
  restoring : Option Process
  renewing : Option Process
  lease : Option Int
  cancelled : Bool
  cached : Bool
  registered : Bool
  forced : Bool
deriving DecidableEq

/-- The outlook for the restoring with the number `j`, where the task with the number `k` renews. -/
def State.outlook (s : State) (j k : Nat) : Outlook where
  restoring := s.process? j
  renewing := s.process? k
  lease := s.own.lease
  cancelled := s.isCancelled k
  cached := s.registry.has Settings.sample.self.name Settings.sample.self.endpoint
  registered := s.flags.registered
  forced := s.own.forced

theorem exists_needless {acts : List Act} {j k stream : Nat} {lease : Int} {forced : Bool}
    (h : (acts.foldlM Settings.sample.act .initial).map (State.outlook · j k) =
      some ⟨some (.restore .delaying), some (.renewal lease stream), some lease, false, true, true,
        forced⟩) :
    ∃ turns s t, Run Settings.sample.act .initial turns s ∧ turns.map Prod.snd = acts ∧
      Settings.sample.act s (.signal j .elapsed) = some t ∧
      Settings.sample.Needless s (.signal j .elapsed) ∧ s.flags.registered = true ∧
      s.own.forced = forced := by
  obtain ⟨s, hs, hx⟩ := Option.map_eq_some_iff.1 h
  simp only [State.outlook, Outlook.mk.injEq] at hx
  obtain ⟨hwakes, hrenewal, hlease, hcancel, hcached, hreg, hforced⟩ := hx
  obtain ⟨turns, hr, ha⟩ := Run.of_foldlM hs
  exact ⟨turns, s, _, hr, ha, Settings.sample.act_of_delaying hwakes,
    ⟨hwakes, hcached, k, lease, stream, hrenewal, hcancel, hlease⟩, hreg, hforced⟩

/-- A backend starts its watch and registers; then the watch tells of a batch of events. -/
def watchActs (batch : List Event) : List Act :=
  [.call .start, .signal 0 (.reply (.ok (.contents ⟨7, []⟩))), .signal 1 .turn,
    .signal 1 (.reply (.ok (.opened 0))), .call .register,
    .signal 2 (.reply (.ok (.granted 100))), .signal 2 (.reply (.ok .done)),
    .signal 2 (.reply (.ok (.opened 1))), .signal 1 (.item (some (.ok (.changes batch))))]

/-- The removal of the own key. -/
def removal : Event := .delete Settings.sample.key

/-- The own key is removed, and put once more. -/
def reappearance : List Event :=
  [removal, .put Settings.sample.key Settings.sample.value.toByteArray]

/-- The key of a backend shows up again: restoring is needless, and is skipped. -/
theorem needless_skipped_reappeared :
    ∃ turns s t, Run Settings.sample.act .initial turns s ∧ granted turns = [100] ∧
      Settings.sample.act s (.signal 4 .elapsed) = some t ∧
      Settings.sample.Needless s (.signal 4 .elapsed) ∧ t.requests = s.requests ∧
      ¬ Run.Since State.LosesRenewals State.Wakes turns := by
  have hlast : ((watchActs reappearance).foldlM Settings.sample.act .initial).map
      (State.outlook · 4 3) = some ⟨some (.restore .delaying), some (.renewal 100 1), some 100,
        false, true, true, false⟩ := by decide +kernel
  obtain ⟨turns, s, t, hr, ha, ht, hneedless, hreg, hforced⟩ := exists_needless hlast
  have hgranted : granted turns = [100] := by rw [granted, ha]; rfl
  have hsame := (requests_of_needless ht hneedless hreg).1 hforced
  have hiff := (needless_skipped_iff hr ht hneedless).1
  exact ⟨turns, s, t, hr, hgranted, ht, hneedless, hsame, hiff.1 hsame⟩

/-- The key is removed, and an attempt to restore it is on its way when the renewals end; the attempt
    succeeds.  Then the key is removed and put once more. -/
def outdatedActs : List Act :=
  watchActs [removal] ++ [.signal 4 .elapsed, .signal 3 (.item none),
    .signal 4 (.reply (.ok (.granted 101))), .signal 4 (.reply (.ok .done)),
    .signal 4 (.reply (.ok (.opened 2))), .signal 1 (.item (some (.ok (.changes reappearance))))]

/-- **A needless restoring that is NOT skipped**: the lease is renewed and the own instance in the cache,
    and yet the backend asks for another lease. -/
theorem needless_not_skipped :
    ∃ turns s t, Run Settings.sample.act .initial turns s ∧ turns.map Prod.snd = outdatedActs ∧
      granted turns = [100, 101] ∧ Settings.sample.act s (.signal 6 .elapsed) = some t ∧
      Settings.sample.Needless s (.signal 6 .elapsed) ∧
      ∃ id, t.requests = (id, .grant 2) :: s.requests := by
  have hlast : (outdatedActs.foldlM Settings.sample.act .initial).map (State.outlook · 6 5) =
      some ⟨some (.restore .delaying), some (.renewal 101 2), some 101, false, true, true,
        true⟩ := by decide +kernel
  obtain ⟨turns, s, t, hr, ha, ht, hneedless, hreg, hforced⟩ := exists_needless hlast
  refine ⟨turns, s, t, hr, ha, ?_, ht, hneedless, ?_⟩
  · rw [granted, ha]; rfl
  · exact (requests_of_needless ht hneedless hreg).2 hforced

end Muster.Leased
