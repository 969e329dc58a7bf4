/-
  Does a backend heal itself for its own key only?

  A removal says a service and an endpoint, both read off its key.  If the endpoint is the own address and port, the
  registration counts as lost: the backend is degraded, and the registration is to be restored.  The service is
  NOT looked at.  So the removal of a TWIN, of another service at the own address and port, is taken for a loss as
  well, although the own key still stands; a full snapshot, on the other hand, is searched for the own endpoint
  under the own name.

  (1) `hits_iff` — which events are taken for a loss: removals of the own key, however the port in it is written,
      and of a twin;
  (2) `unmoved_iff` — when a batch of events leaves the backend as it is;
  (3) `healing_own_iff` — a batch is taken for a loss for the sake of the own key only, EXACTLY unless it removes a
      twin, but not the own key, from under a backend that is registered and still has something to lose.
-/
import Muster.Proofs.Leased.Streams

namespace Muster.Leased

/-! ## Removals -/

/-- The service and the endpoint that a removal says. -/
def Event.removal? (scope : String) : Event → Option (String × String)
  | .put .. => none
  | .delete k => Layout.parse scope k

/-- **An event removes the own key**: it says the own name, and the own address and port. -/
def Settings.RemovesOwn (c : Settings) (e : Event) : Prop :=
  ∃ p, e.removal? c.scope = some (c.self.name, p) ∧
    Endpoint.split p = some (c.self.address, c.self.port)

/-- An event removes a key of another service. -/
def Settings.RemovesOther (c : Settings) (e : Event) : Prop :=
  ∃ n p, n ≠ c.self.name ∧ e.removal? c.scope = some (n, p)

/-- **An event removes a twin**: another service, at the own address and port. -/
def Settings.RemovesTwin (c : Settings) (e : Event) : Prop :=
  ∃ n p, n ≠ c.self.name ∧ e.removal? c.scope = some (n, p) ∧
    Endpoint.split p = some (c.self.address, c.self.port)

section Removals

variable {c : Settings} {e : Event} {s t : State} {batch : List Event}

/-- An event withdraws the instance that is rebuilt from its key, if it is a removal. -/
theorem finding_eq_withdrawn_iff {scope n : String} {i : Instance} :
    e.finding scope = .withdrawn n i ↔
      ∃ p, e.removal? scope = some (n, p) ∧ Instance.ofEndpoint n p = some i := by
  cases e with
  | put k v => exact iff_of_false findPut_ne_withdrawn fun ⟨_, h, _⟩ => nomatch h
  | delete k => exact findDelete_eq_withdrawn_iff

/-- What is rebuilt from a key is at the own address and port EXACTLY if the endpoint says so. -/
theorem ofEndpoint_isAt_iff (name : String) {endpoint address : String} {port : UInt16} :
    (∃ i, Instance.ofEndpoint name endpoint = some i ∧ i.isAt address port = true) ↔
      Endpoint.split endpoint = some (address, port) := by
  unfold Instance.ofEndpoint
  cases Endpoint.split endpoint with
  | none => simp
  | some q => simp [Instance.isAt, Prod.ext_iff]

/-- **What is taken for a loss**: the removal of the own key, and that of a twin. -/
theorem hits_iff : c.hits e = true ↔ c.RemovesOwn e ∨ c.RemovesTwin e := by
  have hfinding : c.hits e = true ↔ ∃ n i, e.finding c.scope = .withdrawn n i ∧
      i.isAt c.self.address c.self.port = true := by
    unfold Settings.hits
    cases e.finding c.scope with
    | withdrawn n i =>
      refine ⟨fun h => ⟨n, i, rfl, h⟩, ?_⟩
      rintro ⟨_, _, hf, h⟩
      obtain ⟨rfl, rfl⟩ := Finding.withdrawn.inj hf
      exact h
    | _ => simp
  rw [hfinding]
  simp only [finding_eq_withdrawn_iff]
  constructor
  · rintro ⟨n, i, ⟨p, hp, hi⟩, hat⟩
    have hsplit := (ofEndpoint_isAt_iff n).1 ⟨i, hi, hat⟩
    by_cases hn : n = c.self.name
    · exact .inl ⟨p, hn ▸ hp, hsplit⟩
    · exact .inr ⟨n, p, hn, hp, hsplit⟩
  · rintro (⟨p, hp, hsplit⟩ | ⟨n, p, -, hp, hsplit⟩)
    · obtain ⟨i, hi, hat⟩ := (ofEndpoint_isAt_iff c.self.name).2 hsplit
      exact ⟨_, i, ⟨p, hp, hi⟩, hat⟩
    · obtain ⟨i, hi, hat⟩ := (ofEndpoint_isAt_iff n).2 hsplit
      exact ⟨n, i, ⟨p, hp, hi⟩, hat⟩

end Removals

/-! ## Batches -/

/-- **The backend is as it was**, as far as its registration goes. -/
structure Unmoved (s t : State) : Prop where
  state : t.flags.state = s.flags.state
  restoring : t.own.restoring = s.own.restoring
  processes : ∀ k, t.process? k = s.process? k

/-- **What a batch does to the books**, if it is taken for a loss or not: the backend is degraded, and unless one
    is there already a task begins that restores. -/
structure Booked (lost : Bool) (s t : State) : Prop where
  flags : t.flags = { s.flags with degraded := lost || s.flags.degraded }
  own : t.own = { s.own with restoring := lost || s.own.restoring }
  processes : ∀ k, t.process? k =
    if lost && !s.own.restoring then
      (s.process? k).or (if k = s.nextId then some (.restore .delaying) else none)
    else s.process? k

section Batches

variable {c : Settings} {s t : State} {lost : Bool} {batch : List Event}

theorem booked_observeAll (c : Settings) (s : State) (batch : List Event) :
    Booked (s.flags.registered && batch.any c.hits) s (c.observeAll s batch) := by
  have h := c.observeAll_alike s batch
  obtain ⟨hflags, -, -, hp, -, hown, -⟩ := c.lose_books (s.flags.registered && batch.any c.hits) s
  exact ⟨h.flags.trans hflags, h.own.trans hown, fun k => (h.process? k).trans (hp k)⟩

/-- **A loss changes nothing EXACTLY if everything is lost already.** -/
theorem Booked.unmoved_iff (h : Booked lost s t) :
    Unmoved s t ↔ (lost = true → s.flags.degraded = true ∧ s.own.restoring = true) := by
  constructor
  · rintro hu rfl
    have hdeg : t.flags.state = .degraded :=
      (Flags.state_eq_degraded_iff _).2 (by rw [h.flags]; rfl)
    have hrestoring := hu.restoring
    rw [h.own] at hrestoring
    exact ⟨(Flags.state_eq_degraded_iff _).1 (hu.state ▸ hdeg), hrestoring.symm⟩
  · intro hlost
    obtain ⟨hflags, hown, hp⟩ := h
    cases lost with
    | false => exact ⟨by rw [hflags]; rfl, by rw [hown]; rfl, hp⟩
    | true =>
      obtain ⟨hdeg, hrestoring⟩ := hlost rfl
      refine ⟨?_, by rw [hown, hrestoring]; rfl, fun k => by rw [hp, hrestoring]; rfl⟩
      rw [(Flags.state_eq_degraded_iff _).2 hdeg, Flags.state_eq_degraded_iff, hflags]
      rfl

/-- **A batch is taken for a loss for the sake of the own key only.** -/
structure HealsOwn (c : Settings) (s : State) (batch : List Event) (t : State) : Prop where
  /-- Nothing happens but to a backend that is registered, and when its own key is removed. -/
  own : ¬ Unmoved s t → s.flags.registered = true ∧ ∃ e ∈ batch, c.RemovesOwn e
  /-- The removal of keys of other services leaves it as it is. -/
  others : (∀ e ∈ batch, c.RemovesOther e) → Unmoved s t

/-- **A twin is removed, and the own key is not**, from under a backend that has something to lose. -/
structure Settings.Confounds (c : Settings) (s : State) (batch : List Event) : Prop where
  registered : s.flags.registered = true
  twin : ∃ e ∈ batch, c.RemovesTwin e
  own : ¬ ∃ e ∈ batch, c.RemovesOwn e
  spare : ¬ (s.flags.degraded = true ∧ s.own.restoring = true)

/-- **A batch is taken for a loss if and only if it removes the own key or a twin, and then the books say so; and
    it is for the sake of the own key only EXACTLY unless it removes a twin alone.** -/
theorem healing_own_iff (c : Settings) (s : State) (batch : List Event) :
    (∃ lost, (lost = true ↔ s.flags.registered = true ∧
        ∃ e ∈ batch, c.RemovesOwn e ∨ c.RemovesTwin e) ∧ Booked lost s (c.observeAll s batch)) ∧
      (HealsOwn c s batch (c.observeAll s batch) ↔ ¬ c.Confounds s batch) := by
  have hbooked := booked_observeAll c s batch
  have hlost : (s.flags.registered && batch.any c.hits) = true ↔ s.flags.registered = true ∧
      ∃ e ∈ batch, c.RemovesOwn e ∨ c.RemovesTwin e := by
    rw [Bool.and_eq_true_iff, List.any_eq_true]
    simp only [hits_iff]
  refine ⟨⟨_, hlost, hbooked⟩, fun hheals hconf => ?_, fun hno => ⟨fun hmoved => ?_, fun hall => ?_⟩⟩
  · -- a twin alone is a loss that is not the own
    obtain ⟨e, he, htwin⟩ := hconf.twin
    refine hconf.own (hheals.own fun hu => hconf.spare ?_).2
    exact hbooked.unmoved_iff.1 hu (hlost.2 ⟨hconf.registered, e, he, .inr htwin⟩)
  · rw [hbooked.unmoved_iff, Classical.not_imp] at hmoved
    obtain ⟨hl, hspare⟩ := hmoved
    obtain ⟨hreg, e, he, hown | htwin⟩ := hlost.1 hl
    · exact ⟨hreg, e, he, hown⟩
    · refine ⟨hreg, Classical.byContradiction fun hown => hno ⟨hreg, ⟨e, he, htwin⟩, hown, hspare⟩⟩
  · refine hbooked.unmoved_iff.2 fun hl => Classical.byContradiction fun hspare => ?_
    obtain ⟨hreg, e, he, hor⟩ := hlost.1 hl
    have hown : ¬ ∃ e ∈ batch, c.RemovesOwn e := by
      rintro ⟨e', he', p, hp, -⟩
      obtain ⟨n, q, hn, hq⟩ := hall e' he'
      exact hn (Prod.mk.inj (Option.some.inj (hq.symm.trans hp))).1
    exact hno ⟨hreg, ⟨e, he, hor.resolve_left fun h => hown ⟨e, he, h⟩⟩, hown, hspare⟩

end Batches

/-- The key of another service, at the own address and port, is removed. -/
def twinRemoved : List Event := [.delete "discovery/default/payment/10.0.0.1:9000"]

/-- **A backend that heals itself for a twin**: it watches and is registered, and the key of a twin is removed.  The
    backend is degraded, and its registration is to be restored. -/
theorem healed_for_twin :
    ∃ turns s t, Run Settings.sample.act .initial turns s ∧ s.flags.state = .watching ∧
      Settings.sample.act s (.signal 1 (.item (some (.ok (.changes twinRemoved))))) = some t ∧
      t = Settings.sample.observeAll s twinRemoved ∧ (∀ e ∈ twinRemoved, Settings.sample.RemovesOther e) ∧
      t.flags.state = .degraded ∧ t.process? 4 = some (.restore .delaying) ∧
      ¬ HealsOwn .sample s twinRemoved t := by
  have hall : (announcedActs.foldlM Settings.sample.act .initial).map (fun s =>
      (s.flags.state, s.process? 1, (Settings.sample.observeAll s twinRemoved).flags.state,
        (Settings.sample.observeAll s twinRemoved).process? 4)) =
      some (.watching, some (.watch (.reading 0)), .degraded, some (.restore .delaying)) := by
    decide +kernel
  obtain ⟨s, hr, -, hall⟩ := Run.of_view hall
  simp only [Prod.mk.injEq] at hall
  obtain ⟨hstate, hwatch, hdegraded, hrestore⟩ := hall
  have hother : ∀ e ∈ twinRemoved, Settings.sample.RemovesOther e := by
    intro e he
    obtain rfl := List.mem_singleton.1 he
    exact ⟨"payment", "10.0.0.1:9000", by decide, by decide +kernel⟩
  refine ⟨_, s, _, hr, hstate, Settings.sample.act_of_process? hwatch _, rfl, hother, hdegraded,
    hrestore, fun hheals => ?_⟩
  have hsame := (hheals.others hother).state
  rw [hdegraded, hstate] at hsame
  cases hsame

end Muster.Leased
