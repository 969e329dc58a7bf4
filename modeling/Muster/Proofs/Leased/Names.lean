/-
  Do the instances of a service have its name?

  A put is filed under the service in its KEY, but what is filed is the instance in its VALUE, and the value may say
  another service and another endpoint.  The removal of the key is about the service and the endpoint in the key.
  So a value that does not agree with its key is returned under a name that is not its own, and outlives its key.

  (1) `Answer` — a call for the instances of a service returns; `Answer.list_eq`: it returns nothing, or the members
      at that moment;
  (2) `Answer.named` — hence all that is returned has the name of the service EXACTLY unless an announcement with
      another name came to stay;
  (3) `mem_leftover_iff` — what a put and the removal of its key leave behind;
  (4) `names_agree_iff` — both of them.

  THE CRUX: nothing compares a value with its key, so each half of an announcement is believed by another reader.
-/
import Muster.Proofs.Leased.Edits
import Muster.Proofs.Leased.Origins

namespace Muster.Leased

open Session (Edits Spares)

/-! ## Calls for instances -/

/-- **A call has a number, and is for the instances of a service**: as long as it waits, it waits for a snapshot. -/
structure State.Queries (s : State) (k : Nat) (n : String) : Prop where
  number : k < s.nextId
  process : ∀ p, s.process? k = some p → p = .querying n

section Calls

variable {c : Settings} {s t : State} {k id : Nat} {n : String} {l : List Instance}

theorem call_instances_of_some {m : Members} (hg : s.registry.get? n = some m) :
    c.call s (.instances n) = armWatch none (s.instant (.instances m.list)) := by
  rw [Settings.call, hg]

theorem call_instances_of_none (hg : s.registry.get? n = none) :
    c.call s (.instances n) =
      armWatch none (s.begin (.range (Layout.serviceLead c.scope n)) (.querying n)) := by
  rw [Settings.call, hg]

/-- A watch that is armed touches nobody. -/
theorem spares_armWatch (start : Option Int) (s : State) : Spares s.nextId s (armWatch start s) := by
  have he : Edits s.nextId (fun _ => True) (fun _ => True) s (armWatch start s) :=
    edits_armWatch .refl start fun _ => trivial
  exact he.spares

theorem State.Queries.armWatch (h : s.Queries k n) (start : Option Int) :
    (armWatch start s).Queries k n where
  number := Nat.lt_of_lt_of_le h.number (spares_armWatch start s).nextId
  process p hp := by
    rw [(spares_armWatch start s).process? k h.number (Nat.ne_of_lt h.number)] at hp
    exact h.process p hp

theorem queries_call (c : Settings) (hs : s.Orderly) (n : String) :
    (c.call s (.instances n)).Queries s.nextId n := by
  cases hg : s.registry.get? n with
  | some m =>
    rw [call_instances_of_some hg]
    refine .armWatch ⟨Nat.lt_succ_self _, fun p hp => ?_⟩ none
    have hnone : (s.instant (.instances m.list)).process? s.nextId = none := hs.numbered.process?_nextId
    rw [hnone] at hp
    cases hp
  | none =>
    rw [call_instances_of_none hg]
    exact .armWatch ⟨Nat.lt_succ_self _, (Session.Unanswered.begin hs _).process⟩ none

/-- **It waits for nothing else**, whatever happens. -/
theorem queries_act {a : Act} (h : c.act s a = some t) (hs : s.Upright .closing)
    (hk : s.Queries k n) : t.Queries k n := by
  have hspares := (upright_act h hs).1
  refine ⟨Nat.lt_of_lt_of_le hk.number hspares.nextId, fun p hp => ?_⟩
  by_cases he : a.number s = k
  · -- when it has its turn, or is no longer waited for, it is over
    rcases signal_or_abandon h hk.number he with ⟨sig, q, rfl, hq, hturn⟩ | ⟨-, rfl, -, -, rfl⟩
    · obtain rfl := hk.process q hq
      cases hturn with
      | finds | findFails => simp [Session.process?_finish] at hp
    · simp [Session.process?_finish] at hp
  · exact hk.process p ((hspares.process? k hk.number (Ne.symm he)).symm.trans hp)

/-- **A call is answered at once EXACTLY if the service is known**, with its members. -/
theorem mem_returns_call (hs : s.Orderly) :
    (s.nextId, .instances l) ∈ (c.call s (.instances n)).returns ↔
      ∃ m, s.registry.get? n = some m ∧ m.list = l := by
  have hnew : (s.nextId, .instances l) ∉ s.returns := fun h => Nat.lt_irrefl _ (hs.returned _ h).1
  -- arming the watch returns nothing
  have harm {u : State} (hu : s.nextId < u.nextId) :
      (s.nextId, .instances l) ∈ (armWatch none u).returns ↔ (s.nextId, .instances l) ∈ u.returns :=
    (spares_armWatch none u).returns _ hu (Nat.ne_of_lt hu) _
  cases hg : s.registry.get? n with
  | some m =>
    have hcons : (s.instant (.instances m.list)).returns = (s.nextId, .instances m.list) :: s.returns := rfl
    rw [call_instances_of_some hg, harm (Nat.lt_succ_self _), hcons, List.mem_cons, or_iff_left hnew]
    simp [eq_comm]
  | none =>
    rw [call_instances_of_none hg, harm (Nat.lt_succ_self _)]
    exact iff_of_false hnew (by simp)

/-- **A call that has waited returns the members**, or nothing. -/
theorem list_of_querying {sig : Signal Reply Item} (h : c.act s (.signal id sig) = some t)
    (hs : s.Orderly) (hid : s.process? id = some (.querying n))
    (hl : (id, .instances l) ∈ t.returns) : l = [] ∨ l = (t.registry.members n).list := by
  -- whoever waits has returned nothing yet
  have hfirst {u : State} {o : Outcome} (hu : Edits id (fun _ => True) (fun _ => True) s u)
      (hp : u.process? id = some (.querying n)) (hmem : (id, .instances l) ∈ (u.answer id o).returns) :
      o = .instances l := by
    rcases List.mem_cons.1 hmem with he | hold
    · exact (Prod.mk.inj he).2.symm
    · have hnone := ((hu.orderly hs).returned _ hold).2
      rw [hp] at hnone
      cases hnone
  rw [c.act_of_process? hid] at h
  obtain ⟨r, -, h⟩ := Option.bind_eq_some_iff.1 h
  unfold Settings.stepQuerying at h
  split at h
  · rename_i snap
    have hu := edits_merge (c := c) (.refl : Edits id (fun _ => True) (fun _ => True) s s) snap
    have hp : (c.synchronise false snap s).process? id = some (.querying n) :=
      ((c.synchronise_alike false snap s).process? id).trans (process?_lose c _ hid)
    dsimp only at h
    split at h
    · rename_i m hm
      obtain rfl := Option.some.inj h
      obtain rfl := Outcome.instances.inj (hfirst hu hp hl)
      refine .inr ?_
      show _ = ((c.synchronise false snap s).registry.members n).list
      rw [Registry.members, hm, Option.getD_some]
    · obtain rfl := Option.some.inj h
      exact .inl (Outcome.instances.inj (hfirst (hu.note _) hp hl)).symm
  · cases h
  · obtain rfl := Option.some.inj h
    exact .inl (Outcome.instances.inj (hfirst (.note _ .refl) hid hl)).symm

end Calls

/-! ## Answers -/

/-- **A call for the instances of a service returns**, and does so now. -/
structure Answer (c : Settings) where
  past : List (State × Act)
  before : State
  act : Act
  now : State
  reached : Run c.act .initial past before
  step : c.act before act = some now
  /-- The state in which the call was made. -/
  caller : State
  service : String
  list : List Instance
  called : (caller, .call (.instances service)) ∈ past ++ [(before, act)]
  returned : (caller.nextId, .instances list) ∈ now.returns
  unsaid : (caller.nextId, .instances list) ∉ before.returns

namespace Answer

variable {c : Settings} (x : Answer c)

/-- All that has been merged. -/
def merged : List Merge := mergedIn (x.past ++ [(x.before, x.act)])

/-- **Nothing is returned, or the members at that moment.** -/
theorem list_eq : x.list = [] ∨ x.list = (x.now.registry.members x.service).list := by
  have hs : x.before.Upright .closing := upright_run x.reached upright_initial
  rcases List.mem_append.1 x.called with hpast | hlast
  · obtain ⟨front, back, v, -, hfront, hv, hback⟩ := x.reached.split hpast
    have hcaller := upright_run hfront upright_initial
    obtain rfl := Option.some.inj hv
    have hinv := hback.invariant
      (fun u => u.Upright .closing ∧ u.Queries x.caller.nextId x.service)
      ⟨(upright_act hv hcaller).2, queries_call c hcaller.orderly _⟩ fun p _ u hu ha =>
        ⟨(upright_act ha hu.1).2, queries_act ha hu.1 hu.2⟩
    have hk := hinv.2
    by_cases he : x.act.number x.before = x.caller.nextId
    · rcases signal_or_abandon x.step hk.number he with ⟨sig, p, ha, hp, -⟩ | ⟨-, -, -, -, hover⟩
      · obtain rfl := hk.process p hp
        exact list_of_querying (ha ▸ x.step) hs.orderly hp x.returned
      · have hreturned := x.returned
        rw [hover] at hreturned
        exact absurd hreturned x.unsaid
    · have hold := ((upright_act x.step hs).1.returns _ hk.number (Ne.symm he) _).1 x.returned
      exact absurd hold x.unsaid
  · obtain ⟨hcaller, hact⟩ := Prod.mk.inj (List.mem_singleton.1 hlast)
    have hnow : x.now = c.call x.before (.instances x.service) := by
      have hstep := x.step
      rw [← hact] at hstep
      exact (Option.some.inj hstep).symm
    have hreturned := x.returned
    rw [hcaller, hnow, mem_returns_call hs.orderly] at hreturned
    obtain ⟨m, hm, hlist⟩ := hreturned
    rw [hnow, registry_call, Registry.members, hm]
    exact .inr hlist.symm

/-- **What a list of instances has to do with what was announced.** -/
structure Named : Prop where
  /-- It is empty, or holds whoever came to stay. -/
  members : x.list = [] ∨ ∀ i, i ∈ x.list ↔ ∃ k v, c.CameBy x.service i k v x.merged
  /-- All have the name of the service EXACTLY unless an announcement came to stay that says another name. -/
  names : (∀ i ∈ x.list, i.name = x.service) ↔
    x.list = [] ∨ ¬ ∃ i k v, i.name ≠ x.service ∧ c.CameBy x.service i k v x.merged

theorem named : x.Named := by
  have hrun : Run c.act .initial (x.past ++ [(x.before, x.act)]) x.now :=
    Run.concat_iff.2 ⟨x.reached, x.step⟩
  have hmembers : x.list = [] ∨ ∀ i, i ∈ x.list ↔ ∃ k v, c.CameBy x.service i k v x.merged := by
    refine x.list_eq.imp id fun hl i => ?_
    rw [hl]
    exact mem_members_iff hrun
  refine ⟨hmembers, ?_⟩
  rcases hmembers with hnil | hall
  · simp [hnil]
  · constructor
    · rintro h
      refine .inr ?_
      rintro ⟨i, k, v, hne, hcame⟩
      exact hne (h i ((hall i).2 ⟨k, v, hcame⟩))
    · rintro (hnil | hno) i hi
      · rw [hnil] at hi
        cases hi
      · obtain ⟨k, v, hcame⟩ := (hall i).1 hi
        exact Classical.byContradiction fun hne => hno ⟨i, k, v, hne, hcame⟩

end Answer

/-! ## A put, and the removal of its key -/

/-- **An announcement outlives its key**: its place was free, and the removal of the key is about another place, or
    about none. -/
structure Settings.Outlives (c : Settings) (s : State) (k : String) (v : ByteArray) (n : String)
    (i : Instance) : Prop where
  announced : findPut c.scope k v = .announced n i
  free : s.registry.has n i.endpoint = false
  spared : ¬ (Event.delete k).Targets c.scope n i.endpoint

/-- A key is put, and then removed. -/
def Settings.putAndDelete (c : Settings) (s : State) (k : String) (v : ByteArray) : State :=
  c.observe (c.observe s (.put k v)) (.delete k)

section Leftover

variable {c : Settings} {s : State} {k : String} {v : ByteArray} {n e : String} {i : Instance}

/-- A removal frees the place that it is about. -/
theorem leaves_delete (h : (Event.delete k).Targets c.scope n e) (o : Option Instance) :
    c.leaves n e o (.delete k) = none := by
  cases h with
  | delete hk hi he =>
    have hf : Event.finding c.scope (.delete k) = _ := findDelete_eq_withdrawn_iff.2 ⟨_, hk, hi⟩
    rw [Settings.leaves, hf, Finding.leaves, if_pos ⟨rfl, he.symm⟩]

theorem get?_putAndDelete :
    ((c.putAndDelete s k v).registry.members n).get? e =
      c.leaves n e (c.leaves n e ((s.registry.members n).get? e) (.put k v)) (.delete k) :=
  get?_observeAll s [.put k v, .delete k] n e

/-- Whoever an event leaves was there before it, or has taken a free place. -/
theorem eq_or_of_leaves {o : Option Instance} {ev : Event} (h : c.leaves n e o ev = some i) :
    o = some i ∨ (o = none ∧ c.leaves n e none ev = some i) := by
  cases o with
  | none => exact .inr ⟨rfl, h⟩
  | some j =>
    rcases leaves_some j ev with hj | hj
    · exact .inl (hj.symm.trans h)
    · rw [hj] at h
      cases h

/-- **What is left behind is the announcement, if it outlives its key.** -/
theorem mem_leftover_iff :
    i ∈ ((c.putAndDelete s k v).registry.members n).list ∧ i ∉ (s.registry.members n).list ↔
      c.Outlives s k v n i := by
  rw [Members.mem_list_iff, Members.mem_list_iff, get?_putAndDelete]
  -- a put that takes a free place announces who takes it
  have htakes : c.leaves n i.endpoint none (.put k v) = some i ↔ findPut c.scope k v = .announced n i := by
    refine (Merge.leaves_none_eq_some_iff (d := .event (.put k v))).trans ⟨?_, fun hf => ⟨k, v, rfl, hf, rfl⟩⟩
    rintro ⟨k', v', he, hf, -⟩
    obtain ⟨rfl, rfl⟩ := Event.put.inj (Merge.event.inj he)
    exact hf
  constructor
  · rintro ⟨hafter, hbefore⟩
    rcases eq_or_of_leaves hafter with hput | ⟨-, hnew⟩
    · rcases eq_or_of_leaves hput with hold | ⟨hfree, hnew⟩
      · exact absurd hold hbefore
      · refine ⟨htakes.1 hnew, Registry.has_eq_false_iff.2 hfree, fun ht => ?_⟩
        rw [leaves_delete ht] at hafter
        cases hafter
    · obtain ⟨_, _, he, -⟩ := leaves_none_eq_some_iff.1 hnew
      cases he
  · rintro ⟨hf, hfree, hspared⟩
    have hnone := Registry.has_eq_false_iff.1 hfree
    rw [hnone, htakes.2 hf]
    exact ⟨leaves_of_not_targets hspared _, fun he => nomatch he⟩

end Leftover

/-! ## Names and keys -/

/-- **Instances agree with the keys that announced them**, as far as they do: along every run, what is returned for a
    service has its name EXACTLY unless an announcement with another name came to stay; and in every state, a put and
    the removal of its key leave nobody behind EXACTLY unless the announcement outlives the key. -/
theorem names_agree_iff (c : Settings) :
    (∀ x : Answer c, x.Named) ∧ ∀ (s : State) (k : String) (v : ByteArray),
      (∀ n i, i ∈ ((c.putAndDelete s k v).registry.members n).list → i ∈ (s.registry.members n).list) ↔
        ¬ ∃ n i, c.Outlives s k v n i := by
  refine ⟨Answer.named, fun s k v => ?_⟩
  simp only [← mem_leftover_iff, not_exists, not_and_not_right]

/-- An instance of another service, at another endpoint. -/
def stray : Instance := ⟨"payment", "10.0.0.3", 9000⟩

/-- A key of the service `order`. -/
def strayKey : String := "discovery/default/order/10.0.0.2:9000"

/-- The backend that has been put the key with the instance in its value, and been told that the key was removed. -/
def strayed (s : State) : State := Settings.sample.putAndDelete s strayKey stray.encode.toByteArray

/-- **An instance of `payment` is returned for `order`**, although the key that announced it has been removed. -/
theorem stray_returned :
    ∃ (x : Answer .sample) (s : State), x.service = "order" ∧ x.before = strayed s ∧
      (s.registry.members "order").list = [Settings.sample.self.self] ∧
      x.list = [Settings.sample.self.self, stray] ∧ ¬ (∀ i ∈ x.list, i.name = x.service) ∧
      ¬ ∀ n i, i ∈ ((strayed s).registry.members n).list → i ∈ (s.registry.members n).list := by
  let front : List Act := [.call .start, .signal 0 (.reply (.ok (.contents
      ⟨7, [(Settings.sample.key, Settings.sample.value.toByteArray)]⟩))), .signal 1 .turn,
    .signal 1 (.reply (.ok (.opened 0)))]
  have hview : (front.foldlM Settings.sample.act .initial).map (fun s => (s.process? 1,
      (s.registry.members "order").list, ((strayed s).registry.get? "order").map Members.list)) =
      some (some (.watch (.reading 0)), [Settings.sample.self.self],
        some [Settings.sample.self.self, stray]) := by
    decide +kernel
  obtain ⟨s, hs, hview⟩ := Option.map_eq_some_iff.1 hview
  simp only [Prod.mk.injEq] at hview
  obtain ⟨hid, hbefore, hafter⟩ := hview
  obtain ⟨m, hm, hlist⟩ := Option.map_eq_some_iff.1 hafter
  obtain ⟨turns, hturns, -⟩ := Run.of_foldlM hs
  obtain ⟨turns', hturns', -⟩ := Run.of_foldlM
    (deliver_all hid [[.put strayKey stray.encode.toByteArray], [.delete strayKey]])
  have hrun : Run Settings.sample.act .initial (turns ++ turns') (strayed s) :=
    Run.append_iff.2 ⟨s, hturns, hturns'⟩
  have hu := (upright_run hrun upright_initial).orderly
  have hreturned := (mem_returns_call (c := .sample) hu).2 ⟨m, hm, rfl⟩
  have hstray : stray ∈ m.list := by rw [hlist]; decide
  have hstays : stray ∈ ((strayed s).registry.members "order").list := by
    rw [Registry.members, hm]
    exact hstray
  let x : Answer .sample :=
    { past := turns ++ turns', before := strayed s, act := .call (.instances "order"), now := _,
      reached := hrun, step := rfl, caller := strayed s, service := "order", list := m.list,
      called := List.mem_concat_self, returned := hreturned,
      unsaid := fun hmem => Nat.lt_irrefl _ (hu.returned _ hmem).1 }
  refine ⟨x, s, rfl, rfl, hbefore, hlist, fun hall => ?_, fun hall => ?_⟩
  · have hname : stray.name = "order" := hall stray hstray
    exact absurd hname (by decide)
  · have hold := hall "order" stray hstays
    rw [hbefore] at hold
    exact absurd hold (by decide +kernel)

end Muster.Leased
