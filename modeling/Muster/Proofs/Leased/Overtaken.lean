/-
  The answer to a query, and the changes that overtake it.

  A query for a name that is not cached asks for a snapshot of the keys under the name, and merges it
  when it arrives.  Meanwhile the watch goes on; and what it has merged may be newer than the snapshot.

  (1) `Settings.brings` — an act brings a snapshot into the cache, changes, or nothing.
  (2) `Settings.word?` — what an act says of an endpoint under a name: that it is a member, that it is
      none, or nothing.  `word_act`: the cache is changed by these words, and by nothing else, so along a
      run the last of them counts (`World.said`).
  (3) `Overtaken` — the answer was computed at one moment, afterwards somebody withdrew the instance,
      and then the answer is merged.
  (4) `Overtaken.has_iff` — the instance is a member again EXACTLY when the store held it at that moment,
      unless it is withdrawn once more.

  THE CRUX: a snapshot that is merged by a query only ever adds, whatever its revision.
-/
import Muster.Proofs.Leased.Refinement

namespace Muster.Leased

/-! ## What is said of an endpoint -/

/-- What a finding says of an endpoint under a name. -/
def Finding.word? (n e : String) : Finding → Option Bool
  | .announced m i => if n == m && i.endpoint == e then some true else none
  | .withdrawn m i => if n == m && i.endpoint == e then some false else none
  | _ => none

/-- The last word of a batch of events. -/
def Settings.batchWord? (c : Settings) (n e : String) (batch : List Event) : Option Bool :=
  lastWord (batch.map fun q => (q.finding c.scope).word? n e)

/-- What a snapshot says to a process.  Only a watch that starts afresh hears of what is not in it. -/
def Settings.snapshotWord? (c : Settings) (n e : String) (snap : Snapshot) :
    Option Process → Option Bool
  | some (.watch _) => some (holds (snap.announced c.scope) n e)
  | _ => if holds (snap.announced c.scope) n e then some true else none

/-- **What an act says of an endpoint under a name.** -/
def Settings.word? (c : Settings) (n e : String) (s : State) : Act → Option Bool
  | .signal _ (.item (some (.ok (.changes batch)))) => c.batchWord? n e batch
  | .signal id (.reply (.ok (.contents snap))) => c.snapshotWord? n e snap (s.process? id)
  | _ => none

section Words

variable {c : Settings} {n e : String} {s t : State}

/-- To add is to say that it is a member, or nothing. -/
theorem or_eq_getD (a b : Bool) : (a || b) = (if b then some true else none).getD a := by
  cases a <;> cases b <;> rfl

/-- To take away is to say that it is none, or nothing. -/
theorem and_not_eq_getD (a b : Bool) : (a && !b) = (if b then some false else none).getD a := by
  cases a <;> cases b <;> rfl

theorem Finding.has_apply (f : Finding) (r : Registry) :
    (f.apply r).has n e = (f.word? n e).getD (r.has n e) := by
  cases f with
  | foreign => rfl
  | garbled m => exact r.has_create m n e
  | misplaced m => exact r.has_create m n e
  | announced m i => exact (r.has_insert m n i e).trans (or_eq_getD _ _)
  | withdrawn m i => exact (r.has_erase m n i.endpoint e).trans (and_not_eq_getD _ _)

theorem has_observeAll (s : State) (batch : List Event) :
    (c.observeAll s batch).registry.has n e =
      (c.batchWord? n e batch).getD (s.registry.has n e) := by
  rw [c.observeAll_registry]
  exact foldl_lastWord (fun r q => (q.finding c.scope).apply r) (fun r => r.has n e)
    (fun q => (q.finding c.scope).word? n e) (fun r q => Finding.has_apply _ r) batch s.registry

/-- Adding instances adds their endpoints. -/
theorem has_foldl_insert (l : List (String × Instance)) (r : Registry) :
    (l.foldl (fun g q => g.insert q.1 q.2) r).has n e = (r.has n e || holds l n e) := by
  induction l generalizing r with
  | nil => simp [holds]
  | cons q l ih =>
    have hq : (n == q.1) = (q.1 == n) := Bool.beq_comm
    rw [List.foldl_cons, ih, Registry.has_insert, Bool.or_assoc, hq]; rfl

/-- **A query only ever adds.** -/
theorem has_synchronise (s : State) (snap : Snapshot) :
    (c.synchronise false snap s).registry.has n e =
      (s.registry.has n e || holds (snap.announced c.scope) n e) := by
  rw [c.synchronise_registry]
  exact has_foldl_insert _ _

/-- A watch that starts afresh leaves nothing else. -/
theorem has_synchronise_full (s : State) (snap : Snapshot) :
    (c.synchronise true snap s).registry.has n e = holds (snap.announced c.scope) n e := by
  rw [c.synchronise_registry]
  refine (Registry.has_restrict _ _ n e).trans ?_
  rw [has_foldl_insert]
  cases s.registry.has n e <;> cases holds (snap.announced c.scope) n e <;> rfl

theorem Turn.has_of_contents {id : Nat} {p : Process} {snap : Snapshot}
    (h : Turn c s id p (.reply (.ok (.contents snap))) t) (hid : s.process? id = some p) :
    t.registry.has n e =
      (c.snapshotWord? n e snap (s.process? id)).getD (s.registry.has n e) := by
  have hreads := h.reads_of_contents
  rw [hid]
  cases h with
  | loads =>
    show (armWatch _ (c.synchronise false snap s)).registry.has n e = _
    rw [(armWatch_books ..).2.1, has_synchronise]
    exact or_eq_getD _ _
  | finds _ u o hu =>
    have hreg : u.registry = (c.synchronise false snap s).registry := by
      rcases hu with rfl | ⟨l, rfl⟩ <;> rfl
    show u.registry.has n e = _
    rw [hreg, has_synchronise]
    exact or_eq_getD _ _
  | synced =>
    show (c.synchronise true snap s).registry.has n e = _
    exact has_synchronise_full s snap
  | breaks _ _ hno => exact absurd rfl (hno snap)
  | findFails _ _ hr => cases hr
  | _ => cases hreads

/-- Without a snapshot and without changes the cache stays as it is. -/
theorem Turn.registry_eq_of_mute {id : Nat} {p : Process} {sig : Signal Reply Item}
    (h : Turn c s id p sig t) (hsnap : ∀ snap, sig ≠ .reply (.ok (.contents snap)))
    (hbatch : ∀ batch, sig ≠ .item (some (.ok (.changes batch)))) : t.registry = s.registry := by
  cases hp : p.reads with
  | false => exact h.registry_eq hp
  | true =>
    cases h with
    | loads snap | finds snap | synced snap => exact absurd rfl (hsnap snap)
    | observes batch => exact absurd rfl (hbatch batch)
    | loadFails | findFails | watches | syncs | opens | breaks => simp
    | _ => cases hp

theorem registry_call (c : Settings) (s : State) (k : Call) :
    (c.call s k).registry = s.registry := by
  cases k with
  | start | shutdown => rfl
  | register =>
    show Session.registry (if s.own.called then _ else _ : State) = _
    split <;> rfl
  | deregister => exact (deregister_books s).2.1
  | instances service =>
    show (armWatch none _).registry = _
    rw [(armWatch_books ..).2.1]
    cases s.registry.get? service <;> rfl

/-- **What an act brings into the cache**: a snapshot, changes, or nothing. -/
inductive Brings (c : Settings) (s : State) : Act → State → Prop
  | contents {id : Nat} {p : Process} {snap : Snapshot} {t : State} : s.process? id = some p →
      Turn c s id p (.reply (.ok (.contents snap))) t →
      Brings c s (.signal id (.reply (.ok (.contents snap)))) t
  | changes {id : Nat} (batch : List Event) :
      Brings c s (.signal id (.item (some (.ok (.changes batch))))) (c.observeAll s batch)
  | nothing {a : Act} {t : State} : (∀ id snap, a ≠ .signal id (.reply (.ok (.contents snap)))) →
      (∀ id batch, a ≠ .signal id (.item (some (.ok (.changes batch))))) →
      t.registry = s.registry → Brings c s a t

/-- **These are all.** -/
theorem Settings.brings {a : Act} (h : c.act s a = some t) : Brings c s a t := by
  cases a with
  | call k =>
    obtain rfl := Option.some.inj h
    exact .nothing (by simp) (by simp) (registry_call c s k)
  | signal id sig =>
    obtain ⟨p, hp, hturn⟩ := turn h
    by_cases hsnap : ∃ snap, sig = .reply (.ok (.contents snap))
    · obtain ⟨snap, rfl⟩ := hsnap
      exact .contents hp hturn
    by_cases hbatch : ∃ batch, sig = .item (some (.ok (.changes batch)))
    · obtain ⟨batch, rfl⟩ := hbatch
      rw [hturn.eq_observeAll]
      exact .changes batch
    · refine .nothing (fun _ snap he => hsnap ⟨snap, (Act.signal.inj he).2⟩)
        (fun _ batch he => hbatch ⟨batch, (Act.signal.inj he).2⟩) ?_
      exact hturn.registry_eq_of_mute (fun snap he => hsnap ⟨snap, he⟩) fun batch he => hbatch ⟨batch, he⟩
  | abandon id =>
    obtain ⟨-, -, -, rfl⟩ := act_abandon_iff.1 h
    exact .nothing (by simp) (by simp) rfl
  | drop =>
    obtain rfl := Option.some.inj h
    exact .nothing (by simp) (by simp) rfl

/-- **The cache is changed by what is said**, and by nothing else. -/
theorem word_act {a : Act} (h : c.act s a = some t) :
    t.registry.has n e = (c.word? n e s a).getD (s.registry.has n e) := by
  cases Settings.brings h with
  | contents hp hturn => exact hturn.has_of_contents hp
  | changes batch => exact has_observeAll s batch
  | nothing hsnap hbatch hr =>
    have hmute : c.word? n e s a = none := by
      unfold Settings.word?
      split
      · exact absurd rfl (hbatch _ _)
      · exact absurd rfl (hsnap _ _)
      · rfl
    rw [hmute, hr]
    rfl

end Words

/-! ## Worlds -/

namespace World

/-- What a move says of an endpoint under a name. -/
def word? (c : Settings) (n e : String) (w : World) : Move → Option Bool
  | .commit _ => none
  | .deliver id next => (w.watched id).bind fun p =>
    c.batchWord? n e ((w.batch id p.1 next).map Prod.snd)
  | .act a => c.word? n e w.session a

/-- **What was said last** of an endpoint under a name, along a run. -/
def said (c : Settings) (n e : String) (turns : List (World × Move)) : Option Bool :=
  lastWord (turns.map fun p => p.1.word? c n e p.2)

variable {c : Settings} {n e : String} {w u : World}

theorem word_move {m : Move} (h : w.move c m = some u) :
    u.session.registry.has n e = (w.word? c n e m).getD (w.session.registry.has n e) := by
  cases m with
  | commit q =>
    obtain rfl := Option.some.inj h
    rfl
  | deliver id next =>
    obtain ⟨p, hp, h⟩ := Option.bind_eq_some_iff.1 h
    obtain ⟨t, ht, rfl⟩ := Option.map_eq_some_iff.1 h
    rw [word?, hp]
    exact word_act ht
  | act a =>
    obtain ⟨t, ht, rfl⟩ := Option.map_eq_some_iff.1 h
    exact word_act ht

/-- **Along a run, what was said last counts.** -/
theorem has_eq_said {turns : List (World × Move)} (h : Run (move c) w turns u) :
    u.session.registry.has n e = (said c n e turns).getD (w.session.registry.has n e) :=
  h.eq_lastWord fun _ _ _ => word_move

end World

/-! ## Answers that are overtaken -/

/-- **The answer to a query is overtaken.**  The store computed it, for a query that was under way, as of
    its last revision; until it arrives, the instance was withdrawn, and nobody brought it back; then it
    is merged, and afterwards nobody brings the instance back either. -/
structure Overtaken (c : Settings) (n e : String) where
  /-- The number of the query. -/
  id : Nat
  /-- The answer. -/
  snap : Snapshot
  /-- The world in which it is computed. -/
  asked : World
  meanwhile : List (World × Move)
  /-- The world in which it arrives. -/
  arrived : World
  /-- The world in which it has been merged. -/
  merged : World
  afterwards : List (World × Move)
  last : World
  valid : asked.store.Valid c.scope
  sent : asked.session.process? id = some (.querying n)
  computed : asked.store.Reports (Layout.serviceLead c.scope n) snap
  current : snap.revision = asked.store.revision
  run : Run (World.move c) asked meanwhile arrived
  waits : arrived.session.process? id = some (.querying n)
  withdrawn : World.said c n e meanwhile = some false
  merges : arrived.move c (.act (.signal id (.reply (.ok (.contents snap))))) = some merged
  rest : Run (World.move c) merged afterwards last
  quiet : World.said c n e afterwards ≠ some true

namespace Overtaken

variable {c : Settings} {n e : String}

/-- **A backend that was loaded once, and a store that keeps its promises all along**, whatever the
    backend is called for. -/
def Plausible (x : Overtaken c n e) : Prop :=
  ∃ start front, World.Loaded c start ∧ Run (World.move c) start front x.asked ∧
    ∀ p ∈ front ++ x.meanwhile ++ x.afterwards,
      (∃ k, p.2 = .act (.call k)) ∨ p.1.Honest c p.2

/-- The answer holds the endpoint EXACTLY when the store held an instance there. -/
theorem holds_iff (x : Overtaken c n e) :
    holds (x.snap.announced c.scope) n e = true ↔
      ∃ i, i.endpoint = e ∧ x.asked.store.Held c.scope x.asked.store.revision n i := by
  rw [holds_eq_true_iff, ← x.current]
  constructor
  · rintro ⟨i, hi, he⟩
    exact ⟨i, he, (x.valid.mem_announced_service x.computed).1 hi⟩
  · rintro ⟨i, he, hi⟩
    exact ⟨i, (x.valid.mem_announced_service x.computed).2 hi, he⟩

/-- Right after the merge the instance is what the answer says. -/
theorem has_merged (x : Overtaken c n e) :
    x.merged.session.registry.has n e = holds (x.snap.announced c.scope) n e := by
  have hgone : x.arrived.session.registry.has n e = false := by
    rw [World.has_eq_said x.run, x.withdrawn]; rfl
  have hword : World.word? c n e x.arrived (.act (.signal x.id (.reply (.ok (.contents x.snap))))) =
      if holds (x.snap.announced c.scope) n e then some true else none := by
    show c.snapshotWord? n e x.snap (x.arrived.session.process? x.id) = _
    rw [x.waits]; rfl
  rw [World.word_move x.merges, hword, hgone, ← or_eq_getD, Bool.false_or]

/-- **An instance that was withdrawn is a member again EXACTLY when the store held it as the answer was
    computed, and it has not been withdrawn since the answer was merged.** -/
theorem has_iff (x : Overtaken c n e) :
    x.last.session.registry.has n e = true ↔
      World.said c n e x.afterwards = none ∧
        ∃ i, i.endpoint = e ∧ x.asked.store.Held c.scope x.asked.store.revision n i := by
  rw [World.has_eq_said x.rest, x.has_merged, ← x.holds_iff]
  exact getD_eq_true_iff x.quiet _

end Overtaken

/-! ## A run -/

/-- What the store holds once the sample process has been announced. -/
theorem reports_announced :
    Store.Reports ⟨6, [(6, .put Settings.sample.key Settings.sample.value.toByteArray)]⟩
      (Layout.serviceLead Settings.sample.scope "order")
      ⟨6, [(Settings.sample.key, Settings.sample.value.toByteArray)]⟩ := by
  refine ⟨Int.le_refl _, fun k v => ?_⟩
  have hkey : Text.startsWith (Layout.serviceLead Settings.sample.scope "order")
      Settings.sample.key = true :=
    Layout.startsWith_serviceLead_key Settings.sample.scope Settings.sample.self
  by_cases hk : Settings.sample.key = k
  · subst hk
    simp [Store.valueAt, Store.upTo, valueAfter, Change.after, Event.key, Event.left, hkey, eq_comm]
  · simp [Store.valueAt, Store.upTo, valueAfter, Change.after, Event.key, hk, Ne.symm hk]

/-- **An instance is brought back by an answer.**  A process is announced, and the store answers a query
    for its name; before the answer arrives, the watch reports that the process is there, and that it is
    withdrawn. -/
theorem exists_revived : ∃ x : Overtaken .sample "order" "10.0.0.1:9000",
    x.Plausible ∧
      x.meanwhile.map Prod.snd =
        [.deliver 1 7, .commit (7, .delete Settings.sample.key), .deliver 1 8] ∧
      x.afterwards = [] ∧ x.last.session.registry.has "order" "10.0.0.1:9000" = true := by
  let c : Settings := .sample
  let put : Change := (6, .put c.key c.value.toByteArray)
  let delete : Change := (7, .delete c.key)
  let snap : Snapshot := ⟨6, [(c.key, c.value.toByteArray)]⟩
  let w0 := World.sample
  let w1 := w0.after c (.act (.signal 1 .turn))
  let w2 := w1.after c (.act (.signal 1 (.reply (.ok (.opened 0)))))
  let w3 := w2.after c (.commit put)
  let w4 := w3.after c (.act (.call (.instances "order")))
  let w5 := w4.after c (.deliver 1 7)
  let w6 := w5.after c (.commit delete)
  let w7 := w6.after c (.deliver 1 8)
  let w8 := w7.after c (.act (.signal 2 (.reply (.ok (.contents snap)))))
  let meanwhile : List (World × Move) :=
    [(w4, .deliver 1 7), (w5, .commit delete), (w6, .deliver 1 8)]
  -- evaluated at one go, since each of them takes all that happened before
  have hfacts :
      ((w0.move c (.act (.signal 1 .turn))).isSome = true ∧
        (w1.move c (.act (.signal 1 (.reply (.ok (.opened 0)))))).isSome = true ∧
        (w4.move c (.deliver 1 7)).isSome = true ∧
        (w6.move c (.deliver 1 8)).isSome = true ∧
        (w7.move c (.act (.signal 2 (.reply (.ok (.contents snap)))))).isSome = true) ∧
      (w2.store.revision < 6 ∧ (w4.cursor 1 ≤ 7 ∧ 7 ≤ w4.store.revision + 1) ∧
        w5.store.revision < 7 ∧ (w6.cursor 1 ≤ 8 ∧ 8 ≤ w6.store.revision + 1)) ∧
      (w4.session.process? 2 = some (.querying "order") ∧
        w7.session.process? 2 = some (.querying "order")) ∧
      World.said c "order" "10.0.0.1:9000" meanwhile = some false ∧
      w8.session.registry.has "order" "10.0.0.1:9000" = true := by
    decide +kernel
  obtain ⟨⟨m1, m2, m5, m7, m8⟩, ⟨hput, hto, hdelete, hto'⟩, ⟨hsent, hwaits⟩, hsaid, hhas⟩ := hfacts
  have h1 : w0.move c (.act (.signal 1 .turn)) = some w1 := World.move_eq_after m1
  have h2 : w1.move c (.act (.signal 1 (.reply (.ok (.opened 0))))) = some w2 :=
    World.move_eq_after m2
  have h3 : w2.move c (.commit put) = some w3 := rfl
  have h4 : w3.move c (.act (.call (.instances "order"))) = some w4 := rfl
  have h5 : w4.move c (.deliver 1 7) = some w5 := World.move_eq_after m5
  have h6 : w5.move c (.commit delete) = some w6 := rfl
  have h7 : w6.move c (.deliver 1 8) = some w7 := World.move_eq_after m7
  have h8 : w7.move c (.act (.signal 2 (.reply (.ok (.contents snap))))) = some w8 :=
    World.move_eq_after m8
  clear_value w8 w7 w6 w5 w4 w3 w2 w1
  have hstore : w4.store = ⟨6, [put]⟩ := by
    rw [World.store_eq_of_act h4, World.store_eq_of_commit h3, World.store_eq_of_act h2,
      World.store_eq_of_act h1]
    rfl
  have hwritten : Written c.scope put.2 := .put World.legal_sample
  refine ⟨⟨2, snap, w4, meanwhile, w7, w8, [], w8, ?_, hsent, ?_, ?_, ?_, hwaits, hsaid, h8, .nil w8,
    nofun⟩, ⟨w0, _, World.loaded_sample, .cons h1 <| .cons h2 <| .cons h3 <| .cons h4 (.nil w4), ?_⟩,
    rfl, rfl, hhas⟩
  · rw [hstore]
    exact ⟨by simp, by simp [put], by simpa using fun _ => hwritten⟩
  · rw [hstore]
    exact reports_announced
  · rw [hstore]
  · exact .cons h5 <| .cons h6 <| .cons h7 (.nil w7)
  · intro p hp
    simp only [meanwhile, List.append_nil, List.cons_append, List.nil_append, List.mem_cons,
      List.not_mem_nil, or_false] at hp
    rcases hp with rfl | rfl | rfl | rfl | rfl | rfl | rfl
    · exact .inr trivial
    · exact .inr trivial
    · exact .inr ⟨hput, fun _ => hwritten⟩
    · exact .inl ⟨_, rfl⟩
    · exact .inr hto
    · exact .inr ⟨hdelete, fun _ => .delete World.legal_sample⟩
    · exact .inr hto'

end Muster.Leased
