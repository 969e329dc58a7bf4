/-
  What does a stream of events leave in the cache?

  A watch is handed the changes of the store one batch after the other.  A put says in its VALUE which
  endpoint it is about, a removal says so in its KEY alone, and either can be about nothing: the key may be
  foreign, the value garbled, the end of the key no endpoint.  An event that is about something is about ONE
  endpoint under ONE name (`Event.Targets`).

  (1) `Finding.leaves` — what an event leaves of the member at one place; a put never replaces it;
  (2) `get?_observeAll` — a stream does this to every place, event by event, and nothing else;
  (3) `has_iff_last_put` — hence an endpoint is a member EXACTLY if the last event about it is a put, or none
      is about it and it was a member before;
  (4) `get?_iff_first_put` — and the instance that is stored is the one with which the presence that lasts
      until the end began;
  (5) `same_swap` — events about different places can change places.

  THE CRUX: the places do not see each other.  All that is said of a cache here is said of ONE place, where a
  stream is a fold over an optional instance.
-/
import Muster.Proofs.Leased.Publishing

namespace Muster

/-! ## What began the presence that lasts -/

/-- **What is there after some changes, none of which replaces anything**: it was there all along, or one of
    them brought it when nothing was there, and it has been there ever since. -/
theorem foldl_eq_some_iff {β δ : Type} {f : Option β → δ → Option β}
    (keeps : ∀ b d, f (some b) d = some b ∨ f (some b) d = none) {l : List δ} {o : Option β} {b : β} :
    l.foldl f o = some b ↔
      (o = some b ∧ ∀ front, front <+: l → (front.foldl f o).isSome = true) ∨
      ∃ front d back, l = front ++ d :: back ∧ front.foldl f o = none ∧ f none d = some b ∧
        ∀ mid, mid <+: back → ((front ++ d :: mid).foldl f o).isSome = true := by
  induction l generalizing o with
  | nil =>
    constructor
    · intro h
      have ho : o = some b := h
      refine .inl ⟨ho, fun front hf => ?_⟩
      rw [List.prefix_nil.1 hf, List.foldl_nil, ho]
      rfl
    · rintro (⟨ho, -⟩ | ⟨front, d, back, hsplit, -⟩)
      · exact ho
      · simp at hsplit
  | cons d l ih =>
    -- present from the first change on, whatever was there before it
    let lasts : Prop := ∀ front, front <+: l → (front.foldl f (f o d)).isSome = true
    have hall : (∀ front, front <+: d :: l → (front.foldl f o).isSome = true) ↔
        o.isSome = true ∧ lasts := by
      constructor
      · intro h
        refine ⟨h [] List.nil_prefix, fun front hf => ?_⟩
        exact h (d :: front) (List.cons_prefix_cons.2 ⟨rfl, hf⟩)
      · rintro ⟨ho, hl⟩ front hf
        rcases List.prefix_cons_iff.1 hf with rfl | ⟨t, rfl, ht⟩
        · exact ho
        · exact hl t ht
    have hfirst : (f o d = some b ∧ lasts) ↔
        (o = some b ∧ ∀ front, front <+: d :: l → (front.foldl f o).isSome = true) ∨
          (o = none ∧ f none d = some b ∧ lasts) := by
      rw [hall]
      cases o with
      | none => simp
      | some a =>
        rcases keeps a d with hk | hk
        · simp [hk]
        · have hno : ¬ lasts := fun h => by simpa [hk] using h [] List.nil_prefix
          simp [hk, hno]
    rw [List.foldl_cons, ih, hfirst, or_assoc]
    refine or_congr_right ⟨?_, ?_⟩
    · rintro (⟨ho, hd, hl⟩ | ⟨front, x, back, rfl, hnone, hx, hl⟩)
      · refine ⟨[], d, l, rfl, ho, hd, ?_⟩
        subst ho
        exact hl
      · exact ⟨d :: front, x, back, rfl, hnone, hx, hl⟩
    · rintro ⟨front, x, back, hsplit, hnone, hx, hl⟩
      cases front with
      | nil =>
        obtain ⟨rfl, rfl⟩ := List.cons_eq_cons.1 hsplit
        exact .inl ⟨hnone, hx, hl⟩
      | cons y front =>
        obtain ⟨rfl, rfl⟩ := List.cons_eq_cons.1 hsplit
        exact .inr ⟨front, x, back, rfl, hnone, hx, hl⟩

namespace Leased

open Registry (Same)

/-! ## What an event is about -/

/-- **An event is about an endpoint under a name.**  The name is in the key; the endpoint is that of the
    instance in the value of a put, and that of the instance rebuilt from the key of a removal. -/
inductive Event.Targets (scope n e : String) : Event → Prop
  | put {k p : String} {v : ByteArray} {i : Instance} :
      Layout.parse scope k = some (n, p) → Instance.decode? v = some i → i.endpoint = e →
      Targets scope n e (.put k v)
  | delete {k p : String} {i : Instance} :
      Layout.parse scope k = some (n, p) → Instance.ofEndpoint n p = some i → i.endpoint = e →
      Targets scope n e (.delete k)

/-- The place that a finding is about. -/
def Finding.target? : Finding → Option (String × String)
  | .announced m i | .withdrawn m i => some (m, i.endpoint)
  | _ => none

/-- A word is said of the place that a finding is about, and of no other. -/
theorem Finding.word?_eq_none_iff {f : Finding} {n e : String} :
    f.word? n e = none ↔ f.target? ≠ some (n, e) := by
  have hplace (m d : String) : some (m, d) = some (n, e) ↔ n = m ∧ d = e := by
    rw [Option.some.injEq, Prod.mk.injEq, eq_comm (a := m)]
  cases f with
  | announced m i | withdrawn m i => simp [word?, target?, hplace]
  | _ => simp [word?, target?]

section Targets

variable {scope n e m d : String} {ev : Event}

/-- A put never withdraws. -/
theorem findPut_ne_withdrawn {k : String} {v : ByteArray} {i : Instance} :
    findPut scope k v ≠ .withdrawn n i := by
  unfold findPut
  cases Layout.parse scope k with
  | none => simp
  | some q => cases Instance.decode? v <;> simp

/-- A removal never announces. -/
theorem findDelete_ne_announced {k : String} {i : Instance} :
    findDelete scope k ≠ .announced n i := by
  unfold findDelete
  cases Layout.parse scope k with
  | none => simp
  | some q => cases hi : Instance.ofEndpoint q.1 q.2 <;> simp [hi]

/-- **What an event is about is read off its finding.** -/
theorem targets_iff : ev.Targets scope n e ↔ (ev.finding scope).target? = some (n, e) := by
  constructor
  · intro h
    cases h with
    | put hk hv he =>
      have hf := findPut_eq_announced_iff.2 ⟨⟨_, hk⟩, hv⟩
      show (findPut scope _ _).target? = _
      rw [hf, Finding.target?, he]
    | delete hk hi he =>
      have hf := findDelete_eq_withdrawn_iff.2 ⟨_, hk, hi⟩
      show (findDelete scope _).target? = _
      rw [hf, Finding.target?, he]
  · intro h
    cases ev with
    | put k v =>
      change (findPut scope k v).target? = _ at h
      cases hf : findPut scope k v with
      | announced m i =>
        rw [hf] at h
        obtain ⟨rfl, rfl⟩ := Prod.mk.inj (Option.some.inj h)
        obtain ⟨⟨p, hp⟩, hv⟩ := findPut_eq_announced_iff.1 hf
        exact .put hp hv rfl
      | withdrawn m i => exact absurd hf findPut_ne_withdrawn
      | _ => rw [hf] at h; cases h
    | delete k =>
      change (findDelete scope k).target? = _ at h
      cases hf : findDelete scope k with
      | withdrawn m i =>
        rw [hf] at h
        obtain ⟨rfl, rfl⟩ := Prod.mk.inj (Option.some.inj h)
        obtain ⟨p, hp, hi⟩ := findDelete_eq_withdrawn_iff.1 hf
        exact .delete hp hi rfl
      | announced m i => exact absurd hf findDelete_ne_announced
      | _ => rw [hf] at h; cases h

/-- Nothing is said of a place EXACTLY if the event is not about it. -/
theorem word?_eq_none_iff :
    (ev.finding scope).word? n e = none ↔ ¬ ev.Targets scope n e := by
  rw [targets_iff, Finding.word?_eq_none_iff]

/-- That it is a member is what a put about it says. -/
theorem word?_eq_some_true_iff :
    (ev.finding scope).word? n e = some true ↔ (∃ k v, ev = .put k v) ∧ ev.Targets scope n e := by
  constructor
  · intro h
    have ht : ev.Targets scope n e := Classical.byContradiction fun hno => by
      rw [word?_eq_none_iff.2 hno] at h
      cases h
    refine ⟨?_, ht⟩
    cases ht with
    | @put k _ v => exact ⟨k, v, rfl⟩
    | delete hk hi he =>
      have hf : Event.finding scope (.delete _) = _ := findDelete_eq_withdrawn_iff.2 ⟨_, hk, hi⟩
      rw [hf, Finding.word?] at h
      split at h <;> cases h
  · rintro ⟨⟨k, v, rfl⟩, ht⟩
    cases ht with
    | put hk hv he =>
      have hf : Event.finding scope (.put k v) = _ := findPut_eq_announced_iff.2 ⟨⟨_, hk⟩, hv⟩
      rw [hf, Finding.word?, if_pos (by simp [he])]

end Targets

/-! ## One place -/

/-- **What a finding leaves of the member at a place.** -/
def Finding.leaves (n e : String) (o : Option Instance) : Finding → Option Instance
  | .announced m i => if n = m ∧ e = i.endpoint then o.or (some i) else o
  | .withdrawn m i => if n = m ∧ e = i.endpoint then none else o
  | _ => o

/-- What an event leaves of the member at a place. -/
def Settings.leaves (c : Settings) (n e : String) (o : Option Instance) (ev : Event) :
    Option Instance :=
  (ev.finding c.scope).leaves n e o

section Places

variable {c : Settings} {s : State} {n e : String}

theorem Finding.get?_apply (f : Finding) (r : Registry) :
    ((f.apply r).members n).get? e = f.leaves n e ((r.members n).get? e) := by
  cases f with
  | foreign => rfl
  | garbled m | misplaced m => rw [Finding.apply, Registry.members_create]; rfl
  | announced m i =>
    rw [Finding.apply, Registry.get?_members_insert, Finding.leaves]
    by_cases h : n = m ∧ e = i.endpoint
    · rw [if_pos h, if_pos h]
    · rw [if_neg h, if_neg h, Option.or_none]
  | withdrawn m i => exact Registry.get?_members_erase r m i.endpoint n e

/-- **A stream does to every place what its events do to it**, one after the other. -/
theorem get?_observeAll (s : State) (events : List Event) (n e : String) :
    ((c.observeAll s events).registry.members n).get? e =
      events.foldl (c.leaves n e) ((s.registry.members n).get? e) := by
  rw [c.observeAll_registry]
  generalize s.registry = r
  induction events generalizing r with
  | nil => rfl
  | cons ev events ih =>
    rw [List.foldl_cons, List.foldl_cons, ih, Finding.get?_apply]
    rfl

theorem has_eq_isSome (r : Registry) (n e : String) : r.has n e = ((r.members n).get? e).isSome := rfl

/-- An event leaves a place alone that it is not about. -/
theorem leaves_of_not_targets {ev : Event} (h : ¬ ev.Targets c.scope n e) (o : Option Instance) :
    c.leaves n e o ev = o := by
  rw [targets_iff] at h
  unfold Settings.leaves
  cases hf : ev.finding c.scope with
  | announced m i | withdrawn m i =>
    have hne : ¬ (n = m ∧ e = i.endpoint) := by
      rintro ⟨rfl, rfl⟩
      rw [hf] at h
      exact h rfl
    rw [Finding.leaves, if_neg hne]
  | _ => rfl

/-- **No event replaces a member**: it stays, or it goes. -/
theorem leaves_some (i : Instance) (ev : Event) :
    c.leaves n e (some i) ev = some i ∨ c.leaves n e (some i) ev = none := by
  unfold Settings.leaves
  cases ev.finding c.scope with
  | announced m j =>
    refine .inl ?_
    rw [Finding.leaves, Option.some_or, ite_self]
  | withdrawn m j =>
    by_cases h : n = m ∧ e = j.endpoint
    · exact .inr (by rw [Finding.leaves, if_pos h])
    · exact .inl (by rw [Finding.leaves, if_neg h])
  | _ => exact .inl rfl

/-- A free place is taken by a put about it, with the instance in its value. -/
theorem leaves_none_eq_some_iff {ev : Event} {i : Instance} :
    c.leaves n e none ev = some i ↔
      ∃ k v, ev = .put k v ∧ ev.Targets c.scope n e ∧ Instance.decode? v = some i := by
  constructor
  · intro h
    unfold Settings.leaves at h
    cases hf : ev.finding c.scope with
    | announced m j =>
      rw [hf, Finding.leaves] at h
      split at h
      · rename_i hp
        obtain ⟨rfl, rfl⟩ := hp
        obtain rfl : j = i := Option.some.inj h
        cases ev with
        | put k v =>
          have ht : Event.Targets c.scope n j.endpoint (.put k v) := targets_iff.2 (by rw [hf]; rfl)
          exact ⟨k, v, rfl, ht, (findPut_eq_announced_iff.1 hf).2⟩
        | delete k => exact absurd hf findDelete_ne_announced
      · cases h
    | withdrawn m j =>
      rw [hf, Finding.leaves, ite_self] at h
      cases h
    | _ => rw [hf] at h; cases h
  · rintro ⟨k, v, rfl, ht, hv⟩
    cases ht with
    | put hk hw he =>
      obtain rfl := Option.some.inj (hv.symm.trans hw)
      have hf : Event.finding c.scope (.put k v) = .announced n i :=
        findPut_eq_announced_iff.2 ⟨⟨_, hk⟩, hv⟩
      rw [Settings.leaves, hf, Finding.leaves, if_pos ⟨rfl, he.symm⟩, Option.none_or]

/-- Events that are not both about a place come to the same there in either order. -/
theorem leaves_comm {a b : Event}
    (h : ¬ (a.Targets c.scope n e ∧ b.Targets c.scope n e)) (o : Option Instance) :
    c.leaves n e (c.leaves n e o a) b = c.leaves n e (c.leaves n e o b) a := by
  by_cases ha : a.Targets c.scope n e
  · have hb : ¬ b.Targets c.scope n e := fun hb => h ⟨ha, hb⟩
    rw [leaves_of_not_targets hb, leaves_of_not_targets hb]
  · rw [leaves_of_not_targets ha, leaves_of_not_targets ha]

end Places

/-! ## Streams -/

section Streams

variable {c : Settings} {s : State} {n e : String}

/-- **The last event about an endpoint decides**: it is a member afterwards EXACTLY if that is a put, or there
    is none, and it was a member before. -/
theorem has_iff_last_put {events : List Event} :
    (c.observeAll s events).registry.has n e = true ↔
      (∃ front k v back, events = front ++ .put k v :: back ∧
        (Event.put k v).Targets c.scope n e ∧ ∀ ev ∈ back, ¬ ev.Targets c.scope n e) ∨
      ((∀ ev ∈ events, ¬ ev.Targets c.scope n e) ∧ s.registry.has n e = true) := by
  let word (ev : Event) : Option Bool := (ev.finding c.scope).word? n e
  have hword : (c.observeAll s events).registry.has n e =
      (lastWord (events.map word)).getD (s.registry.has n e) := has_observeAll s events
  have hquiet (l : List Event) :
      (∀ w ∈ l.map word, w = none) ↔ ∀ ev ∈ l, ¬ ev.Targets c.scope n e := by
    rw [List.forall_mem_map]
    exact forall₂_congr fun ev _ => word?_eq_none_iff
  -- a put about the endpoint has the last word, or nobody has
  have hput : lastWord (events.map word) = some true ↔
      ∃ front k v back, events = front ++ .put k v :: back ∧
        (Event.put k v).Targets c.scope n e ∧ ∀ ev ∈ back, ¬ ev.Targets c.scope n e := by
    rw [lastWord_eq_some_iff]
    constructor
    · rintro ⟨ws, ws', hsplit, hback⟩
      obtain ⟨front, rest, rfl, rfl, hrest⟩ := List.map_eq_append_iff.1 hsplit
      obtain ⟨ev, back, rfl, hev, rfl⟩ := List.map_eq_cons_iff.1 hrest
      obtain ⟨⟨k, v, rfl⟩, ht⟩ := word?_eq_some_true_iff.1 hev
      exact ⟨front, k, v, back, rfl, ht, (hquiet back).1 hback⟩
    · rintro ⟨front, k, v, back, rfl, ht, hback⟩
      have hev : word (.put k v) = some true := word?_eq_some_true_iff.2 ⟨⟨k, v, rfl⟩, ht⟩
      refine ⟨front.map word, back.map word, ?_, (hquiet back).2 hback⟩
      rw [List.map_append, List.map_cons, hev]
  have hnone : lastWord (events.map word) = none ↔ ∀ ev ∈ events, ¬ ev.Targets c.scope n e := by
    rw [lastWord_eq_none_iff, hquiet]
  rw [hword, ← hput, ← hnone]
  cases lastWord (events.map word) with
  | none => simp
  | some b => simp

/-- **The instance that is stored** is the one that was there first, since the endpoint was last absent. -/
theorem get?_iff_first_put {events : List Event} {i : Instance} :
    ((c.observeAll s events).registry.members n).get? e = some i ↔
      ((s.registry.members n).get? e = some i ∧
        ∀ front, front <+: events → (c.observeAll s front).registry.has n e = true) ∨
      ∃ front k v back, events = front ++ .put k v :: back ∧
        (c.observeAll s front).registry.has n e = false ∧
        (Event.put k v).Targets c.scope n e ∧ Instance.decode? v = some i ∧
        ∀ mid, mid <+: back →
          (c.observeAll s (front ++ .put k v :: mid)).registry.has n e = true := by
  simp only [has_eq_isSome, get?_observeAll]
  rw [foldl_eq_some_iff leaves_some]
  refine or_congr_right ⟨?_, ?_⟩
  · rintro ⟨front, ev, back, rfl, hnone, hev, hlast⟩
    obtain ⟨k, v, rfl, ht, hv⟩ := leaves_none_eq_some_iff.1 hev
    exact ⟨front, k, v, back, rfl, by rw [hnone]; rfl, ht, hv, hlast⟩
  · rintro ⟨front, k, v, back, rfl, hnone, ht, hv, hlast⟩
    have hev := leaves_none_eq_some_iff.2 ⟨k, v, rfl, ht, hv⟩
    exact ⟨front, _, back, rfl, by simpa using hnone, hev, hlast⟩

/-- An event that is about nothing can be left out. -/
theorem same_idle {front back : List Event} {ev : Event}
    (h : ∀ n e, ¬ ev.Targets c.scope n e) :
    Same (c.observeAll s (front ++ ev :: back)).registry
      (c.observeAll s (front ++ back)).registry := by
  intro n e
  rw [get?_observeAll, get?_observeAll, List.foldl_append, List.foldl_append, List.foldl_cons,
    leaves_of_not_targets (h n e)]

/-- **Events about different places can change places.** -/
theorem same_swap {front back : List Event} {a b : Event}
    (h : ∀ n e, ¬ (a.Targets c.scope n e ∧ b.Targets c.scope n e)) :
    Same (c.observeAll s (front ++ a :: b :: back)).registry
      (c.observeAll s (front ++ b :: a :: back)).registry := by
  intro n e
  simp only [get?_observeAll, List.foldl_append, List.foldl_cons]
  rw [leaves_comm (h n e)]

/-- **What a stream of events leaves**, starting from a state. -/
structure Streamed (c : Settings) (s : State) (events : List Event) (t : State) : Prop where
  /-- The last event about an endpoint decides whether it is a member. -/
  has : ∀ n e, t.registry.has n e = true ↔
    (∃ front k v back, events = front ++ .put k v :: back ∧
      (Event.put k v).Targets c.scope n e ∧ ∀ ev ∈ back, ¬ ev.Targets c.scope n e) ∨
    ((∀ ev ∈ events, ¬ ev.Targets c.scope n e) ∧ s.registry.has n e = true)
  /-- The instance that is stored was there, or was put there, when the presence that lasts began. -/
  stored : ∀ n e i, (t.registry.members n).get? e = some i ↔
    ((s.registry.members n).get? e = some i ∧
      ∀ front, front <+: events → (c.observeAll s front).registry.has n e = true) ∨
    ∃ front k v back, events = front ++ .put k v :: back ∧
      (c.observeAll s front).registry.has n e = false ∧
      (Event.put k v).Targets c.scope n e ∧ Instance.decode? v = some i ∧
      ∀ mid, mid <+: back → (c.observeAll s (front ++ .put k v :: mid)).registry.has n e = true
  /-- An event that is about nothing can be left out. -/
  idle : ∀ front ev back, events = front ++ ev :: back → (∀ n e, ¬ ev.Targets c.scope n e) →
    Same t.registry (c.observeAll s (front ++ back)).registry
  /-- Neighbours about different places can change places. -/
  swap : ∀ front a b back, events = front ++ a :: b :: back →
    (∀ n e, ¬ (a.Targets c.scope n e ∧ b.Targets c.scope n e)) →
    Same t.registry (c.observeAll s (front ++ b :: a :: back)).registry

theorem streamed_observeAll (c : Settings) (s : State) (events : List Event) :
    Streamed c s events (c.observeAll s events) where
  has _ _ := has_iff_last_put
  stored _ _ _ := get?_iff_first_put
  idle front ev back hsplit h := by subst hsplit; exact same_idle h
  swap front a b back hsplit h := by subst hsplit; exact same_swap h

end Streams

/-! ## The watch -/

/-- The acts by which a watch is handed some batches. -/
def deliveries (id : Nat) (batches : List (List Event)) : List Act :=
  batches.map fun batch => .signal id (.item (some (.ok (.changes batch))))

section Watch

variable {c : Settings} {s : State} {id stream : Nat}

/-- A watch that reads takes every batch, and reads on. -/
theorem act_of_reading (hid : s.process? id = some (.watch (.reading stream))) (batch : List Event) :
    c.act s (.signal id (.item (some (.ok (.changes batch))))) = some (c.observeAll s batch) ∧
      (c.observeAll s batch).process? id = some (.watch (.reading stream)) := by
  constructor
  · exact c.act_of_process? hid _
  · rw [(c.observeAll_alike s batch).process?]
    exact process?_lose c _ hid

/-- **However a stream is cut into batches, it comes to the same.** -/
theorem deliver_all (hid : s.process? id = some (.watch (.reading stream)))
    (batches : List (List Event)) :
    (deliveries id batches).foldlM c.act s = some (c.observeAll s batches.flatten) := by
  induction batches generalizing s with
  | nil => rfl
  | cons batch batches ih =>
    obtain ⟨hact, hreads⟩ := act_of_reading (c := c) hid batch
    have hjoin : c.observeAll s (batch ++ batches.flatten) =
        c.observeAll (c.observeAll s batch) batches.flatten := List.foldl_append
    rw [deliveries, List.map_cons, List.foldlM_cons, hact, List.flatten_cons, hjoin]
    exact ih hreads

/-- **The last writer wins, at every endpoint under every name.**  A watch that reads takes every list of
    events, in batches of any size; for each endpoint the last event about it decides, and of the puts about
    it the first one since it was absent is stored. -/
theorem last_writer_wins (c : Settings) {s : State} {id stream : Nat}
    (reads : s.process? id = some (.watch (.reading stream))) (batches : List (List Event)) :
    ∃ t, (deliveries id batches).foldlM c.act s = some t ∧ Streamed c s batches.flatten t :=
  ⟨_, deliver_all reads batches, streamed_observeAll c s _⟩

end Watch

/-- A backend loads its cache, and its watch begins to read. -/
def readingActs : List Act :=
  [.call .start, .signal 0 (.reply (.ok (.contents ⟨7, []⟩))), .signal 1 .turn,
    .signal 1 (.reply (.ok (.opened 0)))]

/-- A process is announced; its place is announced with another name in the value; a key with a zero before
    the port is removed, and one that is foreign; and the other name is announced once more. -/
def renamedBatches : List (List Event) :=
  let other : Instance := ⟨"other", "10.0.0.1", 9000⟩
  let key := Settings.sample.key
  [[.put key Settings.sample.value.toByteArray, .put key other.encode.toByteArray],
    [.delete (Layout.serviceLead Settings.sample.scope "order" ++ "10.0.0.1:09000"), .delete "order"],
    [], [.put key other.encode.toByteArray]]

/-- The second announcement changes nothing while the first is a member; once it has been taken away by
    the other spelling of its port, the announcement that follows is stored. -/
theorem last_writer_wins_renamed : ∃ s t,
    readingActs.foldlM Settings.sample.act .initial = some s ∧
      (deliveries 1 renamedBatches).foldlM Settings.sample.act s = some t ∧
      Streamed .sample s renamedBatches.flatten t ∧
      (t.registry.members "order").get? "10.0.0.1:9000" = some ⟨"other", "10.0.0.1", 9000⟩ := by
  have hview : (readingActs.foldlM Settings.sample.act .initial).map (fun s => (s.process? 1,
      ((deliveries 1 renamedBatches).foldlM Settings.sample.act s).map fun t =>
        (t.registry.members "order").get? "10.0.0.1:9000")) =
      some (some (.watch (.reading 0)), some (some ⟨"other", "10.0.0.1", 9000⟩)) := by
    decide +kernel
  obtain ⟨s, hs, hview⟩ := Option.map_eq_some_iff.1 hview
  obtain ⟨hid, hlast⟩ := Prod.mk.inj hview
  obtain ⟨t, ht, hstreamed⟩ := last_writer_wins Settings.sample hid renamedBatches
  rw [ht] at hlast
  exact ⟨s, t, hs, ht, hstreamed, Option.some.inj hlast⟩

end Leased

end Muster
