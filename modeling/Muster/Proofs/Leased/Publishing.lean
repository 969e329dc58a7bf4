/-
  What is published is what others observe.

  A registration writes a key and a value.  Others learn of it in two ways, as an event of the watch or
  as a pair of a snapshot, and both read the instance out of the VALUE; when the key is removed, no value
  comes with the event, and the instance is rebuilt from the KEY.  The two readings have to agree.

  (1) `put_eq_of_mem_requests` — along every run, what a process puts is its key and its announcement (and its leases
      live for the configured time, `ttl_eq_of_mem_requests`);
  (2) `Registry.Gains` — a cache is another one with one member more, and otherwise the same;
  (3) `gains_observe` and `gains_synchronise` — so it is after the event, and after the snapshot, of a
      registration: they are compared with the caches that would be there without it;
  (4) `same_withdraw` — the removal of the key takes this member away again, and nothing else, whatever
      else was observed in between.

  THE CRUX of (4) is that a member more stays a member more whatever is merged: an insertion never takes
  the place of a member that is there.
-/
import Muster.Proofs.Leased.Overtaken

namespace Muster

/-! ## Caches with one member more -/

namespace Registry

/-- Caches with the same members. -/
def Same (r r' : Registry) : Prop := ∀ n e, (r'.members n).get? e = (r.members n).get? e

/-- **One member more**: `r'` has this instance under this name, and is otherwise like `r`. -/
def Gains (name : String) (i : Instance) (r r' : Registry) : Prop :=
  ∀ n e, (r'.members n).get? e =
    if n = name ∧ e = i.endpoint then some i else (r.members n).get? e

namespace Gains

variable {name : String} {i : Instance} {r r' : Registry}

/-- An instance whose endpoint is free becomes a member by insertion. -/
theorem insert (h : r.has name i.endpoint = false) : Gains name i r (r.insert name i) := by
  intro n e
  rw [get?_members_insert]
  by_cases hp : n = name ∧ e = i.endpoint
  · obtain ⟨rfl, rfl⟩ := hp
    rw [has_eq_false_iff.1 h, Option.none_or]
  · rw [if_neg hp, if_neg hp, Option.or_none]

/-- **A member more stays a member more**, whatever is added. -/
theorem insert_both (h : Gains name i r r') (m : String) (j : Instance) :
    Gains name i (r.insert m j) (r'.insert m j) := by
  intro n e
  rw [get?_members_insert, get?_members_insert, h]
  by_cases hp : n = name ∧ e = i.endpoint
  · rw [if_pos hp, if_pos hp, Option.some_or]
  · rw [if_neg hp, if_neg hp]

theorem foldl_insert_both (h : Gains name i r r') (l : List (String × Instance)) :
    Gains name i (l.foldl (fun g q => g.insert q.1 q.2) r)
      (l.foldl (fun g q => g.insert q.1 q.2) r') := by
  induction l generalizing r r' with
  | nil => exact h
  | cons q l ih => exact ih (h.insert_both q.1 q.2)

/-- An instance that is added between others, while its endpoint is free, is a member more. -/
theorem foldl_insert_between {before : List (String × Instance)}
    (h : (before.foldl (fun g q => g.insert q.1 q.2) r).has name i.endpoint = false)
    (after : List (String × Instance)) :
    Gains name i ((before ++ after).foldl (fun g q => g.insert q.1 q.2) r)
      ((before ++ (name, i) :: after).foldl (fun g q => g.insert q.1 q.2) r) := by
  rw [List.foldl_append, List.foldl_append, List.foldl_cons]
  exact (insert h).foldl_insert_both after

/-- It stays one when others are taken away. -/
theorem erase_both (h : Gains name i r r') {m d : String} (hd : ¬ (m = name ∧ d = i.endpoint)) :
    Gains name i (r.erase m d) (r'.erase m d) := by
  intro n e
  rw [get?_members_erase, get?_members_erase, h]
  by_cases hp : n = name ∧ e = i.endpoint
  · obtain ⟨rfl, rfl⟩ := hp
    rw [if_neg fun he => hd ⟨he.1.symm, he.2.symm⟩, if_pos ⟨rfl, rfl⟩, if_pos ⟨rfl, rfl⟩]
  · rw [if_neg hp, if_neg hp]

theorem create_both (h : Gains name i r r') (m : String) :
    Gains name i (r.create m) (r'.create m) := by
  intro n e
  rw [members_create, members_create, h]

/-- It stays one when only some are kept, and the new one among them. -/
theorem restrict_both (h : Gains name i r r') {keep keep' : String → String → Bool}
    (hi : keep' name i.endpoint = true)
    (hk : ∀ n e, ¬ (n = name ∧ e = i.endpoint) → keep' n e = keep n e) :
    Gains name i (r.restrict keep) (r'.restrict keep') := by
  intro n e
  rw [get?_members_restrict, get?_members_restrict, h]
  by_cases hp : n = name ∧ e = i.endpoint
  · obtain ⟨rfl, rfl⟩ := hp
    rw [if_pos hi, if_pos ⟨rfl, rfl⟩, if_pos ⟨rfl, rfl⟩]
  · rw [if_neg hp, if_neg hp, hk n e hp]

/-- **Once the member is taken away, there is no difference.** -/
theorem erase (h : Gains name i r r') (hr : r.has name i.endpoint = false) :
    Same r (r'.erase name i.endpoint) := by
  intro n e
  rw [get?_members_erase, h]
  by_cases hp : n = name ∧ e = i.endpoint
  · obtain ⟨rfl, rfl⟩ := hp
    rw [if_pos ⟨rfl, rfl⟩, has_eq_false_iff.1 hr]
  · rw [if_neg hp, if_neg hp]

end Gains

end Registry

namespace Leased

open Registry (Gains Same)

/-! ## What a process puts -/

/-- What a registration asks for, if it does: a lease and its renewals for the configured time to live, and a put of
    the own announcement under the own key. -/
def Settings.Truthful (c : Settings) : Request → Prop
  | .grant ttl | .keepAlive _ ttl => ttl = c.lease.ttlSecs
  | .put k v _ => k = c.key ∧ v = c.value
  | _ => True

section Requests

variable {c : Settings} {s t : State}

/-- **A registration puts the announcement of the process under its key.** -/
theorem truthful_of_asks {stage next : Registering} {r : Except Failure Reply} {q : Request}
    (h : c.progress stage r = some (.asks q next)) : c.Truthful q := by
  unfold Settings.progress at h
  split at h
  · cases h; exact ⟨rfl, rfl⟩
  · cases h; exact rfl
  · cases h
  · cases h
  · cases h

/-- What the crew asks for in one turn. -/
theorem Turn.truthful {id : Nat} {p : Process} {sig : Signal Reply Item} (h : Turn c s id p sig t)
    (hp : p.isCrew = true) (hs : ∀ q ∈ s.enrolments, c.Truthful q.2) :
    ∀ q ∈ t.enrolments, c.Truthful q.2 := by
  have same (ht : t.requests = s.requests) : ∀ q ∈ t.enrolments, c.Truthful q.2 := by
    rw [State.enrolments, ht]
    exact hs
  have sent {q : Request} (hq : c.Truthful q) (ht : t.requests = (id, q) :: s.requests) :
      ∀ q ∈ t.enrolments, c.Truthful q.2 := by
    intro x hx
    rw [State.enrolments, ht] at hx
    obtain ⟨hmem, he⟩ := List.mem_filter.1 hx
    rcases List.mem_cons.1 hmem with rfl | hold
    · exact hq
    · exact hs x (List.mem_filter.2 ⟨hold, he⟩)
  cases h with
  | asks q next _ hg | restoreAsks q next _ hg => exact sent (truthful_of_asks hg) (by simp)
  | wakes | retries => exact sent (q := .grant c.lease.ttlSecs) rfl (by simp)
  | enrols | refused | renews | renewalLost | renewalEnds | renewalStops | skips | yields
  | restoreStops | restores | backsOff | givesUp => exact same (by simp)
  | _ => cases hp

theorem truthful_act {a : Act} (h : c.act s a = some t) (hn : s.Numbered)
    (hs : ∀ q ∈ s.enrolments, c.Truthful q.2) : ∀ q ∈ t.enrolments, c.Truthful q.2 := by
  cases Settings.deed h hn with
  | idle g => rw [g.enrolments]; exact hs
  | begins =>
    intro q hq
    simp only [State.enrolments, Session.begin_books, List.filter_cons, Request.enrols, if_true,
      List.mem_cons] at hq
    rcases hq with rfl | hq
    · exact rfl
    · exact hs q hq
  | deregisters => rw [enrolments_deregister]; exact hs
  | outside g =>
    obtain ⟨b, -, g⟩ := g
    rw [g.enrolments, State.enrolments, (c.lose_books b s).2.2.2.2.2.2]
    exact hs
  | crew _ hc ht => exact ht.truthful hc hs
  | leaves => exact hs

theorem truthful_run {turns : List (State × Act)} (h : Run c.act .initial turns s) :
    ∀ q ∈ s.enrolments, c.Truthful q.2 := by
  have hinv := h.invariant (fun u => u.Numbered ∧ ∀ q ∈ u.enrolments, c.Truthful q.2)
    ⟨numbered_initial, fun q hq => nomatch hq⟩ fun p _ u hu hact =>
      ⟨numbered_act hact hu.1, truthful_act hact hu.1 hu.2⟩
  exact hinv.2

/-- **What a process puts, along every run**, is its announcement, under its key. -/
theorem put_eq_of_mem_requests {turns : List (State × Act)} (h : Run c.act .initial turns s)
    {id : Nat} {k v : String} {lease : Int} (hput : (id, .put k v lease) ∈ s.requests) :
    k = c.key ∧ v = c.value :=
  truthful_run h (id, .put k v lease) (List.mem_filter.2 ⟨hput, rfl⟩)

/-- **What it asks to be renewed, along every run**, is to live for the configured time. -/
theorem ttl_eq_of_mem_requests {turns : List (State × Act)} (h : Run c.act .initial turns s)
    {id : Nat} {lease ttl : Int} (hkeep : (id, .keepAlive lease ttl) ∈ s.requests) : ttl = c.lease.ttlSecs :=
  truthful_run h (id, .keepAlive lease ttl) (List.mem_filter.2 ⟨hkeep, rfl⟩)

end Requests

/-! ## What others observe -/

section Observers

variable {d : Settings} {r : Registrant} {u u' : State}

/-- The event of a registration is a member more. -/
theorem gains_observe (hr : r.Legal) (hu : u.registry.has r.name r.endpoint = false) :
    Gains r.name r.self u.registry
      (d.observe u (.put (Layout.key d.scope r) r.self.encode.toByteArray)).registry := by
  rw [d.observe_registry, Event.finding, findPut_key hr]
  exact .insert hu

/-- Whatever says nothing of a member leaves it a member more. -/
theorem Finding.gains_apply {g g' : Registry} (h : Gains r.name r.self g g') {f : Finding}
    (hf : f.word? r.name r.endpoint = none) : Gains r.name r.self (f.apply g) (f.apply g') := by
  cases f with
  | foreign => exact h
  | garbled m | misplaced m => exact h.create_both m
  | announced m i => exact h.insert_both m i
  | withdrawn m i =>
    refine h.erase_both ?_
    rintro ⟨rfl, he⟩
    have : i.endpoint = r.endpoint := he
    simp [word?, this] at hf

/-- What is observed of others leaves a member more. -/
theorem gains_observeAll (h : Gains r.name r.self u.registry u'.registry) {batch : List Event}
    (hb : ∀ ev ∈ batch, (ev.finding d.scope).word? r.name r.endpoint = none) :
    Gains r.name r.self (d.observeAll u batch).registry (d.observeAll u' batch).registry := by
  rw [d.observeAll_registry, d.observeAll_registry]
  generalize u.registry = g at h ⊢
  generalize u'.registry = g' at h ⊢
  induction batch generalizing g g' with
  | nil => exact h
  | cons ev batch ih =>
    obtain ⟨hev, hb⟩ := List.forall_mem_cons.1 hb
    exact ih hb _ _ (Finding.gains_apply h hev)

/-- Events that say nothing of an endpoint leave it free. -/
theorem has_observeAll_of_silent {n e : String} {batch : List Event}
    (hb : ∀ ev ∈ batch, (ev.finding d.scope).word? n e = none) :
    (d.observeAll u batch).registry.has n e = u.registry.has n e := by
  rw [has_observeAll, Settings.batchWord?]
  have hsilent : lastWord (batch.map fun ev => (ev.finding d.scope).word? n e) = none := by
    induction batch with
    | nil => rfl
    | cons ev batch ih =>
      obtain ⟨hev, hb⟩ := List.forall_mem_cons.1 hb
      rw [List.map_cons, lastWord, ih hb, hev, Option.none_or]
  rw [hsilent, Option.getD_none]

/-- **The removal of the key restores the members**, with all that was observed of others since. -/
theorem same_withdraw (hr : r.Legal) (h : Gains r.name r.self u.registry u'.registry)
    (hu : u.registry.has r.name r.endpoint = false) {batch : List Event}
    (hb : ∀ ev ∈ batch, (ev.finding d.scope).word? r.name r.endpoint = none) :
    Same (d.observeAll u batch).registry
      (d.observeAll u' (batch ++ [.delete (Layout.key d.scope r)])).registry := by
  have hlast : (d.observeAll u' (batch ++ [.delete (Layout.key d.scope r)])).registry =
      (d.observeAll u' batch).registry.erase r.name r.endpoint := by
    rw [Settings.observeAll, List.foldl_append, List.foldl_cons, List.foldl_nil, d.observe_registry,
      Event.finding, findDelete_key_of_legal hr]
    rfl
  rw [hlast]
  exact (gains_observeAll h hb).erase ((has_observeAll_of_silent hb).trans hu)

/-- What a snapshot announces, with one more pair. -/
theorem announced_insert (hr : r.Legal) (rev : Int) (front back : List (String × ByteArray)) :
    Snapshot.announced d.scope
        ⟨rev, front ++ (Layout.key d.scope r, r.self.encode.toByteArray) :: back⟩ =
      Snapshot.announced d.scope ⟨rev, front⟩ ++
        (r.name, r.self) :: Snapshot.announced d.scope ⟨rev, back⟩ := by
  simp only [Snapshot.announced, List.filterMap_append, List.filterMap_cons, findPut_key hr]

theorem announced_append (rev : Int) (front back : List (String × ByteArray)) :
    Snapshot.announced d.scope ⟨rev, front ++ back⟩ =
      Snapshot.announced d.scope ⟨rev, front⟩ ++ Snapshot.announced d.scope ⟨rev, back⟩ := by
  simp only [Snapshot.announced, List.filterMap_append]

theorem holds_append (l l' : List (String × Instance)) (n e : String) :
    holds (l ++ l') n e = (holds l n e || holds l' n e) := List.any_append

/-- An announcement is held at its place, and makes no difference elsewhere. -/
theorem holds_cons (l : List (String × Instance)) (m : String) (i : Instance) (n e : String) :
    holds ((m, i) :: l) n e = (decide (n = m ∧ e = i.endpoint) || holds l n e) := by
  rw [holds, List.any_cons]
  congr 1
  rw [Bool.eq_iff_iff, Bool.and_eq_true, beq_iff_eq, beq_iff_eq, decide_eq_true_iff]
  exact and_congr eq_comm eq_comm

/-- **The pair of a registration in a snapshot is a member more**, wherever it stands, unless its place
    is taken before. -/
theorem gains_synchronise (hr : r.Legal) (hu : u.registry.has r.name r.endpoint = false)
    (full : Bool) (rev : Int) (front back : List (String × ByteArray))
    (hfront : holds (Snapshot.announced d.scope ⟨rev, front⟩) r.name r.endpoint = false) :
    Gains r.name r.self (d.synchronise full ⟨rev, front ++ back⟩ u).registry
      (d.synchronise full
        ⟨rev, front ++ (Layout.key d.scope r, r.self.encode.toByteArray) :: back⟩ u).registry := by
  -- the pair finds its place free, and what follows leaves it a member more
  have hfree : ((Snapshot.announced d.scope ⟨rev, front⟩).foldl (fun g q => g.insert q.1 q.2)
      u.registry).has r.name r.self.endpoint = false := by
    rw [has_foldl_insert, self_endpoint, hu, hfront, Bool.or_false]
  have hmore := Gains.foldl_insert_between hfree (Snapshot.announced d.scope ⟨rev, back⟩)
  rw [d.synchronise_registry, d.synchronise_registry, announced_insert hr, announced_append]
  cases full with
  | false => exact hmore
  | true =>
    refine hmore.restrict_both ?_ fun n e hne => ?_
    · rw [holds_append, holds_cons]
      simp
    · have hself : ¬ (n = r.name ∧ e = r.self.endpoint) := hne
      rw [holds_append, holds_append, holds_cons, decide_eq_false hself, Bool.false_or]

/-- A snapshot that does not announce an endpoint leaves it free. -/
theorem has_synchronise_of_silent {n e : String} (hu : u.registry.has n e = false) (full : Bool)
    {snap : Snapshot} (h : holds (snap.announced d.scope) n e = false) :
    (d.synchronise full snap u).registry.has n e = false := by
  cases full with
  | false => rw [has_synchronise, hu, h]; rfl
  | true => rw [has_synchronise_full, h]

end Observers

/-! ## The round trip -/

/-- **What a process publishes is what others observe.**  Whatever it puts in any run of its backend, and
    whatever another backend of the namespace has cached, as long as the endpoint is free there: the event
    of the put, and its pair in a snapshot, add the process itself under its name, and nothing else; and the
    removal of the key takes away this and nothing else, whatever is observed of others in between. -/
theorem published_observed {c d : Settings} {s u : State} {turns : List (State × Act)} {id : Nat}
    {k v : String} {lease : Int} (reached : Run c.act .initial turns s)
    (put : (id, .put k v lease) ∈ s.requests) (legal : c.self.Legal) (scope : d.scope = c.scope)
    (free : u.registry.has c.self.name c.self.endpoint = false) :
    (Gains c.self.name c.self.self u.registry (d.observe u (.put k v.toByteArray)).registry ∧
      ∀ batch, (∀ ev ∈ batch,
          (ev.finding d.scope).word? c.self.name c.self.endpoint = none) →
        Same (d.observeAll u batch).registry
          (d.observeAll u (.put k v.toByteArray :: batch ++ [.delete k])).registry) ∧
    ∀ full rev front back,
      holds (Snapshot.announced d.scope ⟨rev, front⟩) c.self.name c.self.endpoint = false →
      Gains c.self.name c.self.self (d.synchronise full ⟨rev, front ++ back⟩ u).registry
        (d.synchronise full ⟨rev, front ++ (k, v.toByteArray) :: back⟩ u).registry ∧
      (holds (Snapshot.announced d.scope ⟨rev, back⟩) c.self.name c.self.endpoint = false →
        ∀ batch, (∀ ev ∈ batch,
            (ev.finding d.scope).word? c.self.name c.self.endpoint = none) →
          Same (d.observeAll (d.synchronise full ⟨rev, front ++ back⟩ u) batch).registry
            (d.observeAll (d.synchronise full ⟨rev, front ++ (k, v.toByteArray) :: back⟩ u)
              (batch ++ [.delete k])).registry) := by
  obtain ⟨hk, rfl⟩ := put_eq_of_mem_requests reached put
  obtain rfl : k = Layout.key d.scope c.self := by rw [hk, scope]; rfl
  refine ⟨⟨gains_observe legal free, fun batch hb => ?_⟩, fun full rev front back hfront => ?_⟩
  · exact same_withdraw legal (gains_observe legal free) free hb
  · have hgains := gains_synchronise (d := d) legal free full rev front back hfront
    refine ⟨hgains, fun hback batch hb => same_withdraw legal hgains ?_ hb⟩
    refine has_synchronise_of_silent free full ?_
    rw [announced_append, holds_append, hfront, hback]; rfl

/-- A process whose name has to be escaped in its announcement, at an address with colons. -/
def Settings.quoted : Settings := .ofConfig ⟨"a\"b\\\n", "fe80::1", 9000, .grpc⟩ {}

/-- Another backend of the namespace, with nothing cached, observes this process come and go. -/
theorem published_observed_quoted : ∃ turns s,
    Run Settings.quoted.act .initial turns s ∧
      (0, .put Settings.quoted.key Settings.quoted.value 100) ∈ s.requests ∧
      Settings.quoted.self.Legal ∧
      Gains "a\"b\\\n" ⟨"a\"b\\\n", "fe80::1", 9000⟩ State.initial.registry
        (Settings.sample.observe .initial
          (.put Settings.quoted.key Settings.quoted.value.toByteArray)).registry ∧
      Same State.initial.registry
        (Settings.sample.observeAll .initial
          [.put Settings.quoted.key Settings.quoted.value.toByteArray,
            .delete Settings.quoted.key]).registry := by
  obtain ⟨s, hacts, hput⟩ : ∃ s, registerActs.foldlM Settings.quoted.act .initial = some s ∧
      (0, .put Settings.quoted.key Settings.quoted.value 100) ∈ s.requests :=
    ⟨_, rfl, List.mem_cons_of_mem _ (List.mem_cons_self ..)⟩
  obtain ⟨turns, hr, -⟩ := Run.of_foldlM hacts
  have hlegal : Settings.quoted.self.Legal := by constructor <;> decide +kernel
  have hobserved := published_observed (d := .sample) (u := .initial) hr hput hlegal rfl rfl
  exact ⟨turns, s, hr, hput, hlegal, hobserved.1.1, hobserved.1.2 [] fun _ h => nomatch h⟩

end Leased

end Muster
