/-
  What does a snapshot leave in the cache?

  A snapshot is merged in two ways.  A FULL one is the whole truth: a watch that starts afresh merges it so.
  The first load and a query merge theirs as additions.  Either way a pair counts by the name in its KEY and
  by the endpoint in its VALUE (`Snapshot.Tells`); a pair without the one or the other counts for nothing.

  (1) `holds_announced_iff` — an announcement holds an endpoint EXACTLY if some pair tells of it;
  (2) `get?_foldl_insert_of_some`, `contains_foldl_insert` — additions replace nobody, and forget no name;
  (3) `synchronised` — hence the members after a snapshot, the instances that stay, and the loss that a full
      one is if it does not tell of the own endpoint;
  (4) `snapshots_exact` — and a snapshot that cannot be had changes nothing.

  THE CRUX: what a full snapshot takes away is decided by what it tells, and not by what it has just added;
  a member that was there first stays with its own instance if the snapshot tells of its endpoint at all.
-/
import Muster.Proofs.Leased.Publishing

namespace Muster.Leased

open Registry (Same)

/-! ## What a snapshot tells -/

/-- **A snapshot tells of an endpoint under a name**: some pair has the name in its key, and in its value an
    instance at the endpoint. -/
def Snapshot.Tells (snap : Snapshot) (scope n e : String) : Prop :=
  ∃ k v p i, (k, v) ∈ snap.pairs ∧ Layout.parse scope k = some (n, p) ∧
    Instance.decode? v = some i ∧ i.endpoint = e

theorem mem_announced_iff {snap : Snapshot} {scope n : String} {i : Instance} :
    (n, i) ∈ snap.announced scope ↔
      ∃ k v p, (k, v) ∈ snap.pairs ∧ Layout.parse scope k = some (n, p) ∧
        Instance.decode? v = some i := by
  rw [Snapshot.announced, List.mem_filterMap]
  constructor
  · rintro ⟨⟨k, v⟩, hmem, hf⟩
    split at hf
    · rename_i m j hput
      obtain ⟨rfl, rfl⟩ := Prod.mk.inj (Option.some.inj hf)
      obtain ⟨⟨p, hp⟩, hv⟩ := findPut_eq_announced_iff.1 hput
      exact ⟨k, v, p, hmem, hp, hv⟩
    · cases hf
  · rintro ⟨k, v, p, hmem, hp, hv⟩
    refine ⟨(k, v), hmem, ?_⟩
    have hput : findPut scope k v = .announced n i := findPut_eq_announced_iff.2 ⟨⟨p, hp⟩, hv⟩
    simp only [hput]

/-- **What is announced is what is told.** -/
theorem holds_announced_iff {snap : Snapshot} {scope n e : String} :
    holds (snap.announced scope) n e = true ↔ snap.Tells scope n e := by
  rw [holds_eq_true_iff]
  constructor
  · rintro ⟨i, hmem, he⟩
    obtain ⟨k, v, p, hpair, hp, hv⟩ := mem_announced_iff.1 hmem
    exact ⟨k, v, p, i, hpair, hp, hv, he⟩
  · rintro ⟨k, v, p, i, hpair, hp, hv, he⟩
    exact ⟨i, mem_announced_iff.2 ⟨k, v, p, hpair, hp, hv⟩, he⟩

/-! ## What additions keep -/

section Additions

variable {n e : String} {i : Instance} {r : Registry}

/-- Nobody is replaced by what is added. -/
theorem get?_foldl_insert_of_some (l : List (String × Instance))
    (h : (r.members n).get? e = some i) :
    ((l.foldl (fun g q => g.insert q.1 q.2) r).members n).get? e = some i := by
  induction l generalizing r with
  | nil => exact h
  | cons q l ih =>
    refine ih ?_
    rw [Registry.get?_members_insert, h, Option.some_or]

/-- No name is forgotten. -/
theorem contains_foldl_insert (l : List (String × Instance)) (h : r.contains n = true) :
    (l.foldl (fun g q => g.insert q.1 q.2) r).contains n = true := by
  induction l generalizing r with
  | nil => exact h
  | cons q l ih =>
    refine ih ?_
    show (r.modify q.1 _).contains n = true
    rw [Registry.contains_modify, h, Bool.true_or]

theorem contains_restrict (r : Registry) (keep : String → String → Bool) (n : String) :
    (r.restrict keep).contains n = r.contains n := by
  rw [Registry.contains, Registry.get?_restrict, Option.isSome_map, Registry.contains]

theorem has_of_get? (h : (r.members n).get? e = some i) : r.has n e = true := by
  rw [Registry.has, Members.has, h]
  rfl

end Additions

/-! ## Snapshots -/

/-- **The own registration is missing**: the process is registered, and a full snapshot does not tell of its
    endpoint. -/
def Settings.Missing (c : Settings) (full : Bool) (snap : Snapshot) (s : State) : Prop :=
  full = true ∧ s.flags.registered = true ∧ ¬ snap.Tells c.scope c.self.name c.self.endpoint

/-- **A snapshot has been merged.** -/
structure Synchronised (c : Settings) (full : Bool) (snap : Snapshot) (s t : State) : Prop where
  /-- The members are those of which the snapshot tells, and, unless it is full, those that there were. -/
  members : ∀ n e, t.registry.has n e = true ↔
    snap.Tells c.scope n e ∨ (full = false ∧ s.registry.has n e = true)
  /-- No name is forgotten. -/
  names : ∀ n, s.registry.contains n = true → t.registry.contains n = true
  /-- A member that stays keeps its instance. -/
  stored : ∀ n e i, (s.registry.members n).get? e = some i → t.registry.has n e = true →
    (t.registry.members n).get? e = some i
  /-- To merge the snapshot once more changes nothing. -/
  again : Same t.registry (c.synchronise full snap t).registry
  /-- Restoring is scheduled if the own registration is missing, -/
  missing : c.Missing full snap s → t.Alike (c.scheduleRestore false s)
  /-- and otherwise nothing happens beside the cache. -/
  present : ¬ c.Missing full snap s → t.Alike s

section Snapshots

variable {c : Settings} {full : Bool} {snap : Snapshot} {s : State} {n e : String}

theorem has_synchronise_iff :
    (c.synchronise full snap s).registry.has n e = true ↔
      snap.Tells c.scope n e ∨ (full = false ∧ s.registry.has n e = true) := by
  rw [← holds_announced_iff]
  cases full with
  | true => simp [has_synchronise_full]
  | false => simp [has_synchronise, or_comm]

theorem contains_synchronise (h : s.registry.contains n = true) :
    (c.synchronise full snap s).registry.contains n = true := by
  have hadded := contains_foldl_insert (snap.announced c.scope) h
  rw [c.synchronise_registry]
  cases full with
  | false => exact hadded
  | true => exact (contains_restrict _ _ n).trans hadded

/-- A member that stays keeps its instance, of whatever name the snapshot tells there. -/
theorem get?_synchronise {i : Instance} (h : (s.registry.members n).get? e = some i)
    (hstays : (c.synchronise full snap s).registry.has n e = true) :
    ((c.synchronise full snap s).registry.members n).get? e = some i := by
  have hadded := get?_foldl_insert_of_some (snap.announced c.scope) h
  rw [c.synchronise_registry] at hstays ⊢
  cases full with
  | false => exact hadded
  | true =>
    have hkeep : holds (snap.announced c.scope) n e = true := by
      have hboth := (Registry.has_restrict _ _ n e).symm.trans hstays
      exact (Bool.and_eq_true_iff.1 hboth).2
    exact (Registry.get?_members_restrict _ _ n e).trans (by rw [if_pos hkeep, hadded])

/-- **A snapshot that has been merged has nothing more to say.** -/
theorem same_synchronise_twice :
    Same (c.synchronise full snap s).registry
      (c.synchronise full snap (c.synchronise full snap s)).registry := by
  intro n e
  have hhas : (c.synchronise full snap (c.synchronise full snap s)).registry.has n e = true ↔
      (c.synchronise full snap s).registry.has n e = true := by
    rw [has_synchronise_iff, has_synchronise_iff]
    exact ⟨fun h => h.elim .inl And.right, fun h => h.elim .inl fun ho => .inr ⟨ho.1, .inr ho⟩⟩
  cases h : ((c.synchronise full snap s).registry.members n).get? e with
  | some i => exact get?_synchronise h (hhas.2 (has_of_get? h))
  | none =>
    rw [← Registry.has_eq_false_iff, ← Bool.not_eq_true, hhas, Bool.not_eq_true,
      Registry.has_eq_false_iff, h]

/-- A full snapshot is a loss EXACTLY if the own registration is missing. -/
theorem misses_iff :
    (s.flags.registered && c.misses full snap) = true ↔ c.Missing full snap s := by
  rw [Settings.Missing, ← holds_announced_iff, Settings.misses, Bool.and_eq_true, Bool.and_eq_true,
    Bool.not_eq_true', Bool.not_eq_true]
  exact ⟨fun ⟨hr, hf, hh⟩ => ⟨hf, hr, hh⟩, fun ⟨hf, hr, hh⟩ => ⟨hr, hf, hh⟩⟩

theorem synchronised (c : Settings) (full : Bool) (snap : Snapshot) (s : State) :
    Synchronised c full snap s (c.synchronise full snap s) where
  members _ _ := has_synchronise_iff
  names _ h := contains_synchronise h
  stored _ _ _ h hstays := get?_synchronise h hstays
  again := same_synchronise_twice
  missing h := by
    have halike := c.synchronise_alike full snap s
    rwa [misses_iff.2 h] at halike
  present h := by
    have halike := c.synchronise_alike full snap s
    rwa [Bool.eq_false_iff.2 (mt misses_iff.1 h)] at halike

end Snapshots

/-! ## Who asks for a snapshot -/

/-- Whether a process waits for a snapshot, and whether it will merge it as a full one. -/
def Process.loads? : Process → Option Bool
  | .starting | .querying _ => some false
  | .watch .syncing => some true
  | _ => none

/-- **What comes of asking for a snapshot**: it is merged, or it cannot be had, and nothing happens to the
    cache and to the registration. -/
inductive Fetched (c : Settings) (full : Bool) (s : State) (sig : Signal Reply Item) (t : State) : Prop
  | merged (snap : Snapshot) : sig = .reply (.ok (.contents snap)) →
      t.registry = (c.synchronise full snap s).registry → Idle (c.synchronise full snap s) t →
      Fetched c full s sig t
  | failed : (∀ snap, sig ≠ .reply (.ok (.contents snap))) → t.registry = s.registry → Idle s t →
      Fetched c full s sig t

/-- Whoever waits for a snapshot is none of the crew, also once the snapshot has been merged. -/
theorem crew_synchronise {c : Settings} {s : State} {id : Nat} {p : Process} (full : Bool)
    (snap : Snapshot) (hid : s.process? id = some p) (hp : p.isCrew = false) :
    (c.synchronise full snap s).crew id = none := by
  refine crew_outsider ?_ hp
  rw [(c.synchronise_alike full snap s).process?]
  exact process?_lose c _ hid

theorem Turn.fetched {c : Settings} {s t : State} {id : Nat} {p : Process} {sig : Signal Reply Item}
    {full : Bool} (h : Turn c s id p sig t) (hid : s.process? id = some p)
    (hp : p.loads? = some full) : Fetched c full s sig t := by
  have hcrew : p.isCrew = false := by
    cases p with
    | registering | renewal | restore => cases hp
    | _ => rfl
  have hs : s.crew id = none := crew_outsider hid hcrew
  cases h with
  | loads snap =>
    obtain rfl := Option.some.inj hp
    let u := c.synchronise false snap s
    have harm := Idle.armWatch (some (snap.revision + 1)) u
    refine .merged snap rfl (armWatch_books ..).2.1 (harm.trans (.answer ?_ _))
    rw [harm.crew]
    exact crew_synchronise false snap hid hcrew
  | finds snap u o hu =>
    obtain rfl := Option.some.inj hp
    have hfree := crew_synchronise (c := c) false snap hid hcrew
    rcases hu with rfl | ⟨l, rfl⟩
    · exact .merged snap rfl rfl (.answer hfree _)
    · have hn := Idle.note (c.synchronise false snap s) l
      exact .merged snap rfl rfl (hn.trans (.answer (by rw [hn.crew]; exact hfree) _))
  | synced snap =>
    obtain rfl := Option.some.inj hp
    exact .merged snap rfl rfl (.ask (crew_synchronise true snap hid hcrew) rfl rfl)
  | loadFails f l =>
    have hn := Idle.note s l
    exact .failed (fun _ he => nomatch he) rfl (hn.trans (.answer (by rw [hn.crew, hs]) _))
  | findFails f l hr =>
    have hn := Idle.note s l
    refine .failed (fun snap he => ?_) rfl (hn.trans (.answer (by rw [hn.crew, hs]) _))
    subst he
    cases hr
  | breaks l _ hno =>
    have hn := Idle.note s l
    exact .failed hno (endWatch_books ..).2.1 (hn.trans (.endWatch (by rw [hn.crew, hs])))
  | _ => cases hp

/-- Whoever waits for a snapshot takes it, and takes a failure. -/
theorem isSome_act_of_loads {c : Settings} {s : State} {id : Nat} {p : Process} {full : Bool}
    (hid : s.process? id = some p) (hp : p.loads? = some full) (r : Except Failure Snapshot) :
    (c.act s (.signal id (.reply (r.map Reply.contents)))).isSome = true := by
  rw [c.act_of_process? hid]
  cases p with
  | starting | querying => cases r <;> rfl
  | watch w =>
    cases w with
    | syncing => cases r <;> rfl
    | _ => cases hp
  | _ => cases hp

/-- **Snapshots are merged exactly**, in every state of a backend: a full one leaves the members of which it
    tells, any other one adds them; and whoever asks for a snapshot merges what it gets so, or fails, and then
    nothing happens. -/
theorem snapshots_exact (c : Settings) (s : State) :
    (∀ full snap, Synchronised c full snap s (c.synchronise full snap s)) ∧
    ∀ id p full, s.process? id = some p → p.loads? = some full →
      (∀ sig t, c.act s (.signal id sig) = some t → Fetched c full s sig t) ∧
      ∀ r : Except Failure Snapshot,
        (c.act s (.signal id (.reply (r.map Reply.contents)))).isSome = true := by
  refine ⟨fun full snap => synchronised c full snap s, fun id p full hid hp => ⟨?_, ?_⟩⟩
  · intro sig t hact
    obtain ⟨q, hq, hturn⟩ := Settings.turn hact
    obtain rfl := Option.some.inj (hid.symm.trans hq)
    exact hturn.fetched hid hp
  · exact isSome_act_of_loads hid hp

/-- A backend registers and is queried for another service: the query is answered first, and then the watch
    that it has started waits for a full snapshot. -/
def syncingActs : List Act :=
  registerActs ++ [.call (.instances "stock"),
    .signal 2 (.reply (.ok (.contents ⟨4, [(Layout.serviceLead Settings.sample.scope "stock" ++ "a",
      (Instance.encode ⟨"first", "10.0.0.7", 80⟩).toByteArray)]⟩))), .signal 3 .turn]

/-- A snapshot that tells of one endpoint twice, by keys with another ending, and beside that holds a foreign
    key, a key without a service and a value that cannot be read; of the own endpoint it tells under another
    name only. -/
def mixedSnapshot : Snapshot :=
  let lead := Layout.lead Settings.sample.scope
  ⟨9, [(lead ++ "stock/x", (Instance.encode ⟨"second", "10.0.0.7", 80⟩).toByteArray),
    (lead ++ "stock/y", (Instance.encode ⟨"third", "10.0.0.7", 80⟩).toByteArray),
    ("elsewhere", (Instance.encode ⟨"stock", "10.0.0.8", 80⟩).toByteArray),
    (lead ++ "stock", (Instance.encode ⟨"stock", "10.0.0.9", 80⟩).toByteArray),
    (lead ++ "order/10.0.0.1:9000", "\x7b".toByteArray),
    (lead ++ "other/10.0.0.1:9000", Settings.sample.value.toByteArray)]⟩

/-- The full snapshot keeps the instance that was stored first, and arranges that the registration is
    restored. -/
theorem snapshots_exact_mixed : ∃ s t,
    syncingActs.foldlM Settings.sample.act .initial = some s ∧
      Settings.sample.act s (.signal 3 (.reply (.ok (.contents mixedSnapshot)))) = some t ∧
      Synchronised .sample true mixedSnapshot s (Settings.sample.synchronise true mixedSnapshot s) ∧
      Fetched .sample true s (.reply (.ok (.contents mixedSnapshot))) t ∧
      (t.registry.members "stock").list = [⟨"first", "10.0.0.7", 80⟩] ∧
      t.process? 4 = some (.restore .delaying) := by
  have hview : (syncingActs.foldlM Settings.sample.act .initial).map (fun s => (s.process? 3,
      (Settings.sample.act s (.signal 3 (.reply (.ok (.contents mixedSnapshot))))).map fun t =>
        ((t.registry.members "stock").list, t.process? 4))) =
      some (some (.watch .syncing),
        some ([⟨"first", "10.0.0.7", 80⟩], some (.restore .delaying))) := by decide +kernel
  obtain ⟨s, hs, hview⟩ := Option.map_eq_some_iff.1 hview
  obtain ⟨hid, hlast⟩ := Prod.mk.inj hview
  obtain ⟨t, ht, hend⟩ := Option.map_eq_some_iff.1 hlast
  obtain ⟨hlist, hrestore⟩ := Prod.mk.inj hend
  obtain ⟨hmerge, hfetch⟩ := snapshots_exact .sample s
  have hfetched := (hfetch 3 _ true hid rfl).1 _ t ht
  exact ⟨s, t, hs, ht, hmerge true mixedSnapshot, hfetched, hlist, hrestore⟩

end Muster.Leased
