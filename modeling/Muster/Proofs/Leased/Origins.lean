/-
  Where does a member come from?

  Events and snapshots are merged into a cache.  At ONE place, that is at an endpoint under a name, both come to a
  list of single merges: a pair of a snapshot does there what the put of the pair would do, and a full snapshot then
  sweeps away whatever it does not tell of.

  (1) `get?_synchronise_eq` — a snapshot does to every place what its merges do to it, one after the other;
  (2) `get?_act`, `get?_run` — so does an act, and so does a run;
  (3) `mem_members_iff` — hence at the end of a run an instance is a member EXACTLY if it was announced, under a key
      of the service, when its place was free, and its place has been taken ever since.

  THE CRUX: no merge replaces a member, so the presence that lasts has ONE beginning, and that is a put.
-/
import Muster.Proofs.Leased.Snapshots
import Muster.Proofs.Leased.Streams

namespace Muster.Leased

/-! ## Merges -/

/-- **What is merged into a cache.** -/
inductive Merge where
  /-- An event; a pair of a snapshot counts as the put of its key. -/
  | event (ev : Event)
  /-- A full snapshot takes away what it does not tell of. -/
  | sweep (snap : Snapshot)

/-- What a merge leaves of the member at a place. -/
def Merge.leaves (c : Settings) (n e : String) (o : Option Instance) : Merge → Option Instance
  | .event ev => c.leaves n e o ev
  | .sweep snap => if holds (snap.announced c.scope) n e then o else none

/-- The merges of a snapshot. -/
def Snapshot.merges (full : Bool) (snap : Snapshot) : List Merge :=
  snap.pairs.map (fun q => .event (.put q.1 q.2)) ++ if full then [.sweep snap] else []

/-- **The merges of an act.** -/
def State.merges (s : State) : Act → List Merge
  | .signal _ (.item (some (.ok (.changes batch)))) => batch.map .event
  | .signal id (.reply (.ok (.contents snap))) =>
    match (s.process? id).bind Process.loads? with
    | some full => snap.merges full
    | none => []
  | _ => []

/-- All that is merged along a run. -/
def mergedIn (turns : List (State × Act)) : List Merge := turns.flatMap fun q => q.1.merges q.2

/-- What some merges leave at a place that was free before them. -/
def Settings.found (c : Settings) (n e : String) (l : List Merge) : Option Instance :=
  l.foldl (Merge.leaves c n e) none

section Merges

variable {c : Settings} {s t : State} {n e : String} {i : Instance}

/-- No merge replaces a member. -/
theorem Merge.leaves_some (i : Instance) (d : Merge) :
    d.leaves c n e (some i) = some i ∨ d.leaves c n e (some i) = none := by
  cases d with
  | event ev => exact Leased.leaves_some i ev
  | sweep snap =>
    rw [leaves]
    split
    · exact .inl rfl
    · exact .inr rfl

/-- A free place is taken by an announcement, under a key of its service. -/
theorem Merge.leaves_none_eq_some_iff {d : Merge} :
    d.leaves c n e none = some i ↔
      ∃ k v, d = .event (.put k v) ∧ findPut c.scope k v = .announced n i ∧ i.endpoint = e := by
  cases d with
  | event ev =>
    rw [leaves, Leased.leaves_none_eq_some_iff]
    constructor
    · rintro ⟨k, v, rfl, ⟨hk, hv, he⟩, hi⟩
      obtain rfl := Option.some.inj (hi.symm.trans hv)
      exact ⟨k, v, rfl, findPut_eq_announced_iff.2 ⟨⟨_, hk⟩, hv⟩, he⟩
    · rintro ⟨k, v, hd, hf, he⟩
      obtain rfl := Merge.event.inj hd
      obtain ⟨⟨p, hp⟩, hv⟩ := findPut_eq_announced_iff.1 hf
      exact ⟨k, v, rfl, .put hp hv he, hv⟩
  | sweep snap => simp [leaves]

/-- What is added to a cache is put at its places. -/
theorem get?_foldl_announced (r : Registry) (pairs : List (String × ByteArray)) (rev : Int) :
    (((Snapshot.announced c.scope ⟨rev, pairs⟩).foldl (fun g q => g.insert q.1 q.2) r).members n).get? e =
      (pairs.map fun q => Merge.event (.put q.1 q.2)).foldl (Merge.leaves c n e)
        ((r.members n).get? e) := by
  induction pairs generalizing r with
  | nil => rfl
  | cons q pairs ih =>
    have hput : Merge.leaves c n e ((r.members n).get? e) (.event (.put q.1 q.2)) =
      (findPut c.scope q.1 q.2).leaves n e ((r.members n).get? e) := rfl
    rw [List.map_cons, List.foldl_cons, hput]
    unfold Snapshot.announced at ih ⊢
    rw [List.filterMap_cons]
    cases hf : findPut c.scope q.1 q.2 with
    | announced m j =>
      rw [← hf, ← Finding.get?_apply, hf]
      exact ih _
    | withdrawn m j => exact absurd hf findPut_ne_withdrawn
    | _ => exact ih r

/-- **A snapshot does to a place what its merges do to it.** -/
theorem get?_synchronise_eq (full : Bool) (snap : Snapshot) (s : State) :
    ((c.synchronise full snap s).registry.members n).get? e =
      (snap.merges full).foldl (Merge.leaves c n e) ((s.registry.members n).get? e) := by
  have hadded := get?_foldl_announced (c := c) (n := n) (e := e) s.registry snap.pairs snap.revision
  rw [c.synchronise_registry, Snapshot.merges, List.foldl_append, ← hadded]
  cases full with
  | false => rfl
  | true => exact Registry.get?_members_restrict _ _ n e

/-- Whoever is told of a snapshot waits for one, and merges it. -/
theorem Turn.registry_of_contents {id : Nat} {p : Process} {snap : Snapshot}
    (h : Turn c s id p (.reply (.ok (.contents snap))) t) (hid : s.process? id = some p) :
    ∃ full, p.loads? = some full ∧ t.registry = (c.synchronise full snap s).registry := by
  have hloads : ∃ full, p.loads? = some full := by
    have hreads := h.reads_of_contents
    cases h with
    | loads | finds | synced => exact ⟨_, rfl⟩
    | breaks _ _ hno => exact absurd rfl (hno snap)
    | findFails _ _ hr => cases hr
    | _ => cases hreads
  obtain ⟨full, hp⟩ := hloads
  cases h.fetched hid hp with
  | merged snap' he hr =>
    cases he
    exact ⟨full, hp, hr⟩
  | failed hno => exact absurd rfl (hno snap)

/-- **An act does to a place what its merges do to it.** -/
theorem get?_act {a : Act} (h : c.act s a = some t) :
    (t.registry.members n).get? e =
      (s.merges a).foldl (Merge.leaves c n e) ((s.registry.members n).get? e) := by
  cases Settings.brings h with
  | @contents id p snap _ hp hturn =>
    obtain ⟨full, hfull, hr⟩ := hturn.registry_of_contents hp
    have hmerges : s.merges (.signal id (.reply (.ok (.contents snap)))) = snap.merges full := by
      simp only [State.merges, hp, Option.bind_some, hfull]
    rw [hr, hmerges, get?_synchronise_eq]
  | @changes id batch =>
    have hmerges : s.merges (.signal id (.item (some (.ok (.changes batch))))) = batch.map .event := rfl
    rw [get?_observeAll, hmerges, List.foldl_map]
    rfl
  | nothing hsnap hbatch hr =>
    have hmerges : s.merges a = [] := by
      unfold State.merges
      split
      · exact absurd rfl (hbatch _ _)
      · exact absurd rfl (hsnap _ _)
      · rfl
    rw [hr, hmerges, List.foldl_nil]

/-- **A run does to a place what its merges do to it.** -/
theorem get?_run {turns : List (State × Act)} (h : Run c.act s turns t) :
    (t.registry.members n).get? e =
      (mergedIn turns).foldl (Merge.leaves c n e) ((s.registry.members n).get? e) := by
  induction h with
  | nil => rfl
  | @cons s u t a turns ha _ ih =>
    have hall : mergedIn ((s, a) :: turns) = s.merges a ++ mergedIn turns := List.flatMap_cons
    rw [ih, get?_act ha, hall, List.foldl_append]

end Merges

/-! ## Origins -/

/-- **An instance came to stay** with the put of a key: the place was free, the value announces the instance under
    the name that the key says, and the place has been taken ever since. -/
def Settings.CameBy (c : Settings) (n : String) (i : Instance) (k : String) (v : ByteArray)
    (l : List Merge) : Prop :=
  ∃ front back, l = front ++ .event (.put k v) :: back ∧ c.found n i.endpoint front = none ∧
    findPut c.scope k v = .announced n i ∧
    ∀ mid, mid <+: back → (c.found n i.endpoint (front ++ .event (.put k v) :: mid)).isSome = true

section Origins

variable {c : Settings} {s : State} {n : String} {i : Instance}

/-- **Whoever is found has come to stay**, with ONE of the merges. -/
theorem found_eq_some_iff {l : List Merge} :
    c.found n i.endpoint l = some i ↔ ∃ k v, c.CameBy n i k v l := by
  have hnever : ¬ ((none : Option Instance) = some i ∧
      ∀ front, front <+: l → (front.foldl (Merge.leaves c n i.endpoint) none).isSome = true) :=
    fun h => nomatch h.1
  rw [Settings.found, foldl_eq_some_iff Merge.leaves_some, or_iff_right hnever]
  constructor
  · rintro ⟨front, d, back, hl, hfree, hd, hlast⟩
    obtain ⟨k, v, rfl, hf, -⟩ := Merge.leaves_none_eq_some_iff.1 hd
    exact ⟨k, v, front, back, hl, hfree, hf, hlast⟩
  · rintro ⟨k, v, front, back, hl, hfree, hf, hlast⟩
    have hd := Merge.leaves_none_eq_some_iff.2 ⟨k, v, rfl, hf, rfl⟩
    exact ⟨front, _, back, hl, hfree, hd, hlast⟩

/-- **Every member has its origin**: along every run, the members are those that came to stay. -/
theorem mem_members_iff {turns : List (State × Act)} (h : Run c.act .initial turns s) :
    i ∈ (s.registry.members n).list ↔ ∃ k v, c.CameBy n i k v (mergedIn turns) := by
  rw [← found_eq_some_iff, Members.mem_list_iff, get?_run h]
  rfl

end Origins

end Muster.Leased
