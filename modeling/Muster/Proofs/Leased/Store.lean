/-
  A store, and the cache of what it held.

  A store keeps the HISTORY of its changes, each with a revision, and the revisions grow.  What it held
  at a revision is the replay of its history up to there.  It answers two requests from that:

  (1) for the pairs under a lead, what it held at a revision, with this revision (`Store.Reports`);
  (2) for the changes under a lead from a revision on, a stretch of its history (`Store.between`).

  A cache SHOWS a history when under each name and at each endpoint it has the instance that the replay
  leaves at the place of the two.  The two laws, for histories in which every key is the key of some
  process with a legal name and address, and every value its announcement:

  (3) `Shows.foldl` — merging changes, one by one, shows the history with these changes;
  (4) `shows_of_reports` — merging a snapshot shows the history up to its revision, provided that what
      was not announced is taken away, and what was shown before is an instance of its place.

  THE CRUX of (4) is that merging keeps the member that was there first.  It may be older than the
  snapshot, but at one place there can only be one instance: the key says all of it.
-/
import Muster.Proofs.Json
import Muster.Proofs.Leased.Books
import Muster.Proofs.Leased.Layout

namespace Muster.Leased

/-! ## Histories -/

/-- A change with its revision. -/
abbrev Change := Int × Event

/-- What a change leaves of its key. -/
def Event.left : Event → Option ByteArray
  | .put _ v => some v
  | .delete _ => none

/-- The value of a key after one more change. -/
def Change.after (k : String) (old : Option ByteArray) (q : Change) : Option ByteArray :=
  if q.2.key = k then q.2.left else old

/-- **The value of a key after a history**, if it has one. -/
def valueAfter (history : List Change) (k : String) : Option ByteArray :=
  history.foldl (Change.after k) none

/-- **What a registration writes**: the key of a process with a legal name and address, and as its value
    the announcement of the process. -/
inductive Written (scope : String) : Event → Prop
  | put {r : Registrant} : r.Legal →
      Written scope (.put (Layout.key scope r) r.self.encode.toByteArray)
  | delete {r : Registrant} : r.Legal → Written scope (.delete (Layout.key scope r))

/-- **A store.** -/
structure Store where
  /-- The revision of the last change. -/
  revision : Int
  /-- All changes, the oldest first. -/
  history : List Change

namespace Store

/-- The changes that reach a revision. -/
def upTo (st : Store) (rev : Int) : List Change := st.history.filter fun q => q.1 ≤ rev

/-- The changes under a lead. -/
def under (st : Store) (lead : String) : List Change :=
  st.history.filter fun q => Text.startsWith lead q.2.key

/-- The changes under the lead of a namespace that reach a revision. -/
def shown (st : Store) (scope : String) (rev : Int) : List Change :=
  (st.under (Layout.lead scope)).filter fun q => q.1 ≤ rev

/-- **The value of a key at a revision.** -/
def valueAt (st : Store) (rev : Int) (k : String) : Option ByteArray := valueAfter (st.upTo rev) k

/-- **The store held an instance** under a name at a revision: a process of this name that is this
    instance was announced under its key. -/
def Held (st : Store) (scope : String) (rev : Int) (name : String) (i : Instance) : Prop :=
  ∃ r : Registrant, r.Legal ∧ r.name = name ∧ r.self = i ∧
    st.valueAt rev (Layout.key scope r) = some r.self.encode.toByteArray

/-- **A snapshot is the answer to a request for the pairs under a lead**: what the store held at a
    revision that it has reached. -/
structure Reports (st : Store) (lead : String) (snap : Snapshot) : Prop where
  reached : snap.revision ≤ st.revision
  pairs : ∀ k v, (k, v) ∈ snap.pairs ↔
    Text.startsWith lead k = true ∧ st.valueAt snap.revision k = some v

/-- The changes under a lead, from a revision on and before another. -/
def between (st : Store) (lead : String) (start stop : Int) : List Change :=
  (st.under lead).filter fun q => start ≤ q.1 ∧ q.1 < stop

/-- The store after one more change. -/
def commit (st : Store) (q : Change) : Store := ⟨q.1, st.history ++ [q]⟩

/-- **A store as one expects it**: the revisions grow, and under the lead of the namespace nobody writes
    but registrations. -/
structure Valid (st : Store) (scope : String) : Prop where
  sorted : st.history.Pairwise fun p q => p.1 < q.1
  bounded : ∀ q ∈ st.history, q.1 ≤ st.revision
  written : ∀ q ∈ st.history, Text.startsWith (Layout.lead scope) q.2.key = true →
    Written scope q.2

end Store

/-! ## The value of a key -/

theorem valueAfter_snoc (h : List Change) (q : Change) (k : String) :
    valueAfter (h ++ [q]) k = if q.2.key = k then q.2.left else valueAfter h k := by
  rw [valueAfter, List.foldl_append]; rfl

/-- Changes of other keys do not count. -/
theorem valueAfter_filter {h : List Change} {k : String} {p : Change → Bool}
    (hp : ∀ q ∈ h, q.2.key = k → p q = true) : valueAfter (h.filter p) k = valueAfter h k := by
  unfold valueAfter
  generalize none = old
  induction h generalizing old with
  | nil => rfl
  | cons q h ih =>
    have hrest := fun old => ih (fun x hx => hp x (List.mem_cons_of_mem _ hx)) old
    by_cases hq : p q = true
    · rw [List.filter_cons_of_pos hq, List.foldl_cons, List.foldl_cons, hrest]
    · have hk : q.2.key ≠ k := fun hk => hq (hp q (List.mem_cons_self ..) hk)
      rw [List.filter_cons_of_neg hq, List.foldl_cons, hrest, Change.after, if_neg hk]

theorem mem_of_foldl {h : List Change} {k : String} {v : ByteArray} {old : Option ByteArray}
    (hv : h.foldl (Change.after k) old = some v) :
    old = some v ∨ ∃ q ∈ h, q.2 = .put k v := by
  induction h generalizing old with
  | nil => exact .inl hv
  | cons q h ih =>
    rcases ih hv with hq | ⟨p, hp, he⟩
    · unfold Change.after at hq
      split at hq
      · rename_i hk
        obtain ⟨rev, e⟩ := q
        cases e with
        | put k' v' =>
          obtain rfl : k' = k := hk
          obtain rfl := Option.some.inj hq
          exact .inr ⟨_, List.mem_cons_self .., rfl⟩
        | delete => cases hq
      · exact .inl hq
    · exact .inr ⟨p, List.mem_cons_of_mem _ hp, he⟩

/-- A value that a key has was put there by some change. -/
theorem mem_of_valueAfter {h : List Change} {k : String} {v : ByteArray}
    (hv : valueAfter h k = some v) : ∃ q ∈ h, q.2 = .put k v :=
  (mem_of_foldl hv).resolve_left fun hnone => by cases hnone

/-! ## Places -/

/-- **A place is the place of one instance**: whoever has the same key is the same. -/
theorem Layout.place_eq_key_iff {scope n e : String} {r : Registrant} (h : r.Legal) :
    place scope n e = key scope r ↔ n = r.name ∧ e = r.endpoint := by
  constructor
  · intro hk
    have hlist : n.toList ++ '/' :: e.toList = r.name.toList ++ '/' :: r.endpoint.toList := by
      have := congrArg String.toList hk
      simpa [key_eq, place] using this
    have hslash : '/' ∉ r.endpoint.toList :=
      fun hs => h.slash_address (Endpoint.slash_mem_render.1 hs)
    obtain ⟨hn, he⟩ := Text.append_slash_inj hlist h.slash_name hslash
    exact ⟨String.toList_inj.1 hn, String.toList_inj.1 he⟩
  · rintro ⟨rfl, rfl⟩
    rfl

/-- **The instance at a place after a history**, if the place has one. -/
def instanceAfter (scope : String) (history : List Change) (n e : String) : Option Instance :=
  (valueAfter history (Layout.place scope n e)).bind Instance.decode?

/-- An instance of its place: it has this name, and this endpoint, and an address. -/
structure Fits (n e : String) (i : Instance) : Prop where
  name : i.name = n
  endpoint : i.endpoint = e
  address : i.address ≠ ""

/-- At one place there is only one instance. -/
theorem Fits.unique {n e : String} {i j : Instance} (hi : Fits n e i) (hj : Fits n e j) : i = j := by
  obtain ⟨ha, hp⟩ := Endpoint.render_eq_iff.1 (hi.endpoint.trans hj.endpoint.symm)
  obtain ⟨iname, iaddress, iport⟩ := i
  obtain ⟨jname, jaddress, jport⟩ := j
  obtain rfl : iname = jname := hi.name.trans hj.name.symm
  obtain rfl : iaddress = jaddress := ha
  obtain rfl : iport = jport := hp
  rfl

theorem self_endpoint (r : Registrant) : r.self.endpoint = r.endpoint := rfl

theorem fits_self {r : Registrant} (h : r.Legal) : Fits r.name r.endpoint r.self :=
  ⟨rfl, rfl, h.address⟩

/-- **What a place holds was announced there**, and fits. -/
theorem eq_of_instanceAfter {scope n e : String} {h : List Change} {i : Instance}
    (hw : ∀ q ∈ h, Written scope q.2) (hi : instanceAfter scope h n e = some i) :
    ∃ r : Registrant, r.Legal ∧ r.name = n ∧ r.endpoint = e ∧ r.self = i ∧
      valueAfter h (Layout.key scope r) = some r.self.encode.toByteArray := by
  obtain ⟨v, hv, hdec⟩ := Option.bind_eq_some_iff.1 hi
  -- the value was put there by a change, and the change was a registration's
  obtain ⟨q, hq, he⟩ := mem_of_valueAfter hv
  have hwritten := hw q hq
  rw [he] at hwritten
  generalize hk : Layout.place scope n e = k at hv hwritten
  cases hwritten with
  | put hr =>
    rename_i r
    obtain ⟨rfl, rfl⟩ := (Layout.place_eq_key_iff hr).1 hk
    rw [Instance.decode?_encode] at hdec
    exact ⟨r, hr, rfl, rfl, Option.some.inj hdec, hv⟩

theorem fits_of_instanceAfter {scope n e : String} {h : List Change} {i : Instance}
    (hw : ∀ q ∈ h, Written scope q.2) (hi : instanceAfter scope h n e = some i) : Fits n e i := by
  obtain ⟨r, hr, rfl, rfl, rfl, -⟩ := eq_of_instanceAfter hw hi
  exact fits_self hr

/-! ## Caches -/

/-- **A cache shows a history**: under each name and at each endpoint it has what the history leaves at
    their place. -/
def Shows (scope : String) (r : Registry) (history : List Change) : Prop :=
  ∀ n e, (r.members n).get? e = instanceAfter scope history n e

theorem instanceAfter_snoc (scope : String) (h : List Change) (q : Change) (n e : String) :
    instanceAfter scope (h ++ [q]) n e =
      if q.2.key = Layout.place scope n e then q.2.left.bind Instance.decode?
      else instanceAfter scope h n e := by
  unfold instanceAfter
  rw [valueAfter_snoc]
  split <;> rfl

/-- The put of a registration announces the process. -/
theorem findPut_key {scope : String} {r : Registrant} (h : r.Legal) :
    findPut scope (Layout.key scope r) r.self.encode.toByteArray = .announced r.name r.self := by
  rw [findPut, Layout.parse_key h]
  simp only [Instance.decode?_encode]

/-- Every member fits its place. -/
def Fitting (g : Registry) : Prop := ∀ n e i, (g.members n).get? e = some i → Fits n e i

theorem Shows.fitting {scope : String} {g : Registry} {h : List Change} (hs : Shows scope g h)
    (hw : ∀ q ∈ h, Written scope q.2) : Fitting g :=
  fun n e _ hi => fits_of_instanceAfter hw ((hs n e).symm.trans hi)

/-- **Adding an instance that fits**: it is at its place, and all else is where it was. -/
theorem get?_insert_fits {g : Registry} {m : String} {j : Instance} (hg : Fitting g)
    (hj : Fits m j.endpoint j) (n e : String) :
    ((g.insert m j).members n).get? e =
      if n = m ∧ e = j.endpoint then some j else (g.members n).get? e := by
  rw [Registry.get?_members_insert]
  by_cases hp : n = m ∧ e = j.endpoint
  · obtain ⟨rfl, rfl⟩ := hp
    rw [if_pos ⟨rfl, rfl⟩, if_pos ⟨rfl, rfl⟩]
    -- whatever is there already is the same instance
    cases hi : (g.members n).get? j.endpoint with
    | none => rfl
    | some i => rw [(hg n j.endpoint i hi).unique hj]; rfl
  · rw [if_neg hp, if_neg hp, Option.or_none]

theorem get?_insert_eq_some_iff {g : Registry} {m : String} {j : Instance} (hg : Fitting g)
    (hj : Fits m j.endpoint j) {n e : String} {i : Instance} :
    ((g.insert m j).members n).get? e = some i ↔
      (g.members n).get? e = some i ∨ ((n, i) = (m, j) ∧ i.endpoint = e) := by
  rw [get?_insert_fits hg hj]
  constructor
  · intro h
    split at h
    · rename_i hp
      obtain ⟨rfl, rfl⟩ := hp
      obtain rfl := Option.some.inj h
      exact .inr ⟨rfl, rfl⟩
    · exact .inl h
  · rintro (h | ⟨h, rfl⟩)
    · split
      · rename_i hp
        obtain ⟨rfl, rfl⟩ := hp
        rw [(hg _ _ i h).unique hj]
      · exact h
    · obtain ⟨rfl, rfl⟩ := Prod.mk.inj h
      exact if_pos ⟨rfl, rfl⟩

theorem Fitting.insert {g : Registry} {m : String} {j : Instance} (hg : Fitting g)
    (hj : Fits m j.endpoint j) : Fitting (g.insert m j) := by
  intro n e i hi
  rcases (get?_insert_eq_some_iff hg hj).1 hi with hold | ⟨hnew, rfl⟩
  · exact hg n e i hold
  · obtain ⟨rfl, rfl⟩ := Prod.mk.inj hnew
    exact hj

/-- The cache after a process is withdrawn. -/
theorem get?_erase_self {scope : String} {g : Registry} {h : List Change} (hs : Shows scope g h)
    (r : Registrant) (n e : String) :
    ((g.erase r.name r.endpoint).members n).get? e =
      if n = r.name ∧ e = r.endpoint then none else instanceAfter scope h n e := by
  rw [← hs, Registry.get?_members_erase]

/-- **Merging a change shows the history with the change.** -/
theorem Shows.apply {scope : String} {g : Registry} {h : List Change} (hs : Shows scope g h)
    (hw : ∀ q ∈ h, Written scope q.2) (rev : Int) {ev : Event} (hq : Written scope ev) :
    Shows scope ((ev.finding scope).apply g) (h ++ [(rev, ev)]) := by
  intro n e
  have hplace {r : Registrant} (hr : r.Legal) :
      Layout.key scope r = Layout.place scope n e ↔ n = r.name ∧ e = r.endpoint :=
    eq_comm.trans (Layout.place_eq_key_iff hr)
  cases hq with
  | @put r hr =>
    have hfits : Fits r.name r.self.endpoint r.self := fits_self hr
    rw [instanceAfter_snoc, Event.finding, findPut_key hr, Finding.apply,
      get?_insert_fits (hs.fitting hw) hfits, hs, self_endpoint]
    simp only [Event.key, Event.left, hplace hr, Option.bind_some, Instance.decode?_encode]
  | @delete r hr =>
    rw [instanceAfter_snoc, Event.finding, findDelete_key_of_legal hr, Finding.apply, self_endpoint,
      get?_erase_self hs]
    simp only [Event.key, Event.left, hplace hr, Option.bind_none]

/-- **Merging changes, one by one, shows the history with these changes.** -/
theorem Shows.foldl {scope : String} {g : Registry} {h qs : List Change} (hs : Shows scope g h)
    (hw : ∀ q ∈ h, Written scope q.2) (hq : ∀ q ∈ qs, Written scope q.2) :
    Shows scope ((qs.map Prod.snd).foldl (fun g e => (e.finding scope).apply g) g) (h ++ qs) := by
  induction qs generalizing g h with
  | nil => simpa using hs
  | cons q qs ih =>
    have hqs := List.forall_mem_cons.1 hq
    have hone := hs.apply hw q.1 hqs.1
    have hmore := ih hone (fun x hx => ?_) hqs.2
    · simpa using hmore
    · rcases List.mem_append.1 hx with hx | hx
      · exact hw x hx
      · rw [List.mem_singleton.1 hx]; exact hqs.1

/-! ## Snapshots -/

/-- **Adding instances that fit**: a place has what it had, or what is added there. -/
theorem get?_foldl_insert {g : Registry} {l : List (String × Instance)} (hg : Fitting g)
    (hl : ∀ q ∈ l, Fits q.1 q.2.endpoint q.2) {n e : String} {i : Instance} :
    ((l.foldl (fun g q => g.insert q.1 q.2) g).members n).get? e = some i ↔
      (g.members n).get? e = some i ∨ ((n, i) ∈ l ∧ i.endpoint = e) := by
  induction l generalizing g with
  | nil => simp
  | cons q l ih =>
    obtain ⟨hq, hl⟩ := List.forall_mem_cons.1 hl
    -- the rest is added to a cache in which every member still fits its place
    rw [List.foldl_cons, ih (hg.insert hq) hl, get?_insert_eq_some_iff hg hq, List.mem_cons,
      or_and_right, or_assoc]

theorem holds_eq_true_iff {l : List (String × Instance)} {n e : String} :
    holds l n e = true ↔ ∃ i, (n, i) ∈ l ∧ i.endpoint = e := by
  simp only [holds, List.any_eq_true, Bool.and_eq_true, beq_iff_eq]
  constructor
  · rintro ⟨⟨m, i⟩, hmem, rfl, he⟩
    exact ⟨i, hmem, he⟩
  · rintro ⟨i, hmem, he⟩
    exact ⟨(n, i), hmem, rfl, he⟩

/-- **What a full snapshot leaves**: what it announces, and nothing else. -/
theorem get?_restrict_holds {g : Registry} {l : List (String × Instance)} (hg : Fitting g)
    (hl : ∀ q ∈ l, Fits q.1 q.2.endpoint q.2) {n e : String} {i : Instance} :
    (((l.foldl (fun g q => g.insert q.1 q.2) g).restrict (holds l)).members n).get? e = some i ↔
      (n, i) ∈ l ∧ i.endpoint = e := by
  rw [Registry.get?_members_restrict]
  constructor
  · intro h
    split at h
    · rename_i hholds
      rcases (get?_foldl_insert hg hl).1 h with hold | hnew
      · -- an older member is the one that is announced
        obtain ⟨j, hj, rfl⟩ := holds_eq_true_iff.1 hholds
        rw [(hg _ _ i hold).unique (hl _ hj)]
        exact ⟨hj, rfl⟩
      · exact hnew
    · cases h
  · intro h
    rw [if_pos (holds_eq_true_iff.2 ⟨i, h⟩)]
    exact (get?_foldl_insert hg hl).2 (.inr h)

/-! ## What a store held -/

theorem Layout.startsWith_place (scope n e : String) :
    Text.startsWith (lead scope) (place scope n e) = true :=
  Text.startsWith_iff.2 ⟨(n ++ "/" ++ e).toList, by simp [place]⟩

/-- The keys of one service are keys of the namespace. -/
theorem Layout.startsWith_of_serviceLead {scope n k : String}
    (h : Text.startsWith (serviceLead scope n) k = true) :
    Text.startsWith (lead scope) k = true := by
  obtain ⟨rest, hrest⟩ := Text.startsWith_iff.1 h
  exact Text.startsWith_iff.2 ⟨(n ++ "/").toList ++ rest, by simp [hrest, serviceLead, lead]⟩

/-- Whoever has the name registers among the keys of the service. -/
theorem Layout.startsWith_serviceLead_key (scope : String) (r : Registrant) :
    Text.startsWith (serviceLead scope r.name) (key scope r) = true :=
  Text.startsWith_iff.2 ⟨r.endpoint.toList, by simp [key, serviceLead]⟩

namespace Store

variable {st : Store} {scope : String} {rev : Int}

theorem Valid.written_shown (h : st.Valid scope) (rev : Int) :
    ∀ q ∈ st.shown scope rev, Written scope q.2 := by
  intro q hq
  obtain ⟨hv, -⟩ := List.mem_filter.1 hq
  obtain ⟨hq, hl⟩ := List.mem_filter.1 hv
  exact h.written q hq hl

/-- Under the lead, the value of a key depends on the changes there only. -/
theorem valueAfter_shown {k : String} (hk : Text.startsWith (Layout.lead scope) k = true) :
    valueAfter (st.shown scope rev) k = st.valueAt rev k := by
  unfold shown under valueAt upTo
  rw [List.filter_filter]
  simp only [Bool.and_comm (decide _)]
  rw [← List.filter_filter]
  exact valueAfter_filter fun q _ hq => by rw [hq, hk]

/-- **A store held an instance** under a name EXACTLY when the changes leave it at its place. -/
theorem Valid.held_iff (h : st.Valid scope) {n : String} {i : Instance} :
    st.Held scope rev n i ↔ instanceAfter scope (st.shown scope rev) n i.endpoint = some i := by
  constructor
  · rintro ⟨r, hr, rfl, rfl, hv⟩
    have hplace : Layout.place scope r.name r.self.endpoint = Layout.key scope r := rfl
    rw [instanceAfter, valueAfter_shown (Layout.startsWith_place ..), hplace, hv, Option.bind_some,
      Instance.decode?_encode]
  · intro hi
    obtain ⟨r, hr, hn, -, hself, hv⟩ := eq_of_instanceAfter (h.written_shown rev) hi
    rw [Layout.key_eq, valueAfter_shown (Layout.startsWith_place ..)] at hv
    exact ⟨r, hr, hn, hself, hv⟩

/-- A snapshot announces what the store held at its revision, of the names whose keys it covers. -/
theorem Valid.mem_announced_under (h : st.Valid scope) {under : String} {snap : Snapshot}
    (hs : st.Reports under snap) {n : String} {i : Instance}
    (hlead : ∀ k, Text.startsWith under k = true → Text.startsWith (Layout.lead scope) k = true)
    (hkey : ∀ r : Registrant, r.name = n → Text.startsWith under (Layout.key scope r) = true) :
    (n, i) ∈ snap.announced scope ↔ st.Held scope snap.revision n i := by
  unfold Snapshot.announced
  rw [List.mem_filterMap]
  constructor
  · rintro ⟨⟨k, v⟩, hmem, hfind⟩
    obtain ⟨hk, hv⟩ := (hs.pairs k v).1 hmem
    -- the pair was put there by a registration
    obtain ⟨q, hq, he⟩ := mem_of_valueAfter ((valueAfter_shown (hlead k hk)).trans hv)
    have hwritten := h.written_shown snap.revision q hq
    rw [he] at hwritten
    cases hwritten with
    | @put r hr =>
      simp only [findPut_key hr] at hfind
      obtain ⟨rfl, rfl⟩ := Prod.mk.inj (Option.some.inj hfind)
      exact ⟨r, hr, rfl, rfl, hv⟩
  · rintro ⟨r, hr, rfl, rfl, hv⟩
    refine ⟨(Layout.key scope r, r.self.encode.toByteArray), (hs.pairs _ _).2 ⟨?_, hv⟩, ?_⟩
    · exact hkey r rfl
    · simp only [findPut_key hr]

/-- **A snapshot announces what the store held at its revision**, and nothing else. -/
theorem Valid.mem_announced (h : st.Valid scope) {snap : Snapshot}
    (hs : st.Reports (Layout.lead scope) snap) {n : String} {i : Instance} :
    (n, i) ∈ snap.announced scope ↔ st.Held scope snap.revision n i :=
  h.mem_announced_under hs (fun _ hk => hk) fun r _ =>
    Layout.startsWith_place scope r.name r.endpoint

/-- A snapshot of one service announces what the store held of it. -/
theorem Valid.mem_announced_service (h : st.Valid scope) {n : String} {snap : Snapshot}
    (hs : st.Reports (Layout.serviceLead scope n) snap) {i : Instance} :
    (n, i) ∈ snap.announced scope ↔ st.Held scope snap.revision n i := by
  refine h.mem_announced_under hs (fun _ => Layout.startsWith_of_serviceLead) ?_
  rintro r rfl
  exact Layout.startsWith_serviceLead_key scope r

/-- What a snapshot announces, by places. -/
theorem Valid.mem_announced_at (h : st.Valid scope) {snap : Snapshot}
    (hs : st.Reports (Layout.lead scope) snap) {n e : String} {i : Instance} :
    (n, i) ∈ snap.announced scope ∧ i.endpoint = e ↔
      instanceAfter scope (st.shown scope snap.revision) n e = some i := by
  rw [h.mem_announced hs, h.held_iff]
  constructor
  · rintro ⟨hi, rfl⟩
    exact hi
  · intro hi
    obtain rfl := (fits_of_instanceAfter (h.written_shown snap.revision) hi).endpoint
    exact ⟨hi, rfl⟩

theorem Valid.fits_announced (h : st.Valid scope) {snap : Snapshot}
    (hs : st.Reports (Layout.lead scope) snap) :
    ∀ q ∈ snap.announced scope, Fits q.1 q.2.endpoint q.2 := fun _ hq =>
  fits_of_instanceAfter (h.written_shown snap.revision) ((h.mem_announced_at hs).1 ⟨hq, rfl⟩)

end Store

/-- **Merging a snapshot shows the history up to its revision**, whatever was shown before. -/
theorem shows_of_reports {st : Store} {c : Settings} (h : st.Valid c.scope) {snap : Snapshot}
    (hs : st.Reports c.lead snap) {s : State} (hg : Fitting s.registry) :
    Shows c.scope (c.synchronise true snap s).registry (st.shown c.scope snap.revision) := by
  intro n e
  refine Option.ext fun i => ?_
  rw [c.synchronise_registry, ← h.mem_announced_at hs]
  exact get?_restrict_holds hg (h.fits_announced hs)

/-- To an empty cache it is enough to add what a snapshot announces. -/
theorem shows_of_reports_empty {st : Store} {c : Settings} (h : st.Valid c.scope) {snap : Snapshot}
    (hs : st.Reports c.lead snap) {s : State} (hg : s.registry = .empty) :
    Shows c.scope (c.synchronise false snap s).registry (st.shown c.scope snap.revision) := by
  intro n e
  refine Option.ext fun i => ?_
  have hempty : (Registry.empty.members n).get? e = none := rfl
  have hfit : Fitting .empty := fun _ _ _ hi => by cases hi
  rw [c.synchronise_registry, ← h.mem_announced_at hs, hg]
  refine (get?_foldl_insert hfit (h.fits_announced hs)).trans ?_
  simp [hempty]

/-- **A cache that shows a history has what the store held**, none missing, none extra. -/
theorem Shows.mem_iff {st : Store} {scope : String} {rev : Int} {g : Registry} (h : st.Valid scope)
    (hs : Shows scope g (st.shown scope rev)) {n : String} {i : Instance} :
    i ∈ (g.members n).list ↔ st.Held scope rev n i := by
  rw [Members.mem_list_iff, hs, h.held_iff]

/-- No member stands twice. -/
theorem nodup_members (g : Registry) (n : String) : (g.members n).list.Nodup :=
  List.Pairwise.of_map Instance.endpoint (fun _ _ hne he => hne (congrArg _ he))
    (g.members n).distinct

/-! ## Stretches of a history -/

/-- A stretch follows on what it starts after. -/
theorem filter_le_append {l : List Change} (hl : l.Pairwise fun p q => p.1 < q.1) {lo hi : Int}
    (h : lo ≤ hi) :
    (l.filter fun q => q.1 ≤ lo) ++ (l.filter fun q => lo < q.1 ∧ q.1 ≤ hi) =
      l.filter fun q => q.1 ≤ hi := by
  induction l with
  | nil => rfl
  | cons q l ih =>
    obtain ⟨hq, hl⟩ := List.pairwise_cons.1 hl
    by_cases hlo : q.1 ≤ lo
    · have hhi : q.1 ≤ hi := by omega
      simpa [List.filter_cons, hlo, hhi] using ih hl
    · -- from here on, every change is later
      have hnone : (l.filter fun q => q.1 ≤ lo) = [] := by
        refine List.filter_eq_nil_iff.2 fun p hp => ?_
        have := hq p hp
        simp; omega
      have hrest := ih hl
      rw [hnone, List.nil_append] at hrest
      have hlt : lo < q.1 := by omega
      rw [List.filter_cons_of_neg (by simpa using hlo), hnone, List.nil_append, List.filter_cons,
        List.filter_cons, hrest]
      simp [hlt]

/-- The revision that a batch reaches; an empty one reaches nothing. -/
def reached (rev : Int) (batch : List Change) : Int := (batch.getLast?.map Prod.fst).getD rev

/-- A batch reaches its last change, which is its latest. -/
theorem reached_cases {qs : List Change} (hs : qs.Pairwise fun p q => p.1 < q.1) (rev : Int) :
    (qs = [] ∧ reached rev qs = rev) ∨
      ∃ p ∈ qs, reached rev qs = p.1 ∧ ∀ q ∈ qs, q.1 ≤ p.1 := by
  unfold reached
  cases hp : qs.getLast? with
  | none => exact .inl ⟨List.getLast?_eq_none_iff.1 hp, rfl⟩
  | some p =>
    obtain ⟨front, rfl⟩ := List.getLast?_eq_some_iff.1 hp
    refine .inr ⟨p, by simp, rfl, fun q hq => ?_⟩
    rcases List.mem_append.1 hq with hf | hlast
    · have := (List.pairwise_append.1 hs).2.2 q hf p (List.mem_singleton.2 rfl)
      omega
    · exact Int.le_of_eq (congrArg Prod.fst (List.mem_singleton.1 hlast))

namespace Store

variable {st : Store} {scope lead : String} {seen start next : Int}

theorem Valid.sorted_under (h : st.Valid scope) (lead : String) :
    (st.under lead).Pairwise fun p q => p.1 < q.1 := h.sorted.filter _

theorem Valid.sorted_between (h : st.Valid scope) (lead : String) :
    (st.between lead start next).Pairwise fun p q => p.1 < q.1 :=
  (h.sorted_under lead).filter _

theorem mem_between {q : Change} :
    q ∈ st.between lead start next ↔ q ∈ st.under lead ∧ start ≤ q.1 ∧ q.1 < next := by
  simp [between]

/-- **Where there is no gap, a batch is all that happened** until what it reaches. -/
theorem Valid.shown_reached (h : st.Valid scope) (hlt : seen < start)
    (hgap : ∀ q ∈ st.under (Layout.lead scope), q.1 ≤ seen ∨ start ≤ q.1) :
    st.shown scope (reached seen (st.between (Layout.lead scope) start next)) =
      st.shown scope seen ++ st.between (Layout.lead scope) start next := by
  rcases reached_cases (h.sorted_between (Layout.lead scope)) seen with
    ⟨hnil, hr⟩ | ⟨p, hp, hr, hlast⟩
  · rw [hr, hnil, List.append_nil]
  · have hp := (mem_between.1 hp).2
    rw [hr, shown, shown, ← filter_le_append (h.sorted_under _) (by omega : seen ≤ p.1)]
    refine congrArg _ (List.filter_congr fun q hq => ?_)
    rw [decide_eq_decide]
    constructor
    · -- a change that was not seen is no earlier than the batch
      rintro ⟨hlo, hhi⟩
      have := hgap q hq
      omega
    · -- a change of the batch is no later than its last
      rintro ⟨hlo, hhi⟩
      have := hlast q (mem_between.2 ⟨hq, hlo, hhi⟩)
      omega

end Store

end Muster.Leased
