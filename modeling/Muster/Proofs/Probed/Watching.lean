/-
  A probing backend has one watch for each service in its list, and no other.

  The list of services that have a watch keeps a second watch of a service from being started.  ONE flag
  of the lifecycle stands for all watches together: any of them may raise it, and the last one lowers it.

  (1) `State.Watcher` — a service has at most one watch; it is in the list exactly while it has one;
  (2) `State.Supervised` — so it is for every service, and the flag is raised only while one has a watch;
  (3) `supervised_run` — at the end of every run.

  THE CRUX (`Supervised.ends`): a watch that ends takes its own service from the list, and lowers the
  flag only if nobody else is in it.
-/
import Muster.Proofs.Probed.Turn

namespace Muster.Probed

/-- How far the watch of a service is that a process is, if it is one. -/
def Process.watchOf? (n : String) : Process → Option Watch
  | .watch m w => if m = n then some w else none
  | _ => none

theorem Process.watchOf?_eq_some_iff {n : String} {p : Process} {w : Watch} :
    p.watchOf? n = some w ↔ p = .watch n w := by
  cases p with
  | watch m v => by_cases hm : m = n <;> simp [watchOf?, hm]
  | _ => simp [watchOf?]

/-- To be the watch of a service is a role. -/
theorem role_watchOf?_iff {s : State} {n : String} {k : Nat} {w : Watch} :
    s.role (Process.watchOf? n) k = some w ↔ s.process? k = some (.watch n w) :=
  Session.role_eq_some_iff fun _ => Process.watchOf?_eq_some_iff

theorem Process.watchOf?_of_not_task {n : String} {p : Process} (hp : p.isTask = false) :
    p.watchOf? n = none := by
  cases p with
  | watch => cases hp
  | _ => rfl

/-- **The watch of a service**, with its number, if there is one; and what the list says of it. -/
structure State.Watcher (s : State) (n : String) (o : Option (Nat × Watch)) : Prop where
  sole : s.Sole (Process.watchOf? n) o
  watched : s.isWatched n = o.isSome

/-- **The books are true of every watch.** -/
structure State.Supervised (s : State) : Prop where
  watcher : ∀ n, ∃ o, s.Watcher n o
  flag : s.flags.watching = true → s.own.services ≠ []

/-! ## One service -/

namespace State.Watcher

variable {s t : State} {n m : String} {o : Option (Nat × Watch)} {id : Nat} {w : Watch}

theorem congr (h : s.Watcher n o)
    (hr : ∀ k, t.role (Process.watchOf? n) k = s.role (Process.watchOf? n) k)
    (hw : t.isWatched n = s.isWatched n) : t.Watcher n o where
  sole := h.sole.congr hr
  watched := hw.trans h.watched

theorem role_other (h : s.process? id = some (.watch m w)) (hm : m ≠ n) :
    s.role (Process.watchOf? n) id = none :=
  (Session.role_of_process? h).trans (if_neg hm)

/-- A service that has a watch is in the list. -/
theorem isWatched (h : s.Watcher n o) (hid : s.process? id = some (.watch n w)) :
    s.isWatched n = true := by
  rw [h.watched, h.sole.eq_of_role (role_watchOf?_iff.2 hid)]; rfl

/-- Whoever has no part in it may end. -/
theorem finish (h : s.Watcher n o) (hid : s.role (Process.watchOf? n) id = none)
    (ht : ∀ k, t.process? k = (s.finish id).process? k) (hw : t.isWatched n = s.isWatched n) :
    t.Watcher n o := by
  refine h.congr (fun k => ?_) hw
  rw [Session.role_finish ht]
  by_cases hk : k = id
  · rw [if_pos hk, hk, hid]
  · rw [if_neg hk]

/-- A watch goes on, of this service or of another. -/
theorem goesOn (h : s.Watcher n o) {w' : Watch} (hid : s.process? id = some (.watch m w))
    (ht : s.GoesOn t id m w') : ∃ o', t.Watcher n o' := by
  obtain ⟨ht, hown, -⟩ := ht
  have hw : t.isWatched n = s.isWatched n := by rw [State.isWatched, hown, State.isWatched]
  have hr (k : Nat) := Session.role_become (f := Process.watchOf? n) hid ht k
  by_cases hm : m = n
  · subst hm
    refine ⟨some (id, w'), h.sole.goesOn (role_watchOf?_iff.2 hid) fun k => ?_, ?_⟩
    · rw [hr, Process.watchOf?, if_pos rfl]
    · rw [hw, h.isWatched hid]; rfl
  · refine ⟨o, h.congr (fun k => ?_) hw⟩
    rw [hr, Process.watchOf?, if_neg hm]
    by_cases hk : k = id
    · rw [if_pos hk, hk, role_other hid hm]
    · rw [if_neg hk]

/-- A watch ends, of this service or of another. -/
theorem ends (h : s.Watcher n o) (hid : s.process? id = some (.watch m w))
    (ht : s.Ends t id m) : ∃ o', t.Watcher n o' := by
  obtain ⟨ht, hown, -⟩ := ht
  by_cases hm : m = n
  · subst hm
    refine ⟨none, h.sole.ends (role_watchOf?_iff.2 hid) (Session.role_finish ht), ?_⟩
    simp [State.isWatched, hown]
  · refine ⟨o, h.finish (role_other hid hm) ht ?_⟩
    simp [State.isWatched, hown, Ne.symm hm]

/-- **A watch is started only where there is none.** -/
theorem ensure (h : s.Watcher n o) (hn : s.Numbered) (service : String) :
    ∃ o', State.Watcher (ensureWatch service s) n o' := by
  by_cases hb : s.closed = true ∨ s.isWatched service = true
  · rw [ensureWatch, if_pos (by simpa using hb)]
    exact ⟨o, h⟩
  · obtain ⟨hclosed, hwatch⟩ := not_or.1 hb
    simp only [Bool.not_eq_true] at hclosed hwatch
    have hp (k : Nat) : (ensureWatch service s).process? k =
        (s.process? k).or (if k = s.nextId then some (.watch service .fresh) else none) := by
      simp [hclosed, hwatch]
    have hown : (ensureWatch service s).own = ⟨s.own.services ++ [service]⟩ := by
      simp [hclosed, hwatch]
    by_cases hs : service = n
    · subst hs
      have hnone : o = none := by
        have hsome := h.watched
        rw [hwatch] at hsome
        exact Option.not_isSome_iff_eq_none.1 (by simp [← hsome])
      subst hnone
      refine ⟨some (s.nextId, .fresh), h.sole.starts fun k => ?_, ?_⟩
      · rw [Session.role_spawn hn hp, Process.watchOf?, if_pos rfl]
      · rw [State.isWatched, hown]
        simp
    · refine ⟨o, h.congr (Session.role_or_none (q := .watch service .fresh) (if_neg hs) hp) ?_⟩
      rw [State.isWatched, hown]
      simp [State.isWatched, Ne.symm hs]

end State.Watcher

/-- A process that stands before a watch is started stands afterwards. -/
theorem process?_ensureWatch {s : State} {id : Nat} {p : Process} (service : String)
    (h : s.process? id = some p) : (ensureWatch service s).process? id = some p := by
  rw [(ensureWatch_books service s).2.2.2.1, h]
  split <;> rfl

/-! ## Every service -/

namespace State.Supervised

variable {s t : State} {m : String} {id : Nat} {w : Watch}

/-- What has no part in any watch. -/
theorem aside (h : s.Supervised)
    (hr : ∀ n k, t.role (Process.watchOf? n) k = s.role (Process.watchOf? n) k)
    (hown : t.own = s.own) (hf : t.flags.watching = true → s.flags.watching = true) :
    t.Supervised where
  watcher n := by
    obtain ⟨o, ho⟩ := h.watcher n
    exact ⟨o, ho.congr (hr n) (by rw [State.isWatched, hown, State.isWatched])⟩
  flag hb := by
    rw [hown]
    exact h.flag (hf hb)

theorem of_alike (h : s.Supervised) (g : t.Alike s) : t.Supervised := by
  refine h.aside (fun n k => ?_) g.own fun hb => by rwa [← g.flags]
  rw [Session.role, g.process?, Session.role]

/-- A process that is no watch may end. -/
theorem finish (h : s.Supervised) {p : Process} (hid : s.process? id = some p)
    (hp : p.isTask = false) (ht : ∀ k, t.process? k = (s.finish id).process? k)
    (hown : t.own = s.own) (hf : t.flags.watching = true → s.flags.watching = true) :
    t.Supervised := by
  refine h.aside (fun n k => ?_) hown hf
  rw [Session.role_finish ht]
  by_cases hk : k = id
  · rw [if_pos hk, hk, Session.role_of_process? hid, Process.watchOf?_of_not_task hp]
  · rw [if_neg hk]

/-- A service that has a watch is in the list. -/
theorem isWatched (h : s.Supervised) (hid : s.process? id = some (.watch m w)) :
    s.isWatched m = true := by
  obtain ⟨o, ho⟩ := h.watcher m
  exact ho.isWatched hid

/-- **A watch may raise the flag**, because its service is in the list. -/
theorem goesOn (h : s.Supervised) {w' : Watch} (hid : s.process? id = some (.watch m w))
    (ht : s.GoesOn t id m w') : t.Supervised where
  watcher n := by
    obtain ⟨o, ho⟩ := h.watcher n
    exact ho.goesOn hid ht
  flag _ := by
    have hw := h.isWatched hid
    rw [ht.2.1]
    intro hnil
    simp [State.isWatched, hnil] at hw

/-- **The last watch that ends lowers the flag.** -/
theorem ends (h : s.Supervised) (hid : s.process? id = some (.watch m w)) (ht : s.Ends t id m) :
    t.Supervised where
  watcher n := by
    obtain ⟨o, ho⟩ := h.watcher n
    exact ho.ends hid ht
  flag := ht.2.2.1

theorem ensure (h : s.Supervised) (hn : s.Numbered) (service : String) :
    State.Supervised (ensureWatch service s) where
  watcher n := by
    obtain ⟨o, ho⟩ := h.watcher n
    exact ho.ensure hn service
  flag hb := by
    have hs : s.own.services ≠ [] := h.flag (by simpa using hb)
    rw [(ensureWatch_books service s).2.2.2.2.2.1]
    split
    · exact hs
    · intro hnil
      exact hs (List.append_eq_nil_iff.1 hnil).1

end State.Supervised

/-! ## Turns -/

/-- **Every turn leaves the books true.** -/
theorem Turn.supervised {c : Settings} {s t : State} {id : Nat} {p : Process}
    {sig : Signal Reply Item} (h : Turn c s id p sig t) (hs : s.Supervised) (hn : s.Numbered)
    (hid : s.process? id = some p) : t.Supervised := by
  cases p with
  | watch service w =>
    rcases h.of_watch with ⟨w', ht⟩ | ht
    · exact hs.goesOn hid ht
    · exact hs.ends hid ht
  | querying service =>
    cases h with
    | finds l o =>
      -- the answer is merged, the service gets a watch unless it has one, and the call returns
      have ha := merge_alike service l s
      have hu := (hs.of_alike ha).ensure (ha.numbered hn) service
      have hlive := (process?_ensureWatch service ((ha.process? id).trans hid))
      exact hu.finish hlive rfl (fun _ => rfl) rfl fun hb => hb
    | findFails => exact hs.finish hid rfl (fun _ => rfl) rfl fun hb => hb
  | registering =>
    cases h <;> exact hs.finish hid rfl (fun _ => rfl) rfl fun hb => hb
  | deregistering =>
    cases h <;> exact hs.finish hid rfl (fun _ => rfl) rfl fun hb => hb
  | closing =>
    cases h
    exact hs.finish hid rfl (fun _ => rfl) rfl (by simp)

/-! ## Acts and runs -/

theorem supervised_call (c : Settings) {s : State} (hs : s.Supervised) (hn : s.Numbered)
    (k : Call) : (c.call s k).Supervised := by
  cases k with
  | register | deregister =>
    exact hs.aside (fun n => Session.role_begin_none hn _ rfl) rfl fun hb => hb
  | instances service =>
    unfold Settings.call
    dsimp only
    split
    · rename_i m _
      have hu : State.Supervised (s.instant (.instances m.list)) :=
        hs.aside (fun _ _ => rfl) rfl fun hb => hb
      exact hu.ensure (numbered_instant hn _) service
    · exact hs.aside (fun n => Session.role_begin_none hn _ rfl) rfl fun hb => hb
  | shutdown =>
    refine hs.aside (fun n => ?_) rfl fun hb => hb
    exact Session.role_or_none (s := s.close) (q := .closing) rfl (Session.process?_spawn _ _)

/-- **The books stay true**, whatever happens. -/
theorem supervised_act {c : Settings} {s t : State} {a : Act} (h : c.act s a = some t)
    (hn : s.Numbered) (hs : s.Supervised) : t.Supervised := by
  cases a with
  | call k =>
    obtain rfl := Option.some.inj h
    exact supervised_call c hs hn k
  | signal id sig =>
    obtain ⟨p, hp, hturn⟩ := Settings.turn h
    exact hturn.supervised hs hn hp
  | abandon id =>
    obtain ⟨p, hp, hcall, rfl⟩ := Settings.act_abandon_iff.1 h
    -- a watch is a task, and cannot be abandoned
    exact hs.finish hp hcall (fun _ => rfl) rfl fun hb => hb
  | drop =>
    obtain rfl := Option.some.inj h
    exact hs.aside (fun _ _ => rfl) rfl fun hb => hb

/-- A backend that has just been set up, over any cache. -/
def State.over (g : Registry) : State := { State.initial with registry := g }

theorem numbered_over (g : Registry) : (State.over g).Numbered := fun _ hq => nomatch hq

theorem supervised_over (g : Registry) : (State.over g).Supervised where
  watcher _ := ⟨none, fun _ _ => ⟨(fun h => nomatch h), (fun h => nomatch h)⟩, rfl⟩
  flag h := nomatch h

/-- **The books are true at the end of every run**, and no number has been given twice. -/
theorem supervised_run {c : Settings} {g : Registry} {s : State} {turns : List (State × Act)}
    (h : Run c.act (.over g) turns s) : s.Numbered ∧ s.Supervised := by
  refine h.invariant (fun u => u.Numbered ∧ u.Supervised)
    ⟨numbered_over g, supervised_over g⟩ fun p _ v hv hact => ?_
  exact ⟨numbered_act hact hv.1, supervised_act hact hv.1 hv.2⟩

end Muster.Probed
