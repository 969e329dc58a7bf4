/-
  A lease backend has one watch, or none, and its books say which.

  Two books speak of the watch: whether there is one (`Ledger.watching`), which is what keeps a second
  from being started, and the flag that the lifecycle shows.  They are written in three places: where a
  watch is armed, where its stream has opened, and where it ends.

  (1) `State.Watcher` — there is at most one watch; the first book is raised exactly while there is one,
      and the flag only then;
  (2) `Turn.watcher` — every turn keeps this: whoever is no reader stands aside, a load or a query that
      ends is no watch, and a watch goes on as itself or ends, with both books lowered;
  (3) `watcher_run` — so it holds at the end of every run.

  THE CRUX: arming looks at the first book, and writes it, in ONE step.
-/
import Muster.Proofs.Leased.Reading

namespace Muster.Leased

/-- How far the watch is that a process is, if it is one. -/
def Process.watch? : Process → Option Watch
  | .watch w => some w
  | _ => none

theorem Process.watch?_eq_some_iff {p : Process} {w : Watch} : p.watch? = some w ↔ p = .watch w := by
  cases p <;> simp [watch?]

/-- **The watch of a backend**, with its number, if there is one; and what the books say of it. -/
structure State.Watcher (s : State) (o : Option (Nat × Watch)) : Prop where
  sole : s.Sole Process.watch? o
  watching : s.own.watching = o.isSome
  flag : s.flags.watching = true → o.isSome = true

/-- The readers are all that can be a watch. -/
theorem readers_watch? (s : State) (k : Nat) :
    (s.readers k).bind Process.watch? = s.role Process.watch? k := by
  unfold State.readers Session.role
  cases s.process? k with
  | none => rfl
  | some p => cases p <;> rfl

namespace State.Watcher

variable {s t : State} {o : Option (Nat × Watch)} {id : Nat} {w : Watch}

theorem congr (h : s.Watcher o) (hr : ∀ k, t.role Process.watch? k = s.role Process.watch? k)
    (hw : t.own.watching = s.own.watching)
    (hf : t.flags.watching = true → s.flags.watching = true) : t.Watcher o where
  sole := h.sole.congr hr
  watching := hw.trans h.watching
  flag hb := h.flag (hf hb)

/-- Whoever stands aside is nothing to the watch. -/
theorem aside (h : s.Watcher o) (g : Aside s t)
    (hf : t.flags.watching = true → s.flags.watching = true) : t.Watcher o := by
  refine h.congr (fun k => ?_) g.watching hf
  rw [← readers_watch?, g.readers, readers_watch?]

theorem of_lose (h : s.Watcher o) {c : Settings} {b : Bool} (g : t.Alike (c.lose b s)) :
    t.Watcher o := by
  refine h.aside (Aside.of_lose g) fun hb => ?_
  simpa [g.flags] using hb

/-- A process that is no watch may end. -/
theorem finish (h : s.Watcher o) (id : Nat) (hid : s.role Process.watch? id = none)
    (ht : ∀ k, t.process? k = (s.finish id).process? k) (hw : t.own.watching = s.own.watching)
    (hf : t.flags.watching = true → s.flags.watching = true) : t.Watcher o := by
  refine h.congr (fun k => ?_) hw hf
  rw [Session.role_finish ht]
  by_cases hk : k = id
  · rw [if_pos hk, hk, hid]
  · rw [if_neg hk]

/-- **A watch is armed only where there is none.** -/
theorem armWatch (h : s.Watcher o) (hn : s.Numbered) (start : Option Int) :
    ∃ o', State.Watcher (Leased.armWatch start s) o' := by
  by_cases hb : s.closed = true ∨ s.own.watching = true
  · have hsame : Leased.armWatch start s = s := by
      rw [Leased.armWatch, if_pos (by simpa using hb)]
    rw [hsame]
    exact ⟨o, h⟩
  · obtain ⟨hclosed, hwatch⟩ := not_or.1 hb
    simp only [Bool.not_eq_true] at hclosed hwatch
    have hnone : o = none := by
      have hsome := h.watching
      rw [hwatch] at hsome
      exact Option.not_isSome_iff_eq_none.1 (by simp [← hsome])
    subst hnone
    refine ⟨some (s.nextId, .fresh start), ?_, ?_, ?_⟩
    · refine h.sole.starts (Session.role_spawn (q := .watch (.fresh start)) hn fun k => ?_)
      simp [hclosed, hwatch]
    · simp [hclosed, hwatch]
    · intro _; rfl

/-- The watch goes on. -/
theorem goesOn (h : s.Watcher o) (w' : Watch) (hid : s.process? id = some (.watch w))
    (ht : ∀ k, t.process? k = (s.become id (.watch w')).process? k)
    (hw : t.own.watching = s.own.watching) : t.Watcher (some (id, w')) where
  sole := h.sole.goesOn (Session.role_of_process? hid) (Session.role_become hid ht)
  watching := by
    rw [hw, h.watching, h.sole.eq_of_role (Session.role_of_process? hid)]; rfl
  flag _ := rfl

/-- The watch ends. -/
theorem ends (h : s.Watcher o) (hid : s.process? id = some (.watch w))
    (ht : ∀ k, t.process? k = (s.finish id).process? k) (hw : t.own.watching = false)
    (hf : t.flags.watching = false) : t.Watcher none where
  sole := h.sole.ends (Session.role_of_process? hid) (Session.role_finish ht)
  watching := hw
  flag hb := by rw [hf] at hb; cases hb

end State.Watcher

/-! ## Turns -/

/-- What is merged keeps every process that there was. -/
theorem process?_of_lose {c : Settings} {s t : State} {b : Bool} (h : t.Alike (c.lose b s))
    {k : Nat} {p : Process} (hk : s.process? k = some p) : t.process? k = some p := by
  rw [h.process?]
  exact process?_lose c b hk

/-- Whoever is no reader never raises the flag. -/
theorem Turn.flag_watching {c : Settings} {s t : State} {id : Nat} {p : Process}
    {sig : Signal Reply Item} (h : Turn c s id p sig t) (hp : p.reads = false)
    (ht : t.flags.watching = true) : s.flags.watching = true := by
  cases h with
  | loads | loadFails | finds | findFails | watches | syncs | synced | opens | observes | breaks =>
    cases hp
  | closes => simp at ht
  | _ => simpa using ht

/-- **Every turn leaves one watch or none**, and the books as true as they were. -/
theorem Turn.watcher {c : Settings} {s t : State} {id : Nat} {p : Process}
    {sig : Signal Reply Item} {o : Option (Nat × Watch)} (h : Turn c s id p sig t)
    (hs : s.Watcher o) (hn : s.Numbered) (hid : s.process? id = some p) : ∃ o', t.Watcher o' := by
  have hrole : s.role Process.watch? id = p.watch? := Session.role_of_process? hid
  cases hp : p.reads with
  | false => exact ⟨o, hs.aside (h.aside hid hp) (h.flag_watching hp)⟩
  | true =>
    cases h with
    | loads snap =>
      -- the load is merged, a watch begins unless there is one, and the call returns
      have hu := c.synchronise_alike false snap s
      have hlive := process?_of_lose hu hid
      have hnu := (Steady.of_lose hu).numbered hn
      obtain ⟨o', ho⟩ := (hs.of_lose hu).armWatch hnu (some (snap.revision + 1))
      refine ⟨o', ho.finish id ?_ (by simp) (by simp) (by simp)⟩
      refine (Session.role_of_process? (p := .starting) ?_).trans rfl
      simp [hlive]
    | loadFails | findFails =>
      exact ⟨o, hs.finish id hrole (by simp [Session.process?_finish]) (by simp) (by simp)⟩
    | finds snap u out hu =>
      have ha := c.synchronise_alike false snap s
      have hlive := Session.role_of_process? (f := Process.watch?) (process?_of_lose ha hid)
      refine ⟨o, (hs.of_lose ha).finish id hlive ?_ ?_ ?_⟩
      all_goals rcases hu with rfl | ⟨l, rfl⟩ <;> simp [Session.process?_finish]
    | watches start => exact ⟨_, hs.goesOn (.opening start) hid (by simp) (by simp)⟩
    | syncs => exact ⟨_, hs.goesOn .syncing hid (by simp) (by simp)⟩
    | synced snap =>
      have hu := c.synchronise_alike true snap s
      exact ⟨_, (hs.of_lose hu).goesOn (.opening (snap.revision + 1)) (process?_of_lose hu hid)
        (by simp) (by simp)⟩
    | opens start stream =>
      exact ⟨_, hs.goesOn (.reading stream) hid (by simp [Session.process?_become]) (by simp)⟩
    | observes batch => exact ⟨o, hs.of_lose (c.observeAll_alike s batch)⟩
    | breaks =>
      exact ⟨none, hs.ends hid (by simp [Session.process?_finish]) (by simp) (by simp)⟩
    | _ => cases hp

/-! ## Acts and runs -/

theorem watcher_call (c : Settings) {s : State} {o : Option (Nat × Watch)} (hs : s.Watcher o)
    (hn : s.Numbered) (k : Call) : ∃ o', (c.call s k).Watcher o' := by
  cases k with
  | start =>
    have hr := Session.role_begin_none (f := Process.watch?) (q := .starting) hn (.range c.lead) rfl
    exact ⟨o, hs.congr hr (by simp [Settings.call]) fun hb => hb⟩
  | register =>
    refine ⟨o, ?_⟩
    show State.Watcher (if s.own.called then _ else _ : State) o
    split
    · exact hs.congr (fun _ => rfl) (by simp) (by simp)
    · exact hs.congr (Session.role_begin_none (s := { s with own := { s.own with called := true } })
        hn (.grant c.lease.ttlSecs) rfl) rfl fun hb => hb
  | deregister =>
    refine ⟨o, hs.aside (aside_deregister hn) fun hb => ?_⟩
    have hd : (deregister s).flags.watching = true := hb
    simpa using hd
  | instances service =>
    show ∃ o', State.Watcher (armWatch none _) o'
    refine State.Watcher.armWatch (o := o) ?_ ?_ none
    · cases s.registry.get? service with
      | some m => exact hs.congr (fun _ => rfl) rfl fun hb => hb
      | none => exact hs.congr (Session.role_begin_none hn _ rfl) (by simp) (by simp)
    · cases s.registry.get? service with
      | some m => exact numbered_instant hn _
      | none => exact numbered_begin hn _ _
  | shutdown =>
    refine ⟨o, hs.congr (fun k => ?_) rfl fun hb => hb⟩
    exact Session.role_or_none (s := s.close) (q := .closing) rfl (Session.process?_spawn _ _) k

/-- **There is one watch or none, and the books say so**, whatever happens. -/
theorem watcher_act {c : Settings} {s t : State} {a : Act} {o : Option (Nat × Watch)}
    (h : c.act s a = some t) (hn : s.Numbered) (hs : s.Watcher o) : ∃ o', t.Watcher o' := by
  cases a with
  | call k =>
    obtain rfl := Option.some.inj h
    exact watcher_call c hs hn k
  | signal id sig =>
    obtain ⟨p, hp, hturn⟩ := Settings.turn h
    exact hturn.watcher hs hn hp
  | abandon id =>
    obtain ⟨p, hp, hcall, rfl⟩ := Settings.act_abandon_iff.1 h
    -- a watch is a task, and cannot be abandoned
    refine ⟨o, hs.finish id ?_ (fun _ => rfl) rfl fun hb => hb⟩
    rw [Session.role_of_process? hp]
    cases p with
    | watch => cases hcall
    | _ => rfl
  | drop =>
    obtain rfl := Option.some.inj h
    exact ⟨o, hs.congr (fun _ => rfl) rfl fun hb => hb⟩

theorem watcher_initial : State.initial.Watcher none :=
  ⟨fun _ _ => ⟨(fun h => nomatch h), (fun h => nomatch h)⟩, rfl, fun h => nomatch h⟩

theorem watcher_run {c : Settings} {s : State} {turns : List (State × Act)}
    (h : Run c.act .initial turns s) : ∃ o, s.Watcher o := by
  have hinv := h.invariant (fun u => u.Numbered ∧ ∃ o, u.Watcher o)
    ⟨numbered_initial, none, watcher_initial⟩ fun p _ v hv hact => by
      obtain ⟨hn, o, ho⟩ := hv
      exact ⟨numbered_act hact hn, watcher_act hact hn ho⟩
  exact hinv.2

end Muster.Leased
