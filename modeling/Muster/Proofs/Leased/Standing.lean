/-
  The standing of a registration, and the crew that works on it.

  Of all that a lease backend keeps, six entries say how its registration stands, and three kinds of
  processes can change them for the better: a registration that was called for, the restoring of a lost
  one, and the task that renews the lease.  These processes are the CREW; every other process is an
  outsider.

  (1) `Turn.steady` — numbers stay fresh, and no turn closes a backend;
  (2) `Turn.outsider` — **an outsider's turn is a loss or nothing**, as far as standing, crew and the
      requests of registrations go;
  (3) `idle_call` — so is every call but `register` and `deregister`;
  (4) `Settings.deed` — hence the table of all that an act can do to the registration (`Deed`).

  What is left for a proof about registrations are the turns of the crew.
-/
import Muster.Proofs.Leased.Books
import Muster.Proofs.Leased.Turn

namespace Muster.Leased

/-! ## Standing and crew -/

/-- **How the registration stands.** -/
structure Standing where
  registered : Bool
  degraded : Bool
  restoring : Bool
  forced : Bool
  lease : Option Int
  renewal : Option Nat
deriving DecidableEq, Repr

/-- Whether a process works on the registration. -/
def Process.isCrew : Process → Bool
  | .registering _ | .renewal .. | .restore _ => true
  | _ => false

/-- Whether a request is one of the three of a registration. -/
def Request.enrols : Request → Bool
  | .grant _ | .put .. | .keepAlive .. => true
  | _ => false

namespace State

/-- How the registration of a backend stands. -/
def standing (s : State) : Standing where
  registered := s.flags.registered
  degraded := s.flags.degraded
  restoring := s.own.restoring
  forced := s.own.forced
  lease := s.own.lease
  renewal := s.own.renewal

/-- The process with a number, if it is one of the crew. -/
def crew (s : State) (k : Nat) : Option Process := (s.process? k).filter Process.isCrew

/-- The requests of registrations that were sent so far, the newest first. -/
def enrolments (s : State) : List (Nat × Request) := s.requests.filter fun q => q.2.enrols

end State

/-- **Nothing happened to the registration**: it stands as before, with the same crew, and no request
    of a registration was sent. -/
structure Idle (s t : State) : Prop where
  standing : t.standing = s.standing
  crew : ∀ k, t.crew k = s.crew k
  enrolments : t.enrolments = s.enrolments

namespace Idle

variable {s t u : State}

theorem refl (s : State) : Idle s s := ⟨rfl, fun _ => rfl, rfl⟩

theorem trans (h : Idle s t) (g : Idle t u) : Idle s u :=
  ⟨g.standing.trans h.standing, fun k => (g.crew k).trans (h.crew k),
    g.enrolments.trans h.enrolments⟩

/-- Whatever is the same but for the cache and the log is the same for the registration. -/
theorem of_alike (h : t.Alike s) : Idle s t where
  standing := by simp [State.standing, h.flags, h.own]
  crew k := by simp [State.crew, h.process?]
  enrolments := by simp [State.enrolments, h.requests]

end Idle

/-! ## The crew after changes to outsiders -/

theorem crew_of_process? {s : State} {k : Nat} {p : Process} (h : s.process? k = some p)
    (hp : p.isCrew = true) : s.crew k = some p := by
  simp [State.crew, h, Option.filter, hp]

theorem process?_of_crew {s : State} {k : Nat} {p : Process} (h : s.crew k = some p) :
    s.process? k = some p ∧ p.isCrew = true := by
  obtain ⟨hp, hc⟩ := Option.filter_eq_some_iff.1 h
  exact ⟨hp, hc⟩

/-- One of the crew has a number EXACTLY when the crew has it there. -/
theorem crew_iff {s : State} {k : Nat} {p : Process} (hp : p.isCrew = true) :
    s.crew k = some p ↔ s.process? k = some p :=
  ⟨fun h => (process?_of_crew h).1, fun h => crew_of_process? h hp⟩

theorem crew_outsider {s : State} {k : Nat} {p : Process} (h : s.process? k = some p)
    (hp : p.isCrew = false) : s.crew k = none := by
  simp [State.crew, h, Option.filter, hp]

/-- A process that does not count is not noticed when it is started. -/
theorem filter_or_neg {f : Process → Bool} (o : Option Process) {p : Process} (hp : f p = false)
    (b : Prop) [Decidable b] : (o.or (if b then some p else none)).filter f = o.filter f := by
  cases o with
  | some q => rfl
  | none => by_cases hb : b <;> simp [hb, Option.filter, hp]

namespace Idle

variable {s : State} {id : Nat}

theorem note (s : State) (l : Logging.Line) : Idle s (s.note l) :=
  of_alike (by constructor <;> simp)

theorem log (s : State) (v : Logging.Severity) (m : String) (fs : List (String × String)) :
    Idle s (s.log v m fs) := note s ⟨v, m, fs⟩

theorem setWatching (s : State) (b : Bool) : Idle s (s.setWatching b) where
  standing := by simp [State.standing]
  crew k := by simp [State.crew]
  enrolments := by simp [State.enrolments]

theorem close (s : State) : Idle s s.close where
  standing := by simp [State.standing]
  crew k := by simp [State.crew]
  enrolments := by simp [State.enrolments]

theorem instant (s : State) (o : Outcome) : Idle s (s.instant o) where
  standing := by simp [State.standing]
  crew k := by simp [State.crew]
  enrolments := by simp [State.enrolments]

/-- A number that is none of the crew's can be taken by any outsider. -/
theorem become (h : s.crew id = none) {q : Process} (hq : q.isCrew = false) :
    Idle s (s.become id q) where
  standing := by simp [State.standing]
  crew k := by
    rw [State.crew, Session.process?_become]
    by_cases hk : k = id
    · subst hk
      rw [if_pos rfl, h]
      cases s.process? k <;> simp [Option.filter, hq]
    · rw [if_neg hk, State.crew]
  enrolments := by simp [State.enrolments]

theorem finish (h : s.crew id = none) : Idle s (s.finish id) where
  standing := by simp [State.standing]
  crew k := by
    rw [State.crew, Session.process?_finish]
    by_cases hk : k = id
    · subst hk; rw [if_pos rfl, h]; rfl
    · rw [if_neg hk, State.crew]
  enrolments := by simp [State.enrolments]

theorem ask (h : s.crew id = none) {r : Request} (hr : r.enrols = false) {q : Process}
    (hq : q.isCrew = false) : Idle s (s.ask id r q) where
  standing := by simp [State.standing]
  crew k := by simpa [State.crew] using (become h hq).crew k
  enrolments := by simp [State.enrolments, hr]

theorem answer (h : s.crew id = none) (o : Outcome) : Idle s (s.answer id o) where
  standing := by simp [State.standing]
  crew k := by simpa [State.crew] using (finish h).crew k
  enrolments := by simp [State.enrolments]

theorem spawn (s : State) {p : Process} (hp : p.isCrew = false) : Idle s (s.spawn p) where
  standing := by simp [State.standing]
  crew k := by rw [State.crew, Session.process?_spawn, filter_or_neg _ hp, State.crew]
  enrolments := by simp [State.enrolments]

theorem armWatch (start : Option Int) (s : State) : Idle s (armWatch start s) := by
  unfold Leased.armWatch
  split
  · exact refl s
  · refine trans ⟨?_, fun k => ?_, ?_⟩ (spawn _ rfl)
    · simp [State.standing]
    · simp [State.crew]
    · simp [State.enrolments]

theorem endWatch (h : s.crew id = none) : Idle s (endWatch s id) where
  standing := by simp [State.standing]
  crew k := by simpa [State.crew] using (finish h).crew k
  enrolments := by simp [State.enrolments]

end Idle

/-! ## Losses -/

/-- A loss keeps every process that there was. -/
theorem process?_lose (c : Settings) (b : Bool) {s : State} {k : Nat} {p : Process}
    (h : s.process? k = some p) : (c.lose b s).process? k = some p := by
  simp [h]

/-- **What an outsider did**: nothing for the registration, or a loss of it. -/
def Outside (c : Settings) (s t : State) : Prop :=
  ∃ b, (b = true → s.flags.registered = true) ∧ Idle (c.lose b s) t

theorem Idle.outside {c : Settings} {s t : State} (h : Idle s t) : Outside c s t :=
  ⟨false, by simp, h⟩

/-- A loss that depends on the registration is the act of an outsider, whatever idles after it. -/
theorem Outside.of_lose {c : Settings} {s t u : State} {b : Bool}
    (h : t.Alike (c.lose (s.flags.registered && b) s)) (g : Idle t u) : Outside c s u :=
  ⟨_, fun hb => (Bool.and_eq_true_iff.1 hb).1, (Idle.of_alike h).trans g⟩

/-- **An outsider's turn is a loss of the registration, or nothing to it.** -/
theorem Turn.outsider {c : Settings} {s t : State} {id : Nat} {p : Process}
    {sig : Signal Reply Item} (h : Turn c s id p sig t) (hid : s.process? id = some p)
    (hp : p.isCrew = false) : Outside c s t := by
  have hs : s.crew id = none := crew_outsider hid hp
  -- the process is still there after a loss, and still no crew
  have hl {u : State} {b : Bool} (hu : u.Alike (c.lose b s)) : u.crew id = none := by
    rw [(Idle.of_alike hu).crew]
    exact crew_outsider (process?_lose c b hid) hp
  cases h with
  | loads snap =>
    have hu := c.synchronise_alike false snap s
    have ha := Idle.armWatch (some (snap.revision + 1)) (c.synchronise false snap s)
    exact .of_lose hu (ha.trans (.answer (by rw [ha.crew]; exact hl hu) _))
  | loadFails f l | revokes l | findFails f l =>
    have hn := Idle.note s l
    exact (hn.trans (.answer (by rw [hn.crew, hs]) _)).outside
  | revokeFails f => exact (Idle.answer hs _).outside
  | finds snap u o hu =>
    have ha := c.synchronise_alike false snap s
    rcases hu with rfl | ⟨l, rfl⟩
    · exact .of_lose ha (.answer (hl ha) _)
    · have hn := Idle.note (c.synchronise false snap s) l
      exact .of_lose ha (hn.trans (.answer (by rw [hn.crew]; exact hl ha) _))
  | closes l =>
    have hw := (Idle.setWatching s false).trans (Idle.note _ l)
    exact (hw.trans (.answer (by rw [hw.crew, hs]) _)).outside
  | watches start => exact (Idle.ask hs rfl rfl).outside
  | syncs => exact (Idle.ask hs rfl rfl).outside
  | synced snap =>
    have hu := c.synchronise_alike true snap s
    exact .of_lose hu (.ask (hl hu) rfl rfl)
  | opens start stream l =>
    have hw := (Idle.setWatching s true).trans (Idle.note _ l)
    exact (hw.trans (.become (by rw [hw.crew, hs]) rfl)).outside
  | observes batch => exact .of_lose (c.observeAll_alike s batch) (.refl _)
  | breaks l =>
    have hn := Idle.note s l
    exact (hn.trans (.endWatch (by rw [hn.crew, hs]))).outside
  | _ => cases hp

/-! ## Numbers, and the closing of a backend -/

/-- **Numbers stay fresh**, and a backend is as closed as it was. -/
structure Steady (s t : State) : Prop where
  nextId : s.nextId ≤ t.nextId
  process? : ∀ k, t.nextId ≤ k → s.process? k = none → t.process? k = none
  closed : t.closed = s.closed

namespace Steady

variable {s t u : State}

theorem trans (h : Steady s t) (g : Steady t u) : Steady s u where
  nextId := Nat.le_trans h.nextId g.nextId
  process? k hk hn := g.process? k hk (h.process? k (Nat.le_trans g.nextId hk) hn)
  closed := g.closed.trans h.closed

theorem numbered (h : Steady s t) (hs : s.Numbered) : t.Numbered := hs.of_books h.nextId h.process?

/-- A process that goes on, as the same or another, takes no new number. -/
theorem goesOn (id : Nat) (p : Process) (hn : t.nextId = s.nextId)
    (hp : ∀ k, t.process? k = (s.become id p).process? k) (hc : t.closed = s.closed) :
    Steady s t where
  nextId := Nat.le_of_eq hn.symm
  process? k _ h := by
    rw [hp, Session.process?_become]
    by_cases hk : k = id
    · rw [if_pos hk, ← hk, h]; rfl
    · rw [if_neg hk, h]
  closed := hc

/-- Nor does one that ends. -/
theorem ends (id : Nat) (hn : t.nextId = s.nextId)
    (hp : ∀ k, t.process? k = (s.finish id).process? k) (hc : t.closed = s.closed) :
    Steady s t where
  nextId := Nat.le_of_eq hn.symm
  process? k _ h := by rw [hp, Session.process?_finish, h, ite_self]
  closed := hc

/-- A process that may be started gets the next number. -/
theorem starts {b : Prop} [Decidable b] {p : Process}
    (hn : t.nextId = if b then s.nextId else s.nextId + 1)
    (hp : ∀ k, t.process? k = if b then s.process? k
      else (s.process? k).or (if k = s.nextId then some p else none))
    (hc : t.closed = s.closed) : Steady s t := by
  by_cases hb : b
  · simp only [if_pos hb] at hn hp
    exact ⟨Nat.le_of_eq hn.symm, fun k _ h => by rw [hp, h], hc⟩
  · simp only [if_neg hb] at hn hp
    refine ⟨by omega, fun k hk h => ?_, hc⟩
    rw [hp, h, if_neg (by omega)]; rfl

theorem of_lose {c : Settings} {b : Bool} (h : t.Alike (c.lose b s)) : Steady s t := by
  refine starts (b := (b && !s.own.restoring) = false) (p := .restore .delaying) ?_ (fun k => ?_) ?_
  · rw [h.nextId]; cases b <;> cases hr : s.own.restoring <;> simp [hr]
  · rw [h.process?]; cases b <;> cases hr : s.own.restoring <;> simp [hr]
  · rw [h.closed]; simp

end Steady

/-- **Every turn keeps numbers fresh, and closes nothing.** -/
theorem Turn.steady {c : Settings} {s t : State} {id : Nat} {p : Process}
    {sig : Signal Reply Item} (h : Turn c s id p sig t) : Steady s t := by
  cases h with
  | loads snap =>
    -- merging may start a task that restores, and then a watch begins
    let u := c.synchronise false snap s
    refine (Steady.of_lose (c.synchronise_alike false snap s)).trans
      ((Steady.starts (t := armWatch (some (snap.revision + 1)) u)
        (b := (u.closed || u.own.watching) = true)
        (p := .watch (.fresh (some (snap.revision + 1)))) ?_ ?_ ?_).trans
        (.ends id ?_ ?_ ?_))
    all_goals simp [u]
  | finds snap u o hu =>
    refine (Steady.of_lose (c.synchronise_alike false snap s)).trans (.ends id ?_ ?_ ?_)
    all_goals rcases hu with rfl | ⟨l, rfl⟩ <;> simp [Session.process?_finish]
  | synced snap =>
    refine (Steady.of_lose (c.synchronise_alike true snap s)).trans
      (.goesOn id (.watch (.opening (snap.revision + 1))) ?_ ?_ ?_)
    all_goals simp
  | observes batch => exact .of_lose (c.observeAll_alike s batch)
  | loadFails | refused | revokes | revokeFails | findFails | closes | breaks | renewalEnds
  | renewalStops | skips | yields | restoreStops | givesUp =>
    exact .ends id (by simp) (by simp [Session.process?_finish]) (by simp)
  | asks _ next => exact .goesOn id (.registering next) (by simp) (by simp) (by simp)
  | watches start =>
    exact .goesOn id (.watch (.opening start)) (by simp) (by simp) (by simp)
  | syncs => exact .goesOn id (.watch .syncing) (by simp) (by simp) (by simp)
  | opens _ stream =>
    exact .goesOn id (.watch (.reading stream)) (by simp)
      (by simp [Session.process?_become]) (by simp)
  | wakes =>
    exact .goesOn id (.restore (.attempting 0 .granting)) (by simp)
      (by simp [Session.process?_become]) (by simp)
  | @retries failures =>
    exact .goesOn id (.restore (.attempting failures .granting)) (by simp) (by simp)
      (by simp)
  | @restoreAsks failures _ _ _ _ next =>
    exact .goesOn id (.restore (.attempting failures next)) (by simp) (by simp)
      (by simp)
  | @backsOff failures =>
    exact .goesOn id (.restore (.backingOff (failures + 1))) (by simp)
      (by simp [Session.process?_become]) (by simp)
  | renews =>
    -- nothing moves: the case of a process that is NOT started
    exact .starts (b := True) (p := .closing) (by simp) (by simp) (by simp)
  | enrols lease stream =>
    refine (Steady.starts (b := False) (p := .renewal lease stream)
      (t := c.enrol lease stream s) ?_ ?_ ?_).trans (.ends id ?_ ?_ ?_)
    all_goals simp
  | restores lease stream =>
    refine (Steady.starts (b := False) (p := .renewal lease stream)
      (t := c.enrol lease stream s) ?_ ?_ ?_).trans (.ends id ?_ ?_ ?_)
    all_goals simp [Session.process?_finish]
  | renewalLost ls l =>
    refine (Steady.ends (t := ((s.notes ls).finish id).note l) id ?_ ?_ ?_).trans
      (.starts (b := s.own.restoring = true) (p := .restore .delaying) ?_ ?_ ?_)
    all_goals simp [Session.process?_finish]

/-! ## Acts -/

/-- Nobody has the next number. -/
theorem crew_nextId {s : State} (h : s.Numbered) : s.crew s.nextId = none := by
  rw [State.crew, h.process?_nextId]; rfl

theorem Idle.begin {s : State} (h : s.Numbered) {r : Request} (hr : r.enrols = false)
    {p : Process} (hp : p.isCrew = false) : Idle s (s.begin r p) := by
  have hs := Idle.spawn s hp
  exact hs.trans (.ask (by rw [hs.crew]; exact crew_nextId h) hr hp)

/-- **A call is nothing to the registration**, unless it registers or deregisters. -/
theorem idle_call (c : Settings) {s : State} (h : s.Numbered) {k : Call} (hr : k ≠ .register)
    (hd : k ≠ .deregister) : Idle s (c.call s k) := by
  cases k with
  | start => exact .begin h rfl rfl
  | register => exact absurd rfl hr
  | deregister => exact absurd rfl hd
  | instances service =>
    refine Idle.trans ?_ (.armWatch none _)
    cases s.registry.get? service with
    | some m => exact .instant s _
    | none => exact .begin h rfl rfl
  | shutdown => exact (Idle.close s).trans (.spawn _ rfl)

/-- A deregistration calls none of the crew off, and nobody in. -/
theorem crew_deregister {s : State} (h : s.Numbered) (k : Nat) :
    (deregister s).crew k = s.crew k := by
  let u : State := { s.setRegistered false with
    own := { s.own with called := false, renewal := none, lease := none } }
  have hu : u.Numbered := h
  have hc : u.crew k = s.crew k := rfl
  unfold deregister
  cases s.own.lease with
  | some lease => exact ((Idle.begin hu rfl rfl).crew k).trans hc
  | none => exact ((Idle.instant u _).crew k).trans hc

theorem enrolments_deregister (s : State) : (deregister s).enrolments = s.enrolments := by
  unfold deregister
  cases s.own.lease <;> simp [State.enrolments, Request.enrols]

theorem numbered_begin {s : State} (h : s.Numbered) (r : Request) (p : Process) :
    (s.begin r p).Numbered := (h.spawn p).become s.nextId p

theorem numbered_instant {s : State} (h : s.Numbered) (o : Outcome) : (s.instant o).Numbered :=
  fun q hq => Nat.lt_succ_of_lt (h q hq)

theorem numbered_armWatch {s : State} (h : s.Numbered) (start : Option Int) :
    (armWatch start s).Numbered := by
  unfold armWatch
  split
  · exact h
  · exact Session.Numbered.spawn (s := { s with own := { s.own with watching := true } }) h _

theorem numbered_call (c : Settings) {s : State} (h : s.Numbered) (k : Call) :
    (c.call s k).Numbered := by
  cases k with
  | start => exact numbered_begin h _ _
  | register =>
    show (if s.own.called then _ else _ : State).Numbered
    split
    · exact numbered_instant (s := s.log .warn _ _) h _
    · exact numbered_begin (s := { s with own := { s.own with called := true } }) h _ _
  | deregister =>
    let u : State := { s.setRegistered false with
      own := { s.own with called := false, renewal := none, lease := none } }
    have hu : u.Numbered := h
    show (deregister s).Numbered
    unfold deregister
    cases s.own.lease with
    | some lease => exact numbered_begin hu _ _
    | none => exact numbered_instant hu _
  | instances service =>
    unfold Settings.call
    refine numbered_armWatch ?_ none
    cases s.registry.get? service with
    | some m => exact numbered_instant h _
    | none => exact numbered_begin h _ _
  | shutdown => exact Session.Numbered.spawn (s := s.close) h _

/-- **Numbers stay fresh**, whatever happens. -/
theorem numbered_act {c : Settings} {s t : State} {a : Act} (h : c.act s a = some t)
    (hs : s.Numbered) : t.Numbered := by
  cases a with
  | call k => obtain rfl := Option.some.inj h; exact numbered_call c hs k
  | signal id sig =>
    obtain ⟨p, -, ht⟩ := Settings.turn h
    exact ht.steady.numbered hs
  | abandon id =>
    obtain ⟨-, -, -, rfl⟩ := Settings.act_abandon_iff.1 h
    exact hs.finish id
  | drop => obtain rfl := Option.some.inj h; exact hs

theorem numbered_initial : State.initial.Numbered := fun _ hq => by cases hq

/-- Numbers are fresh at the end of every run. -/
theorem numbered_run {c : Settings} {s t : State} {turns : List (State × Act)}
    (h : Run c.act s turns t) (hs : s.Numbered) : t.Numbered :=
  h.invariant _ hs fun _ _ _ hp ha => numbered_act ha hp

/-- Numbers are fresh throughout every run. -/
theorem numbered_throughout {c : Settings} {s t : State} {turns : List (State × Act)}
    (h : Run c.act s turns t) (hs : s.Numbered) :
    Run.Throughout (fun u : State => u.Numbered) turns t :=
  h.throughout _ hs fun _ _ _ hp ha => numbered_act ha hp

/-! ## All acts -/

/-- **What an act does to the registration.** -/
inductive Deed (c : Settings) (s : State) : Act → State → Prop
  /-- Nothing. -/
  | idle {a : Act} {t : State} : Idle s t → Deed c s a t
  /-- A registration begins. -/
  | begins : Deed c s (.call .register)
      (({ s with own := { s.own with called := true } } : State).begin (.grant c.lease.ttlSecs)
        (.registering .granting))
  /-- The registration is given up. -/
  | deregisters : Deed c s (.call .deregister) (deregister s)
  /-- An outsider finds it lost, or not. -/
  | outside {id : Nat} {sig : Signal Reply Item} {t : State} : Outside c s t →
      Deed c s (.signal id sig) t
  /-- One of the crew has a turn. -/
  | crew {id : Nat} {p : Process} {sig : Signal Reply Item} {t : State} :
      s.process? id = some p → p.isCrew = true → Turn c s id p sig t → Deed c s (.signal id sig) t
  /-- A caller no longer waits. -/
  | leaves {id : Nat} {p : Process} : s.process? id = some p → p.isTask = false →
      Deed c s (.abandon id) (s.finish id)

/-- **These are all.** -/
theorem Settings.deed {c : Settings} {s t : State} {a : Act} (h : c.act s a = some t)
    (hn : s.Numbered) : Deed c s a t := by
  cases a with
  | call k =>
    obtain rfl := Option.some.inj h
    by_cases hr : k = .register
    · subst hr
      show Deed c s _ (if s.own.called then _ else _ : State)
      split
      · exact .idle ((Idle.note s _).trans (.instant _ _))
      · exact .begins
    · by_cases hd : k = .deregister
      · subst hd
        exact .deregisters
      · exact .idle (idle_call c hn hr hd)
  | signal id sig =>
    obtain ⟨p, hp, ht⟩ := turn h
    cases hc : p.isCrew with
    | true => exact .crew hp hc ht
    | false => exact .outside (ht.outsider hp hc)
  | abandon id =>
    obtain ⟨p, hp, hcall, rfl⟩ := Settings.act_abandon_iff.1 h
    exact .leaves hp hcall
  | drop =>
    obtain rfl := Option.some.inj h
    exact .idle (.close s)

end Muster.Leased
