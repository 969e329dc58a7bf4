/-
  What a process of a lease backend can do to the others.

  Every turn and every call is a sequence of edits.  What a turn can bring about is little: a watch that is
  being set up comes from one that was, or is started in a backend that is open; and nobody but a shutdown
  becomes a shutdown.

  (1) `Turn.edits`, `Settings.edits_call` — the edits of a turn and of a call;
  (2) `upright_act` — hence an act touches the process with ITS number only, keeps numbers in order, and
      closes the backend before it shuts it down;
  (3) `signal_or_abandon` — and whoever acts with the number of a process is that process, or its caller.
-/
import Muster.Proofs.Edits
import Muster.Proofs.Leased.Standing

namespace Muster.Leased

open Session (Edits Spares)

/-! ## Who can follow whom -/

/-- **Whether a process is a watch that is being set up**: it has not begun, or waits for its snapshot or
    for its stream. -/
def Process.isSettingUp : Process → Bool
  | .watch (.reading _) => false
  | .watch _ => true
  | _ => false

/-- **As what a process can go on.** -/
structure Process.Precedes (p q : Process) : Prop where
  closing : q ≠ .closing
  settingUp : q.isSettingUp = true → p.isSettingUp = true

/-- **What a turn can start** in a backend: a task that restores or renews, and a watch if it is open. -/
inductive State.Bears (s : State) : Process → Prop
  | restore : s.Bears (.restore .delaying)
  | renewal (lease : Int) (stream : Nat) : s.Bears (.renewal lease stream)
  | watch (start : Option Int) : s.closed = false → s.Bears (.watch (.fresh start))

theorem State.Bears.ne_closing {s : State} {q : Process} (h : s.Bears q) : q ≠ .closing := by
  cases h <;> exact fun he => nomatch he

/-- In a closed backend no watch is started. -/
theorem State.Bears.not_settingUp {s : State} {q : Process} (h : s.Bears q) (hs : s.closed = true) :
    q.isSettingUp = false := by
  cases h with
  | restore | renewal => rfl
  | watch _ hopen => rw [hs] at hopen; cases hopen

/-! ## The parts of a turn -/

section Parts

variable {c : Settings} {s t : State} {id : Nat} {next born : Process → Prop}

theorem edits_scheduleRestore (h : Edits id next born s t) (hb : born (.restore .delaying))
    (forced : Bool) : Edits id next born s (c.scheduleRestore forced t) := by
  have hd := h.setDegraded true
  -- the same with either flag: a line, or a task and a line
  have hrest {u : State} (hu : Edits id next born s u) : Edits id next born s
      (if u.own.restoring then u.log .debug "re-registration already scheduled"
          [("service", c.self.name)]
        else (({ u with own := { u.own with restoring := true } } : State).log .warn
          "own registration lost, scheduling re-registration"
          [("service", c.self.name), ("endpoint", c.self.endpoint),
            ("delay_ms", Decimal.ofInt (c.lease.reregisterDelay.toMillis % 18446744073709551616))]
          ).spawn (.restore .delaying)) := by
    split
    · exact hu.note _
    · exact ((hu.write u.flags u.registry _).note _).spawn hb
  cases forced with
  | true => exact hrest (hd.write _ _ { (t.setDegraded true).own with forced := true })
  | false => exact hrest hd

theorem edits_observeAll (h : Edits id next born s t) (hb : born (.restore .delaying))
    (batch : List Event) : Edits id next born s (c.observeAll t batch) := by
  have hone {u : State} (hu : Edits id next born s u) (e : Event) :
      Edits id next born s (c.observe u e) := by
    unfold Settings.observe
    cases e.finding c.scope with
    | foreign => exact hu.note _
    | garbled service => exact (hu.write u.flags (u.registry.create service) u.own).note _
    | announced service i => exact hu.insertNoted _ _ _
    | misplaced service => exact (hu.write u.flags (u.registry.create service) u.own).note _
    | withdrawn service i =>
      dsimp only
      have he := hu.eraseNoted service i (.about i.name "service instance removed" i)
      split
      · exact edits_scheduleRestore he hb false
      · exact he
  unfold Settings.observeAll
  induction batch generalizing t with
  | nil => exact h
  | cons e es ih => exact ih (hone h e)

theorem edits_absorbAll (h : Edits id next born s t) (pairs : List (String × ByteArray)) :
    Edits id next born s (pairs.foldl c.absorb t) := by
  induction pairs generalizing t with
  | nil => exact h
  | cons p ps ih =>
    refine ih ?_
    unfold Settings.absorb
    split
    · exact h.insertNoted _ _ _
    · exact h.note _
    · exact h.note _

/-- A snapshot that only adds starts nothing. -/
theorem edits_merge (h : Edits id next born s t) (snap : Snapshot) :
    Edits id next born s (c.synchronise false snap t) :=
  edits_absorbAll h snap.pairs

theorem edits_synchronise (h : Edits id next born s t) (hb : born (.restore .delaying))
    (full : Bool) (snap : Snapshot) : Edits id next born s (c.synchronise full snap t) := by
  cases full with
  | false => exact edits_merge h snap
  | true =>
    have ha := edits_absorbAll (c := c) h snap.pairs
    have hs : Edits id next born s (sweep (snap.announced c.scope) (snap.pairs.foldl c.absorb t)) :=
      (ha.write _ _ _).notes _
    unfold Settings.synchronise
    simp only [if_true]
    split
    · exact edits_scheduleRestore (hs.note _) hb false
    · exact hs

theorem edits_armWatch (h : Edits id next born s t) (start : Option Int)
    (hb : s.closed = false → born (.watch (.fresh start))) :
    Edits id next born s (armWatch start t) := by
  unfold armWatch
  split
  · exact h
  · rename_i hopen
    have hclosed : t.closed = false := by
      simp only [Bool.or_eq_true, not_or, Bool.not_eq_true] at hopen
      exact hopen.1
    exact (h.write t.flags t.registry _).spawn (hb (h.closed_eq ▸ hclosed))

theorem edits_endWatch (h : Edits id next born s t) : Edits id next born s (endWatch t id) :=
  (h.finish.setWatching false).write _ _ _

theorem edits_endRestore (h : Edits id next born s t) : Edits id next born s (endRestore t id) :=
  h.finish.write _ _ _

theorem edits_enrol (h : Edits id next born s t) (lease : Int) (stream : Nat)
    (hb : born (.renewal lease stream)) : Edits id next born s (c.enrol lease stream t) := by
  have hl := h.write t.flags t.registry { t.own with lease := some lease }
  have hf := (hl.setRegistered true).setDegraded false
  exact ((hf.write _ _ _).spawn hb).note _

end Parts

/-! ## Turns and calls -/

variable {c : Settings} {s t : State}

/-- **The edits of a turn.** -/
theorem Turn.edits {id : Nat} {p : Process} {sig : Signal Reply Item} (h : Turn c s id p sig t)
    (hid : id < s.nextId) : Edits id p.Precedes s.Bears s t := by
  have hs : Edits id p.Precedes s.Bears s s := .refl
  cases h with
  | loads snap => exact (edits_armWatch (edits_merge hs snap) _ (.watch _)).answer _ hid
  | loadFails _ l | findFails _ l | revokes l => exact (hs.note l).answer _ hid
  | asks q next => exact hs.ask q ⟨(nomatch ·), (nomatch ·)⟩
  | enrols lease stream => exact (edits_enrol hs lease stream (.renewal _ _)).answer _ hid
  | refused f l => exact ((hs.write _ _ _).note l).answer _ hid
  | revokeFails f => exact hs.answer _ hid
  | finds snap u o hu =>
    rcases hu with rfl | ⟨l, rfl⟩
    · exact (edits_merge hs snap).answer o hid
    · exact ((edits_merge hs snap).note l).answer o hid
  | closes l => exact ((hs.setWatching false).note l).answer _ hid
  | watches start => exact hs.ask _ ⟨(nomatch ·), fun _ => rfl⟩
  | syncs => exact hs.ask _ ⟨(nomatch ·), fun _ => rfl⟩
  | synced snap =>
    exact (edits_synchronise hs .restore true snap).ask _ ⟨(nomatch ·), fun _ => rfl⟩
  | opens start stream l => exact ((hs.setWatching true).note l).become ⟨(nomatch ·), (nomatch ·)⟩
  | observes batch => exact edits_observeAll hs .restore batch
  | breaks l => exact edits_endWatch (hs.note l)
  | renews ttl l => exact hs.note l
  | renewalLost ls l => exact edits_scheduleRestore ((hs.notes ls).finish.note l) .restore true
  | renewalEnds ls l => exact (hs.notes ls).finish.note l
  | renewalStops l => exact (hs.note l).finish
  | skips l => exact edits_endRestore (((hs.write _ _ _).note l).setDegraded false)
  | wakes => exact (hs.write _ _ _).ask _ ⟨(nomatch ·), (nomatch ·)⟩
  | retries => exact hs.ask _ ⟨(nomatch ·), (nomatch ·)⟩
  | yields forced l => exact edits_endRestore ((hs.write _ _ _).note l)
  | restoreStops => exact edits_endRestore hs
  | restoreAsks q next => exact hs.ask q ⟨(nomatch ·), (nomatch ·)⟩
  | restores lease stream l =>
    exact edits_endRestore ((edits_enrol hs lease stream (.renewal _ _)).note l)
  | backsOff f l => exact (hs.note l).become ⟨(nomatch ·), (nomatch ·)⟩
  | givesUp f l => exact edits_endRestore (hs.note l)

/-- **The edits of a call**, by the number that it takes.  A shutdown closes the backend first. -/
theorem Settings.edits_call (c : Settings) (s : State) {k : Call} (hk : k ≠ .shutdown) :
    Edits s.nextId (· ≠ .closing) (· ≠ .closing) s (c.call s k) := by
  have hs : Edits s.nextId (· ≠ .closing) (· ≠ .closing) s s := .refl
  cases k with
  | start => exact hs.begin _ (by simp) (by simp)
  | register =>
    unfold call
    dsimp only
    split
    · exact (hs.note _).instant _
    · let u : State := { s with own := { s.own with called := true } }
      have hu : Edits s.nextId (· ≠ .closing) (· ≠ .closing) s u := hs.write _ _ _
      exact Edits.begin (t := u) hu _ (by simp) (by simp)
  | deregister =>
    let u : State := { s.setRegistered false with
      own := { s.own with called := false, renewal := none, lease := none } }
    have hu : Edits s.nextId (· ≠ .closing) (· ≠ .closing) s u := hs.write _ _ _
    unfold call deregister
    dsimp only
    split
    · exact Edits.begin (t := u) hu _ (by simp) (by simp)
    · exact hu.instant _
  | instances service =>
    refine edits_armWatch ?_ none fun _ => by simp
    cases s.registry.get? service with
    | some m => exact hs.instant _
    | none => exact hs.begin _ (by simp) (by simp)
  | shutdown => exact absurd rfl hk

/-! ## Acts -/

/-- **The number of the process that acts**; a call takes the next one. -/
def Act.number (s : State) : Act → Nat
  | .signal id _ | .abandon id => id
  | .call _ | .drop => s.nextId

/-- **An act touches the process with its number only**, and the books stay upright. -/
theorem upright_act {a : Act} (h : c.act s a = some t) (hs : s.Upright .closing) :
    Spares (a.number s) s t ∧ t.Upright .closing := by
  cases a with
  | call k =>
    obtain rfl := Option.some.inj h
    by_cases hk : k = .shutdown
    · subst hk
      exact hs.shutdown
    · have he := c.edits_call s hk
      exact ⟨he.spares, hs.edits he (fun hne => hne rfl) fun hne => hne rfl⟩
  | signal id sig =>
    obtain ⟨p, hp, hturn⟩ := Settings.turn h
    have he := hturn.edits (hs.orderly.lt_nextId hp)
    exact ⟨he.spares, hs.edits he (fun hn => hn.closing rfl) fun hb => hb.ne_closing rfl⟩
  | abandon id =>
    obtain ⟨-, -, -, rfl⟩ := Settings.act_abandon_iff.1 h
    exact hs.abandon id
  | drop =>
    obtain rfl := Option.some.inj h
    exact ⟨.close _ s, hs.close⟩

/-- **Whoever acts with a number that is in use** is the process with that number, or its caller no longer waits. -/
theorem signal_or_abandon {a : Act} {k : Nat} (h : c.act s a = some t) (hk : k < s.nextId)
    (hself : a.number s = k) :
    (∃ sig p, a = .signal k sig ∧ s.process? k = some p ∧ Turn c s k p sig t) ∨
      ∃ p, a = .abandon k ∧ s.process? k = some p ∧ p.isTask = false ∧ t = s.finish k := by
  cases a with
  | call | drop => exact absurd hself (Nat.ne_of_gt hk)
  | signal id sig =>
    obtain rfl : id = k := hself
    obtain ⟨p, hp, hturn⟩ := Settings.turn h
    exact .inl ⟨sig, p, rfl, hp, hturn⟩
  | abandon id =>
    obtain rfl : id = k := hself
    obtain ⟨p, hp, hcall, rfl⟩ := Settings.act_abandon_iff.1 h
    exact .inr ⟨p, rfl, hp, hcall, rfl⟩

theorem upright_initial : State.initial.Upright .closing := .initial _

theorem upright_run {turns : List (State × Act)} (h : Run c.act s turns t)
    (hs : s.Upright .closing) : t.Upright .closing :=
  h.invariant (Session.Upright .closing) hs fun _ _ _ hu ha => (upright_act ha hu).2

end Muster.Leased
