/-
  What a process of a probing backend can do to the others.

  Every turn and every call is a sequence of edits.  A turn starts nothing but the watch of a service, and
  that only in a backend that is open; and nobody but a shutdown becomes a shutdown.

  (1) `Turn.edits`, `Settings.edits_call` — the edits of a turn and of a call;
  (2) `upright_act` — hence an act touches the process with ITS number only, keeps numbers in order, and
      closes the backend before it shuts it down;
  (3) `signal_or_abandon` — and whoever acts with the number of a process is that process, or its caller.
-/
import Muster.Proofs.Edits
import Muster.Proofs.Probed.Turn

namespace Muster.Probed

open Session (Edits Spares)

/-! ## The parts of a turn -/

section Parts

variable {c : Settings} {s t : State} {id : Nat} {next born : Process → Prop}

theorem edits_merge (h : Edits id next born s t) (service : String) (l : List Report) :
    Edits id next born s (merge service l t) := by
  unfold merge
  split
  · exact h.note _
  · refine Edits.note _ (Edits.write _ _ _ ?_)
    split
    · exact h
    · exact h.note _

theorem edits_apply (h : Edits id next born s t) (service : String) (l : List Report) :
    Edits id next born s (apply service l t) := by
  have hall {u : State} (hu : Edits id next born s u) (l : List Report) :
      Edits id next born s (l.foldl (applyReport service) u) := by
    induction l generalizing u with
    | nil => exact hu
    | cons r l ih =>
      refine ih ?_
      unfold applyReport
      split
      · exact hu.insertNoted _ _ _
      · exact hu.eraseNoted _ _ _
  have hreports := hall (h.write t.flags (t.registry.create service) t.own) l
  exact (hreports.write _ _ _).notes _

theorem edits_ensureWatch (h : Edits id next born s t) (service : String)
    (hb : s.closed = false → born (.watch service .fresh)) :
    Edits id next born s (ensureWatch service t) := by
  unfold ensureWatch
  split
  · exact h
  · rename_i hopen
    have hclosed : t.closed = false := by
      simp only [Bool.or_eq_true, not_or, Bool.not_eq_true] at hopen
      exact hopen.1
    exact (h.write t.flags t.registry _).spawn (hb (h.closed_eq ▸ hclosed))

theorem edits_endWatch (h : Edits id next born s t) (service : String) :
    Edits id next born s (endWatch t id service) := by
  have hf := h.finish.write t.flags t.registry ⟨t.own.services.filter (· != service)⟩
  unfold endWatch
  dsimp only
  split
  · exact hf.setWatching false
  · exact hf

theorem edits_heard (h : Edits id next born s t) (ls : List Logging.Line) :
    Edits id next born s (t.heard ls) :=
  ((h.notes ls).setWatching true).setDegraded false

end Parts

/-! ## Turns and calls -/

variable {c : Settings} {s t : State}

/-- **What a turn can start**: a watch, in a backend that is open. -/
def State.Bears (s : State) (q : Process) : Prop :=
  s.closed = false ∧ ∃ service, q = .watch service .fresh

theorem State.Bears.ne_closing {q : Process} (h : s.Bears q) : q ≠ .closing := by
  obtain ⟨-, service, rfl⟩ := h
  exact fun he => nomatch he

/-- **The edits of a turn.** -/
theorem Turn.edits {id : Nat} {p : Process} {sig : Signal Reply Item} (h : Turn c s id p sig t)
    (hid : id < s.nextId) : Edits id (· ≠ .closing) s.Bears s t := by
  have hs : Edits id (· ≠ .closing) s.Bears s s := .refl
  cases h with
  | registers l => exact ((hs.setRegistered true).note l).answer _ hid
  | registerFails _ _ l | findFails _ l => exact (hs.note l).answer _ hid
  | deregisters l => exact ((hs.setRegistered false).note l).answer _ hid
  | deregisterFails => exact hs.answer _ hid
  | finds l o =>
    exact (edits_ensureWatch (edits_merge hs _ l) _ fun hopen => ⟨hopen, _, rfl⟩).answer o hid
  | closes l => exact ((hs.setWatching false).note l).answer _ hid
  | begins l => exact (hs.note l).ask _ (by simp)
  | repeats l ls => exact (edits_heard hs ls).ask _ (by simp)
  | changes new l ls => exact (edits_apply (edits_heard hs ls) _ l).ask _ (by simp)
  | sights new l ls => exact (edits_heard hs ls).ask _ (by simp)
  | backsOff f l => exact (hs.note l).become (by simp)
  | givesUp f l => exact edits_endWatch ((hs.note l).setDegraded true) _
  | stops ls => exact edits_endWatch (hs.notes ls) _
  | loads loaded => exact (edits_apply (edits_merge hs _ loaded) _ _).ask _ (by simp)
  | loadFails f line => exact (edits_apply (hs.note line) _ _).ask _ (by simp)
  | retries => exact hs.ask _ (by simp)

/-- **The edits of a call**, by the number that it takes.  A shutdown closes the backend first. -/
theorem Settings.edits_call (c : Settings) (s : State) {k : Call} (hk : k ≠ .shutdown) :
    Edits s.nextId (· ≠ .closing) (· ≠ .closing) s (c.call s k) := by
  have hs : Edits s.nextId (· ≠ .closing) (· ≠ .closing) s s := .refl
  cases k with
  | register | deregister => exact hs.begin _ (by simp) (by simp)
  | instances service =>
    unfold call
    dsimp only
    split
    · exact edits_ensureWatch (hs.instant _) service fun _ => by simp
    · exact hs.begin _ (by simp) (by simp)
  | shutdown => exact absurd rfl hk

/-! ## Acts -/

/-- **The number of the process that acts**; a call takes the next one. -/
def Act.number (s : State) : Act → Nat
  | .signal id _ | .abandon id => id
  | .call _ | .drop => s.nextId

/-- **An act touches the process with its number only**, and the books stay upright. -/
theorem upright_act {a : Act} (h : c.act s a = some t) (hs : s.Upright .closing) :
    Spares (a.number s) s t ∧ t.Upright .closing := by
  cases a with
  | call k =>
    obtain rfl := Option.some.inj h
    by_cases hk : k = .shutdown
    · subst hk
      exact hs.shutdown
    · have he := c.edits_call s hk
      exact ⟨he.spares, hs.edits he (fun hne => hne rfl) fun hne => hne rfl⟩
  | signal id sig =>
    obtain ⟨p, hp, hturn⟩ := Settings.turn h
    have he := hturn.edits (hs.orderly.lt_nextId hp)
    exact ⟨he.spares, hs.edits he (fun hne => hne rfl) fun hb => hb.ne_closing rfl⟩
  | abandon id =>
    obtain ⟨-, -, -, rfl⟩ := Settings.act_abandon_iff.1 h
    exact hs.abandon id
  | drop =>
    obtain rfl := Option.some.inj h
    exact ⟨.close _ s, hs.close⟩

/-- **Whoever acts with a number that is in use** is the process with that number, or its caller no longer waits. -/
theorem signal_or_abandon {a : Act} {k : Nat} (h : c.act s a = some t) (hk : k < s.nextId)
    (hself : a.number s = k) :
    (∃ sig p, a = .signal k sig ∧ s.process? k = some p ∧ Turn c s k p sig t) ∨
      ∃ p, a = .abandon k ∧ s.process? k = some p ∧ p.isTask = false ∧ t = s.finish k := by
  cases a with
  | call | drop => exact absurd hself (Nat.ne_of_gt hk)
  | signal id sig =>
    obtain rfl : id = k := hself
    obtain ⟨p, hp, hturn⟩ := Settings.turn h
    exact .inl ⟨sig, p, rfl, hp, hturn⟩
  | abandon id =>
    obtain rfl : id = k := hself
    obtain ⟨p, hp, hcall, rfl⟩ := Settings.act_abandon_iff.1 h
    exact .inr ⟨p, rfl, hp, hcall, rfl⟩

theorem upright_initial : State.initial.Upright .closing := .initial _

theorem upright_run {turns : List (State × Act)} (h : Run c.act s turns t)
    (hs : s.Upright .closing) : t.Upright .closing :=
  h.invariant (Session.Upright .closing) hs fun _ _ _ hu ha => (upright_act ha hu).2

end Muster.Probed
