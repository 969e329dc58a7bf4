/-
  A lease backend on a clock.

  Calls to register, to deregister and to query, and the task that restores, wait with a limit; all others wait
  for as long as it takes.

  (1) `Settings.clockwork`, `Settings.tick` — the machine on a clock;
  (2) `heardAt`, `Settings.sentAt` — what one process is told and sends along a run, each with the time;
  (3) `Settings.unstuck` — the clock never stops: time can pass, or a wait is over and its process can be told.
-/
import Muster.Proofs.Leased.Sending
import Muster.Proofs.Timed

namespace Muster.Leased

/-- The process that is told that its wait has lasted to the limit. -/
def Act.alarm? : Act → Option Nat
  | .signal id .timeout | .signal id .elapsed => some id
  | _ => none

/-- **The clockwork of a lease backend.** -/
def Settings.clockwork (c : Settings) : Clockwork Ledger Process Request Act where
  act := c.act
  wait := Process.wait c
  number s a := a.number s
  alarm? := Act.alarm?
  upright := Session.Upright .closing
  spares _ _ _ h hs := upright_act h hs

/-- **The machine on a clock.** -/
abbrev Settings.tick (c : Settings) : Timed State → Tick Act → Option (Timed State) :=
  c.clockwork.tick

/-! ## What happens to one process -/

/-- What happens in the turns of a run, with the time of each. -/
def stamped {β : Type} (f : List (State × Act) → List β) (turns : List (Timed State × Tick Act)) :
    List (Nat × β) :=
  turns.flatMap fun p => (f (Tick.turn? p).toList).map (Prod.mk p.1.now)

/-- **What a process is told along a run**, with the time. -/
def heardAt (k : Nat) : List (Timed State × Tick Act) → List (Nat × Signal Reply Item) :=
  stamped (told k)

/-- **What a process sends along a run**, with the time. -/
def Settings.sentAt (c : Settings) (k : Nat) :
    List (Timed State × Tick Act) → List (Nat × Request) :=
  stamped (c.sentBy k)

section Moments

variable {c : Settings} {k : Nat} {u : Timed State} {t : State} {a : Act}
  {sig : Signal Reply Item} {more : List Request}

theorem stamped_concat {β : Type} (f : List (State × Act) → List β)
    (turns : List (Timed State × Tick Act)) (p : Timed State × Tick Act) :
    stamped f (turns ++ [p]) = stamped f turns ++ (f (Tick.turn? p).toList).map (Prod.mk p.1.now) := by
  rw [stamped, List.flatMap_append, List.flatMap_singleton]
  rfl

/-- Nothing happens while time passes. -/
theorem moments_pass (c : Settings) (k : Nat) (turns : List (Timed State × Tick Act))
    (u : Timed State) (time : Nat) :
    heardAt k (turns ++ [(u, .pass time)]) = heardAt k turns ∧
      c.sentAt k (turns ++ [(u, .pass time)]) = c.sentAt k turns := by
  rw [heardAt, Settings.sentAt, stamped_concat, stamped_concat]
  exact ⟨List.append_nil _, List.append_nil _⟩

/-- Nothing happens to a process while another one acts. -/
theorem moments_of_ne (turns : List (Timed State × Tick Act)) (h : c.act u.session a = some t)
    (hu : u.session.Upright .closing) (hne : a.number u.session ≠ k) :
    heardAt k (turns ++ [(u, .act a)]) = heardAt k turns ∧
      c.sentAt k (turns ++ [(u, .act a)]) = c.sentAt k turns := by
  have htold : told k [(u.session, a)] = [] := by
    show told k ([] ++ [(u.session, a)]) = []
    rw [told_concat, told?_of_ne hne]
    rfl
  have hsent : c.sentBy k [(u.session, a)] = [] := sentBy_concat_of_ne [] h hu hne
  rw [heardAt, Settings.sentAt, stamped_concat, stamped_concat]
  simp only [Tick.turn?, Option.toList_some, htold, hsent, List.map_nil, List.append_nil, and_self]

/-- A turn of its own is what it is told, and what it sends. -/
theorem moments_self (turns : List (Timed State × Tick Act))
    (h : c.act u.session (.signal k sig) = some t)
    (ht : t.requests = (more.map (Prod.mk k)).reverse ++ u.session.requests) :
    heardAt k (turns ++ [(u, .act (.signal k sig))]) = heardAt k turns ++ [(u.now, sig)] ∧
      c.sentAt k (turns ++ [(u, .act (.signal k sig))]) =
        c.sentAt k turns ++ more.map (Prod.mk u.now) := by
  have htold : told k [(u.session, .signal k sig)] = [sig] := by
    show told k ([] ++ [(u.session, .signal k sig)]) = [sig]
    rw [told_concat, Act.told?, if_pos rfl]
    rfl
  have hsent : c.sentBy k [(u.session, .signal k sig)] = more :=
    sentBy_concat_self [] h ht
  rw [heardAt, Settings.sentAt, stamped_concat, stamped_concat]
  simp only [Tick.turn?, Option.toList_some, htold, hsent, List.map_cons, List.map_nil, and_self]

end Moments

/-! ## The clock never stops -/

section Unstuck

variable {c : Settings} {s : State} {k : Nat} {p : Process}

/-- **Whoever waits with a limit can be told that it has passed.** -/
theorem isSome_act_of_limit {d : Duration} (hk : s.process? k = some p)
    (hd : (p.wait c).limit? = some d) :
    ∃ sig, (Act.signal k sig).alarm? = some k ∧ (c.act s (.signal k sig)).isSome = true := by
  have hact := c.act_of_process? hk
  cases p with
  | starting | closing | renewal => cases hd
  | watch w => cases w <;> cases hd
  | registering stage =>
    refine ⟨.timeout, rfl, ?_⟩
    rw [hact]
    cases stage <;> rfl
  | revoking | querying => exact ⟨.timeout, rfl, by rw [hact]; rfl⟩
  | restore r =>
    cases r with
    | delaying | backingOff => exact ⟨.elapsed, rfl, by rw [hact]; rfl⟩
    | attempting n stage =>
      refine ⟨.timeout, rfl, ?_⟩
      rw [hact]
      cases stage <;> rfl

/-- **The clock never stops**: time can pass, or the wait of some process is over and it can be told. -/
theorem Settings.unstuck (c : Settings) (u : Timed State) :
    (∃ time, 0 < time ∧ (c.tick u (.pass time)).isSome = true) ∨
      ∃ k sig, (Act.signal k sig).alarm? = some k ∧
        (c.tick u (.act (.signal k sig))).isSome = true := by
  refine (c.clockwork.pass_or_due u).imp_right ?_
  rintro ⟨k, e, he, hcome⟩
  obtain ⟨p, d, hp, hd, -⟩ := Clockwork.limit_of_due? he
  obtain ⟨sig, halarm, hact⟩ := isSome_act_of_limit hp hd
  exact ⟨k, sig, halarm, Clockwork.isSome_tick_of_due halarm he hcome hact⟩

end Unstuck

end Muster.Leased
