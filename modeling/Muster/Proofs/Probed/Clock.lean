/-
  A probing backend on a clock.

  Calls, and the first load of a service that a watch has seen, wait for the store with a limit; a watch pauses
  after a failure, and waits for its queries for as long as it takes.

  (1) `Settings.clockwork`, `Settings.tick` — the machine on a clock;
  (2) `Settings.unstuck` — the clock never stops;
  (3) `punctual_run` — along every run nobody is kept waiting for longer than the limit.
-/
import Muster.Proofs.Probed.Edits
import Muster.Proofs.Timed

namespace Muster.Probed

/-- The process that is told that its wait has lasted to the limit. -/
def Act.alarm? : Act → Option Nat
  | .signal id .timeout | .signal id .elapsed => some id
  | _ => none

/-- **The clockwork of a probing backend.** -/
def Settings.clockwork (c : Settings) : Clockwork Watched Process Request Act where
  act := c.act
  wait := Process.wait c
  number s a := a.number s
  alarm? := Act.alarm?
  upright := Session.Upright .closing
  spares _ _ _ h hs := upright_act h hs

/-- **The machine on a clock.** -/
abbrev Settings.tick (c : Settings) : Timed State → Tick Act → Option (Timed State) :=
  c.clockwork.tick

section Clocks

variable {c : Settings} {s : State} {k : Nat} {p : Process}

/-- **Whoever waits with a limit can be told that it has passed.** -/
theorem isSome_act_of_limit {d : Duration} (hk : s.process? k = some p)
    (hd : (p.wait c).limit? = some d) :
    ∃ sig, (Act.signal k sig).alarm? = some k ∧ (c.act s (.signal k sig)).isSome = true := by
  have hact := c.act_of_process? hk
  cases p with
  | closing => cases hd
  | registering | deregistering | querying => exact ⟨.timeout, rfl, by rw [hact]; rfl⟩
  | watch service w =>
    cases w with
    | fresh | querying => cases hd
    | loading => exact ⟨.timeout, rfl, by rw [hact]; rfl⟩
    | backingOff => exact ⟨.elapsed, rfl, by rw [hact]; rfl⟩

/-- **The clock never stops**: time can pass, or the wait of some process is over and it can be told. -/
theorem Settings.unstuck (c : Settings) (u : Timed State) :
    (∃ time, 0 < time ∧ (c.tick u (.pass time)).isSome = true) ∨
      ∃ k sig, (Act.signal k sig).alarm? = some k ∧
        (c.tick u (.act (.signal k sig))).isSome = true := by
  refine (c.clockwork.pass_or_due u).imp_right ?_
  rintro ⟨k, e, he, hcome⟩
  obtain ⟨p, d, hp, hd, -⟩ := Clockwork.limit_of_due? he
  obtain ⟨sig, halarm, hact⟩ := isSome_act_of_limit hp hd
  exact ⟨k, sig, halarm, Clockwork.isSome_tick_of_due halarm he hcome hact⟩

/-- Along every run nobody is kept waiting for longer than the limit. -/
theorem punctual_run {u : Timed State} {turns : List (Timed State × Tick Act)}
    (reached : Run c.tick (.start .initial) turns u) : c.clockwork.Punctual u := by
  refine reached.invariant c.clockwork.Punctual ?_ fun p _ v hu hb => hu.tick hb
  exact ⟨upright_initial, fun _ => Nat.le_refl 0, fun _ _ he => nomatch he⟩

end Clocks

end Muster.Probed
