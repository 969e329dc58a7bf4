/-
  Does a backend count as degraded without a registration to restore?

  Two things degrade a backend, the loss of its key and the end of its renewals, and both find a
  registration in place.  The flag falls when a registration comes to its end, and when restoring is
  skipped.  It does NOT fall when the process deregisters; and restoring, once it finds that the process
  has deregistered, is abandoned without a word about the flag.

  (1) `abides_act` — any other act keeps the registration, and degrades only what is registered;
  (2) `stranded_act` — hence a backend is STRANDED, degraded without a registration, after an act that
      deregisters it while it is degraded, and stays so until it recovers;
  (3) `degraded_registered_iff` — along every run, a degraded backend is registered EXACTLY unless it has
      deregistered while degraded and has not recovered since.
-/
import Muster.Proofs.Leased.Edits
import Muster.Proofs.Leased.OwnKey

namespace Muster.Leased

/-- **Degraded without a registration.** -/
def State.Stranded (s : State) : Prop := s.flags.degraded = true ∧ s.flags.registered = false

/-- A degraded backend deregisters. -/
def State.Resigns (s : State) (a : Act) : Prop := a = .call .deregister ∧ s.flags.degraded = true

/-- **A backend recovers**: a registration comes to its end, or restoring is skipped. -/
def Settings.Recovers (c : Settings) (s : State) (a : Act) : Prop := s.Enrols a ∨ c.Skips s a

section Acts

variable {c : Settings} {s t : State} {a : Act} {id : Nat}

/-- **The flags after an act that neither recovers nor deregisters**: the registration is as it was, and
    only what is registered becomes degraded. -/
structure Abides (s t : State) : Prop where
  registered : t.flags.registered = s.flags.registered
  degraded : t.flags.degraded = s.flags.degraded ∨ s.flags.registered = true

theorem Abides.of_flags (h : t.flags = s.flags) : Abides s t := ⟨by rw [h], .inl (by rw [h])⟩

theorem Abides.of_idle (h : Idle s t) : Abides s t :=
  ⟨congrArg Standing.registered h.standing, .inl (congrArg Standing.degraded h.standing)⟩

/-- A loss degrades what is registered. -/
theorem Abides.of_outside (h : Outside c s t) : Abides s t := by
  obtain ⟨b, hb, g⟩ := h
  have hreg := congrArg Standing.registered g.standing
  have hdeg := congrArg Standing.degraded g.standing
  simp only [State.standing, c.lose_books] at hreg hdeg
  refine ⟨hreg, ?_⟩
  cases b with
  | true => exact .inr (hb rfl)
  | false => exact .inl hdeg

/-- **A turn of the crew**, as far as the flags go. -/
theorem Turn.abides {p : Process} {sig : Signal Reply Item} (h : Turn c s id p sig t)
    (hid : s.process? id = some p) (hp : p.isCrew = true)
    (hno : ¬ c.Recovers s (.signal id sig)) : Abides s t := by
  cases h with
  | enrols lease stream hr hg | restores lease stream l hr hg =>
    obtain ⟨rfl, rfl⟩ := Settings.progress_opened hg
    obtain rfl := reply_of_result? hr
    exact absurd (.inl (by simp [State.Enrols, hid, Process.isOpening, Process.stage?])) hno
  | skips l hforced hhas => exact absurd (.inr ⟨hid, hforced, hhas⟩) hno
  | renewalLost ls l _ hreg => exact ⟨by simp, .inr hreg⟩
  | asks | refused | renews | renewalEnds | renewalStops | wakes | retries | yields | restoreStops
  | restoreAsks | backsOff | givesUp => exact .of_flags (by simp)
  | _ => cases hp

theorem abides_act (h : c.act s a = some t) (hn : s.Numbered) (hno : ¬ c.Recovers s a)
    (hd : a ≠ .call .deregister) : Abides s t := by
  cases Settings.deed h hn with
  | idle g => exact .of_idle g
  | begins => exact .of_flags (by simp)
  | deregisters => exact absurd rfl hd
  | outside g => exact .of_outside g
  | crew hp hc ht => exact ht.abides hp hc hno
  | leaves => exact .of_flags rfl

/-- Whoever recovers does not call. -/
theorem ne_call_of_recovers (h : c.Recovers s a) (k : Call) : a ≠ .call k := by
  rintro rfl
  rcases h with h | h <;> exact h

/-- **Whoever recovers is not degraded**: skipping lowers the flag, whether or not the process is still
    registered. -/
theorem not_degraded_of_recovers (h : c.act s a = some t) (hr : c.Recovers s a) :
    t.flags.degraded = false := by
  rcases hr with henr | hskip
  · exact (fine_of_enrols h henr).degraded
  · unfold Settings.Skips at hskip
    split at hskip
    · rename_i id
      obtain ⟨hid, hforced, hhas⟩ := hskip
      obtain rfl := Option.some.inj ((c.act_of_delaying hid).symm.trans h)
      simp [Settings.afterDelay, hforced, hhas]
    · exact hskip.elim

/-- **A backend is stranded after an act EXACTLY if the act deregisters it while it is degraded**, or it
    was stranded and has not recovered. -/
theorem stranded_act (h : c.act s a = some t) (hn : s.Numbered) :
    t.Stranded ↔ s.Resigns a ∨ (s.Stranded ∧ ¬ c.Recovers s a) := by
  by_cases hr : c.Recovers s a
  · have hdeg := not_degraded_of_recovers h hr
    have hcall := ne_call_of_recovers hr .deregister
    simp [State.Stranded, State.Resigns, hdeg, hcall, hr]
  by_cases hd : a = .call .deregister
  · subst hd
    obtain rfl := Option.some.inj h
    have hdereg : State.Stranded (c.call s .deregister) ↔ s.flags.degraded = true := by
      simp [State.Stranded, Settings.call]
    rw [hdereg]
    exact ⟨fun hdeg => .inl ⟨rfl, hdeg⟩, fun hor => hor.elim (·.2) (·.1.1)⟩
  · obtain ⟨hreg, hdeg⟩ := abides_act h hn hr hd
    simp only [State.Stranded, State.Resigns, hd, false_and, false_or, hr, not_false_eq_true,
      and_true, hreg]
    refine and_congr_left fun hoff => ?_
    rw [hdeg.resolve_right (by simp [hoff])]

end Acts

/-! ## Runs -/

/-- A backend shows as degraded only while it is registered EXACTLY unless it is stranded. -/
theorem not_stranded_iff {s : State} :
    ¬ s.Stranded ↔ (s.flags.state = .degraded → s.flags.registered = true) := by
  rw [State.Stranded, Flags.state_eq_degraded_iff, not_and, Bool.not_eq_false]

/-- **Along every run, a degraded backend is registered EXACTLY unless it has deregistered while
    degraded**, and has not recovered since; and it is so throughout EXACTLY when it never does. -/
theorem degraded_registered_iff {c : Settings} {s : State} {turns : List (State × Act)}
    (reached : Run c.act .initial turns s) :
    ((s.flags.state = .degraded → s.flags.registered = true) ↔
        ¬ Run.Since State.Resigns c.Recovers turns) ∧
      (Run.Throughout (fun u => u.flags.state = .degraded → u.flags.registered = true) turns s ↔
        ∀ q ∈ turns, ¬ q.1.Resigns q.2) := by
  have hnumbered := numbered_throughout reached numbered_initial
  have hstart : ¬ State.initial.Stranded := fun h => nomatch h.1
  simp only [← not_stranded_iff]
  refine ⟨not_congr ?_, fun hnever q hq hres => ?_, fun hnever => ?_⟩
  · exact reached.since_iff State.Stranded hstart fun q hq v hv => stranded_act hv (hnumbered.1 q hq)
  · -- right after it has deregistered it is stranded
    obtain ⟨-, -, v, -, -, hv, -⟩ := reached.split hq
    exact hnever.after reached hq hv ((stranded_act hv (hnumbered.1 q hq)).2 (.inl hres))
  · refine reached.throughout _ hstart fun q hq v hu hv hstr => ?_
    rcases (stranded_act hv (hnumbered.1 q hq)).1 hstr with hres | ⟨hu', -⟩
    · exact hnever q hq hres
    · exact hu hu'

/-- A backend registers, and its renewals end: it is degraded, and registered. -/
theorem degraded_registered_lost :
    ∃ turns s, Run Settings.sample.act .initial turns s ∧ s.flags.state = .degraded ∧
      s.flags.registered = true ∧
      Run.Throughout (fun u => u.flags.state = .degraded → u.flags.registered = true) turns s := by
  have hacts : (registerActs ++ [Act.signal 1 (.item none)]).foldlM Settings.sample.act .initial =
      some _ := rfl
  obtain ⟨turns, hr, ha⟩ := Run.of_foldlM hacts
  refine ⟨turns, _, hr, rfl, rfl, (degraded_registered_iff hr).2.2 fun q hq hres => ?_⟩
  have hmem : q.2 ∈ turns.map Prod.snd := List.mem_map_of_mem hq
  rw [ha, hres.1] at hmem
  -- nobody deregisters
  simp [registerActs] at hmem

/-- **A degraded backend that is NOT registered**: the process deregisters while its registration is to be
    restored.  The call has succeeded, the restoring has been abandoned, no process is left, and the
    backend is degraded for good. -/
theorem degraded_deregistered :
    ∃ turns s, Run Settings.sample.act .initial turns s ∧
      turns.map Prod.snd = registerActs ++ [.signal 1 (.item none), .call .deregister,
        .signal 3 (.reply (.ok .done)), .signal 2 .elapsed] ∧
      (3, .status (.ok ())) ∈ s.returns ∧ s.processes = [] ∧
      ¬ (s.flags.state = .degraded → s.flags.registered = true) := by
  have hacts : (registerActs ++ [Act.signal 1 (.item none), .call .deregister,
      .signal 3 (.reply (.ok .done)), .signal 2 .elapsed]).foldlM Settings.sample.act .initial =
      some _ := rfl
  obtain ⟨turns, hr, ha⟩ := Run.of_foldlM hacts
  refine ⟨turns, _, hr, ha, List.mem_cons_self .., rfl, fun hreg => ?_⟩
  cases hreg rfl

end Muster.Leased
