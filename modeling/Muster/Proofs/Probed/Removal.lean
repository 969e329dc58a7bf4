/-
  A deregistration from a registry that probes can always be made up for.

  Its request names the registration by the identifier that the process computes from its settings, so
  nothing has to be remembered for it; and the flag of a registered backend falls only after the registry
  has accepted it.

  (1) `Registered` — a registration, and all that has happened since;
  (2) `removes_of_success` — a deregistration succeeds only if the registry has accepted it;
  (3) `Registered.retried` — so whatever has happened, a deregistration asks for the removal, and succeeds
      only if a removal has.
-/
import Muster.Proofs.Probed.Edits

namespace Muster.Probed

/-! ## Registrations and their ends -/

/-- A registration is accepted. -/
def State.Enrols (s : State) : Act → Prop
  | .signal id (.reply (.ok .done)) => s.process? id = some .registering
  | _ => False

/-- **A removal succeeds**: the registry has taken the registration back. -/
def State.Removes (s : State) : Act → Prop
  | .signal id (.reply (.ok .done)) => s.process? id = some .deregistering
  | _ => False

/-- **A registration that succeeded**, and what has happened since. -/
structure Registered (c : Settings) where
  front : List (State × Act)
  before : State
  reached : Run c.act .initial front before
  act : Act
  enrols : before.Enrols act
  after : State
  step : c.act before act = some after
  since : List (State × Act)
  now : State
  run : Run c.act after since now

/-- **Its removal is asked for until it succeeds**: a deregistration asks for it under the identifier that
    was registered, and one that succeeds had one that did. -/
def Registered.Retried {c : Settings} (x : Registered c) : Prop :=
  (c.call x.now .deregister).requests =
    (x.now.nextId, .deregister c.registration.id) :: x.now.requests ∧
  ∀ turns t, Run c.act (c.call x.now .deregister) turns t →
    (x.now.nextId, .status (.ok ())) ∈ t.returns → ∃ p ∈ turns, p.1.Removes p.2

/-! ## Deregistrations that succeed -/

variable {c : Settings} {s t : State}

/-- **A deregistration that waits succeeds only if it is accepted.** -/
theorem unanswered_act {a : Act} {k : Nat} (h : c.act s a = some t) (hs : s.Upright .closing)
    (hk : s.Unanswered k .deregistering) (ha : ¬ s.Removes a) : t.Unanswered k .deregistering := by
  by_cases he : a.number s = k
  · rcases signal_or_abandon h hk.number he with ⟨sig, p, rfl, hp, hturn⟩ | ⟨-, rfl, -, -, rfl⟩
    · obtain rfl := hk.process p hp
      cases hturn with
      | deregisters => exact absurd hp ha
      | deregisterFails f => exact hk.fail f
    · exact hk.abandon
  · exact hk.spares (upright_act h hs).1 (Ne.symm he)

/-- A deregistration succeeds only if the registry has accepted it. -/
theorem removes_of_success {turns : List (State × Act)}
    (h : Run c.act (c.call s .deregister) turns t) (hs : s.Upright .closing)
    (hok : (s.nextId, .status (.ok ())) ∈ t.returns) : ∃ p ∈ turns, p.1.Removes p.2 := by
  by_contra hno
  have hno : ∀ p ∈ turns, ¬ p.1.Removes p.2 := fun p hp he => hno ⟨p, hp, he⟩
  have hcall : c.act s (.call .deregister) = some (c.call s .deregister) := rfl
  have hinv := h.invariant (fun u => u.Upright .closing ∧ u.Unanswered s.nextId .deregistering)
    ⟨(upright_act hcall hs).2, .begin hs.orderly _⟩ fun p hp v hu ha =>
      ⟨(upright_act ha hu.1).2, unanswered_act ha hu.1 hu.2 (hno p hp)⟩
  exact hinv.2.unsaid hok

/-- **Its removal is asked for until it succeeds**, whatever has happened. -/
theorem Registered.retried (x : Registered c) : x.Retried := by
  have hs := upright_run x.run (upright_act x.step (upright_run x.reached upright_initial)).2
  exact ⟨rfl, fun turns t hrun hok => removes_of_success hrun hs hok⟩

/-- A backend whose registration is accepted, whatever it is asked for afterwards. -/
theorem exists_registered {acts : List Act} {now : State}
    (h : (.call .register :: .signal 0 (.reply (.ok .done)) :: acts).foldlM Settings.sample.act
      .initial = some now) :
    ∃ x : Registered .sample, x.since.map Prod.snd = acts := by
  obtain ⟨before, hbefore, h⟩ := Option.bind_eq_some_iff.1 ((List.foldlM_cons ..).symm.trans h)
  obtain ⟨after, hafter, h⟩ := Option.bind_eq_some_iff.1 ((List.foldlM_cons ..).symm.trans h)
  obtain ⟨since, hrun, hsince⟩ := Run.of_foldlM h
  have henrols : before.Enrols (.signal 0 (.reply (.ok .done))) := by
    obtain rfl := Option.some.inj hbefore
    rfl
  exact ⟨⟨_, before, .single hbefore, _, henrols, after, hafter, since, now, hrun⟩, hsince⟩

end Muster.Probed
