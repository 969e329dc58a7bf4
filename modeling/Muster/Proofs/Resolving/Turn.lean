/-
  What a resolver does in one turn: its build, the calls to it, and the task that resolves again.

  (1) `State.queries`, `State.handings` — what can be seen of it, read from its journal;
  (2) `Concluded` — what the end of a resolving changes, and what it leaves as it is;
  (3) `Turn` — the turns, as a table; an answer that brings nothing and a word of the client END a resolving
      alike, whoever resolves.

  THE CRUX (`Turn.ticks`): the ONLY turn in which the task asks is one in which it waits, the resolver is open,
  and a tick is due.  So it does not matter how many ticks are due when the resolver is closed.
-/
import Muster.Proofs.Run
import Muster.Resolver.Step

namespace Muster.Resolver

/-! ## What can be seen -/

namespace Event

/-- A query of discovery: who asked, and for which service. -/
def query? : Event → Option (Caller × String)
  | .queried who service => some (who, service)
  | _ => none

/-- Addresses that were handed to the client: who resolved them, and which they are. -/
def handing? : Event → Option (Caller × List ResolvedAddress)
  | .handed who addresses => some (who, addresses)
  | _ => none

end Event

namespace State

/-- The queries of discovery, the newest first. -/
def queries (s : State) : List (Caller × String) := s.journal.filterMap Event.query?

/-- The queries of a caller. -/
def queriesOf (s : State) (who : Caller) : List (Caller × String) := s.queries.filter (·.1 = who)

/-- What was handed to the client, the newest first. -/
def handings (s : State) : List (Caller × List ResolvedAddress) := s.journal.filterMap Event.handing?

variable (s : State) (e : Event) (who : Caller) (st : Option Stage)

@[simp] theorem queries_see : (s.see e).queries = e.query?.toList ++ s.queries := by
  cases e <;> rfl

@[simp] theorem handings_see : (s.see e).handings = e.handing?.toList ++ s.handings := by
  cases e <;> rfl

/-- Whoever has returned has a result, and the others have what they had. -/
@[simp] theorem result?_returned (f : Option Failure) (k : Caller) :
    (s.see (.returned who f)).result? k = if k = who then some f else s.result? k := by
  by_cases hk : k = who
  · simp [result?, see, hk]
  · simp [result?, see, hk, Ne.symm hk]

@[simp] theorem result?_line (l : Logging.Line) (k : Caller) : (s.see (.line l)).result? k = s.result? k := rfl

@[simp] theorem stage_see (k : Caller) : (s.see e).stage k = s.stage k := rfl
@[simp] theorem held_see : (s.see e).held = s.held := rfl
@[simp] theorem closed_see : (s.see e).closed = s.closed := rfl
@[simp] theorem task_see : (s.see e).task = s.task := rfl

@[simp] theorem queries_setStage : (s.setStage who st).queries = s.queries := rfl
@[simp] theorem handings_setStage : (s.setStage who st).handings = s.handings := rfl
@[simp] theorem result?_setStage (k : Caller) : (s.setStage who st).result? k = s.result? k := rfl
@[simp] theorem stage_setStage (k : Caller) :
    (s.setStage who st).stage k = if k = who then st else s.stage k := rfl
@[simp] theorem held_setStage : (s.setStage who st).held = s.held := rfl
@[simp] theorem closed_setStage : (s.setStage who st).closed = s.closed := rfl
@[simp] theorem task_setStage : (s.setStage who st).task = s.task := rfl

end State

/-! ## The end of a resolving -/

/-- **The client is gone**: this is what it says to addresses then. -/
def Gone (f : Option Failure) : Prop := ∃ name, f = some (.resolverClosed name)

/-- **A resolving is over**: its caller has a result, unless it is the task; a build that succeeds starts the
    task, and a client that is gone ends it. -/
structure Concluded (c : Settings) (who : Caller) (f : Option Failure) (s t : State) : Prop where
  queries : t.queries = s.queries
  handings : t.handings = s.handings
  closed : t.closed = s.closed
  stage : ∀ k, t.stage k = if k = who then none else s.stage k
  result : who ≠ .task → ∀ k, t.result? k = if k = who then some f else s.result? k
  silent : who = .task → ∀ k, t.result? k = s.result? k
  held : t.held = true ↔ s.held = true ∨ (who = .build ∧ f = none)
  /-- A build that succeeds leaves a task EXACTLY if there is an interval. -/
  started : who = .build → f = none → t.task = if c.interval.isSome then .alive else .absent
  ended : who = .task → Gone f → t.task = .over
  kept : ¬ (who = .build ∧ f = none) → ¬ (who = .task ∧ Gone f) → t.task = s.task

section Ends

variable (c : Settings) {who : Caller} {f : Option Failure} {s t : State}

/-- What the task writes down is a line, and it is over EXACTLY if the client is gone. -/
theorem concludeTask_cases (f : Option Failure) (s : State) :
    (c.concludeTask f s = s ∧ f = none) ∨
      (∃ l, c.concludeTask f s = ({ s with task := .over } : State).see (.line l) ∧ Gone f) ∨
      ∃ l, c.concludeTask f s = s.see (.line l) ∧ ¬ Gone f := by
  unfold Settings.concludeTask
  split
  · exact .inl ⟨rfl, rfl⟩
  · exact .inr (.inl ⟨_, rfl, _, rfl⟩)
  · rename_i g hg
    refine .inr (.inr ⟨_, rfl, ?_⟩)
    rintro ⟨name, he⟩
    exact hg name (Option.some.inj he)

/-- **The end of a resolving**, whoever resolved. -/
theorem concluded (who : Caller) (f : Option Failure) (s : State) : Concluded c who f s (c.conclude who f s) := by
  rcases who with _ | n | _
  · rcases f with _ | g
    · refine ⟨rfl, rfl, rfl, fun _ => rfl, fun _ _ => ?_, fun h => (nomatch h), ?_, fun _ _ => rfl,
        fun h => (nomatch h), fun h => absurd ⟨rfl, rfl⟩ h⟩
      · exact State.result?_returned ..
      · exact iff_of_true rfl (.inr ⟨rfl, rfl⟩)
    · constructor <;> simp [Settings.conclude, Event.query?, Event.handing?]
  · constructor <;> simp [Settings.conclude, Event.query?, Event.handing?]
  · have hc : c.conclude .task f s = c.concludeTask f (s.setStage .task none) := rfl
    rcases concludeTask_cases c f (s.setStage .task none) with ⟨ht, hf⟩ | ⟨l, ht, hgone⟩ | ⟨l, ht, hgone⟩
    all_goals rw [hc, ht]
    · constructor <;> simp [hf, Gone]
    · refine ⟨rfl, rfl, rfl, fun _ => rfl, fun h => absurd rfl h, fun _ _ => rfl, ?_, fun h => (nomatch h),
        fun _ _ => rfl, fun _ h => absurd ⟨rfl, hgone⟩ h⟩
      exact iff_of_eq (by simp)
    · constructor <;> simp [hgone, Event.query?, Event.handing?]

end Ends

/-! ## Turns -/

/-- **What an answer of discovery brings**: the addresses of the instances, in their order, if there are any. -/
def Act.handing? : Act → Option (Caller × List ResolvedAddress)
  | .answer who l => if l = [] then none else some (who, l.map fun i => ⟨i.endpoint, i.name⟩)
  | _ => none

namespace Settings

variable (c : Settings)

/-- **Whose resolving an act ends**, and with what result: an answer without instances is a failure, and after
    anything else the client has the last word. -/
def ending? : Act → Option (Caller × Option Failure)
  | .answer who [] => some (who, some (.noAvailableInstance c.target.service))
  | .reply who f => some (who, f)
  | _ => none

/-- **The task has to stop** when it looks: the resolver is closed, or there is no interval to wait for. -/
def Stops (s : State) : Prop := s.closed = true ∨ c.interval = some .zero

/-- Addresses are handed to the client. -/
def handOver (who : Caller) (l : List Instance) (s : State) : State :=
  let addresses := ResolvedAddress.ofInstances l
  ((s.see (.line (resolvedLine c.target.service addresses))).see (.handed who addresses)).setStage who
    (some (.handing addresses))

theorem answered_of_ne {l : List Instance} (hl : l ≠ []) (who : Caller) (s : State) :
    c.answered who l s = c.handOver who l s := by
  rw [answered, state, if_neg fun he => hl (List.isEmpty_iff.1 he)]
  rfl

end Settings

/-- **The task waits** for a tick. -/
structure State.Waits (s : State) : Prop where
  alive : s.task = .alive
  idle : s.stage .task = none

/-- **The turns of a resolver.** -/
inductive Turn (c : Settings) (s : State) : Act → State → Prop
  | hands {who : Caller} {l : List Instance} : s.stage who = some .asking → l ≠ [] →
      Turn c s (.answer who l) (c.handOver who l s)
  | ends {a : Act} {who : Caller} {f : Option Failure} {t : State} : c.ending? a = some (who, f) →
      s.stage who ≠ none → Concluded c who f s t → Turn c s a t
  | calls : s.held = true → Turn c s .call (c.ask (.call s.nextCall) { s with nextCall := s.nextCall + 1 })
  /-- A tick is due, and the resolver is open. -/
  | ticks : s.Waits → ¬ c.Stops s → Turn c s (.wake true) (c.ask .task s)
  | rests : s.Waits → ¬ c.Stops s → Turn c s (.wake false) s
  | stops {due : Bool} : s.Waits → c.Stops s → Turn c s (.wake due) { s with task := .over }
  | abandons {who : Caller} : who ≠ .task → s.stage who ≠ none → Turn c s (.abandon who) (s.setStage who none)
  | closes : s.held = true → Turn c s .close { s with closed := true }
  | drops : s.held = true → Turn c s .drop { s with held := false, closed := true }

section Turns

variable {c : Settings} {s t : State} {a : Act} {who : Caller} {f : Option Failure} {l : List Instance}

/-- A line changes nothing that counts. -/
theorem Concluded.of_line {x : Logging.Line} (h : Concluded c who f (s.see (.line x)) t) : Concluded c who f s t :=
  ⟨h.queries, h.handings, h.closed, h.stage, h.result, h.silent, h.held, h.started, h.ended, h.kept⟩

/-- Only the end of the build gives it a result. -/
theorem Concluded.result_of_ne (h : Concluded c who f s t) (hbuild : who ≠ .build) :
    t.result? .build = s.result? .build := by
  by_cases htask : who = .task
  · exact h.silent htask .build
  · exact (h.result htask .build).trans (if_neg (Ne.symm hbuild))

/-- **Every act is in the table.** -/
theorem turn (h : c.act s a = some t) : Turn c s a t := by
  rcases a with ⟨who, l⟩ | ⟨who, f⟩ | _ | who | due | _ | _
  case answer =>
    obtain ⟨hstage, rfl⟩ := Option.ite_some_none_eq_some.1 h
    by_cases hl : l = []
    · subst hl
      exact .ends rfl (by simp [hstage]) (concluded c who _ _).of_line
    · rw [c.answered_of_ne hl]
      exact .hands hstage hl
  case reply =>
    rcases hstage : s.stage who with _ | _ | addresses
    · simp [Settings.act, hstage] at h
    · simp [Settings.act, hstage] at h
    · obtain rfl : c.conclude who f s = t := by simpa [Settings.act, hstage] using h
      exact .ends rfl (by simp [hstage]) (concluded c who f s)
  case call =>
    obtain ⟨hheld, rfl⟩ := Option.ite_some_none_eq_some.1 h
    exact .calls hheld
  case abandon =>
    obtain ⟨⟨hwho, hstage⟩, rfl⟩ := Option.ite_some_none_eq_some.1 h
    exact .abandons hwho fun he => by simp [he] at hstage
  case wake =>
    obtain ⟨⟨halive, hidle⟩, rfl⟩ := Option.ite_some_none_eq_some.1 h
    by_cases hstops : c.interval = some .zero ∨ s.closed = true
    · rw [Settings.wake, if_pos hstops]
      exact .stops ⟨halive, hidle⟩ hstops.symm
    · have hgoes : ¬ c.Stops s := fun h => hstops h.symm
      rw [Settings.wake, if_neg hstops]
      rcases due with _ | _
      · exact .rests ⟨halive, hidle⟩ hgoes
      · exact .ticks ⟨halive, hidle⟩ hgoes
  case close =>
    obtain ⟨hheld, rfl⟩ := Option.ite_some_none_eq_some.1 h
    exact .closes hheld
  case drop =>
    obtain ⟨hheld, rfl⟩ := Option.ite_some_none_eq_some.1 h
    exact .drops hheld

end Turns

end Muster.Resolver
