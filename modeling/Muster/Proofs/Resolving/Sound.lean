/-
  What is true of a resolver at any time.

  (1) `Sound` — the invariant: until the build has succeeded only the build resolves, and there is no task;
  (2) `Sound.turn` — every turn keeps it.  All turns but three CALM a resolver: nobody begins to resolve;
  (3) `Sound.not_turn` — a resolver that could not be built does nothing;
  (4) `Turn.result_iff`, `Turn.over_iff`, `Turn.quiet` — how a build ends, when the task does, and when it asks.
-/
import Muster.Proofs.Resolving.Turn

namespace Muster.Resolver

/-! ## The invariant -/

/-- **Nobody but the build resolves**, or has resolved, and there is no task. -/
structure State.Unbuilt (s : State) : Prop where
  held : s.held = false
  closed : s.closed = false
  task : s.task = .absent
  stage : ∀ who, s.stage who ≠ none → who = .build
  queries : ∀ q ∈ s.queries, q.1 = .build

/-- **What is true of a resolver at any time.** -/
structure Sound (c : Settings) (s : State) : Prop where
  /-- Discovery is only ever asked for the service of the target. -/
  service : ∀ q ∈ s.queries, q.2 = c.target.service
  /-- Whoever resolves has asked. -/
  asked : ∀ who, s.stage who ≠ none → (who, c.target.service) ∈ s.queries
  unbuilt : s.result? .build ≠ some none → s.Unbuilt
  /-- The build has no result before it is over. -/
  pending : s.stage .build ≠ none → s.result? .build = none
  task : s.result? .build = some none → (s.task = .absent ↔ c.interval = none)
  working : s.stage .task ≠ none → s.task = .alive

section Invariant

variable {c : Settings} {s t : State} {a : Act} {who : Caller} {f : Option Failure} {l : List Instance}

/-- Whoever resolves after the build resolves for a resolver that has been built. -/
theorem Sound.built_of_stage (hs : Sound c s) (hwho : who ≠ .build) (h : s.stage who ≠ none) :
    s.result? .build = some none :=
  Classical.not_not.1 fun hno => hwho ((hs.unbuilt hno).stage who h)

theorem Sound.built_of_held (hs : Sound c s) (h : s.held = true) : s.result? .build = some none :=
  Classical.not_not.1 fun hno => Bool.false_ne_true ((hs.unbuilt hno).held.symm.trans h)

theorem Sound.built_of_waits (hs : Sound c s) (h : s.Waits) : s.result? .build = some none :=
  Classical.not_not.1 fun hno => absurd ((hs.unbuilt hno).task.symm.trans h.alive) (by decide)

/-- A resolving begins, of a resolver that has been built. -/
theorem Sound.ask (hs : Sound c s) (hbuilt : s.result? .build = some none) (hwho : who ≠ .build)
    (htask : who = .task → s.task = .alive) : Sound c (c.ask who s) where
  service := List.forall_mem_cons.2 ⟨rfl, hs.service⟩
  asked k hk := by
    by_cases he : k = who
    · subst he
      exact List.mem_cons_self ..
    · have hstage : s.stage k ≠ none := by simpa [Settings.ask, he] using hk
      exact List.mem_cons_of_mem _ (hs.asked k hstage)
  unbuilt hno := absurd hbuilt hno
  pending hk := by
    have hstage : s.stage .build ≠ none := by simpa [Settings.ask, Ne.symm hwho] using hk
    exact hs.pending hstage
  task := hs.task
  working hk := by
    by_cases he : who = .task
    · exact htask he
    · have hstage : s.stage .task ≠ none := by simpa [Settings.ask, Ne.symm he] using hk
      exact hs.working hstage

/-- **Nobody begins to resolve**: a turn that asks nothing, and is not the end of a build that succeeds. -/
structure State.Calms (s t : State) : Prop where
  queries : t.queries = s.queries
  fewer : ∀ k, t.stage k ≠ none → s.stage k ≠ none
  built : t.result? .build = some none ↔ s.result? .build = some none
  pending : t.stage .build ≠ none → t.result? .build = s.result? .build
  kept : s.result? .build ≠ some none → t.held = s.held ∧ t.closed = s.closed ∧ t.task = s.task
  absent : t.task = .absent ↔ s.task = .absent
  working : t.stage .task ≠ none → t.task = s.task

theorem Sound.calms (hs : Sound c s) (h : s.Calms t) : Sound c t where
  service := by
    rw [h.queries]
    exact hs.service
  asked k hk := by
    rw [h.queries]
    exact hs.asked k (h.fewer k hk)
  unbuilt hno := by
    have hno : s.result? .build ≠ some none := fun hb => hno (h.built.2 hb)
    obtain ⟨hheld, hclosed, htask⟩ := h.kept hno
    have hu := hs.unbuilt hno
    refine ⟨hheld.trans hu.held, hclosed.trans hu.closed, htask.trans hu.task, fun k hk => ?_, ?_⟩
    · exact hu.stage k (h.fewer k hk)
    · rw [h.queries]
      exact hu.queries
  pending hk := (h.pending hk).trans (hs.pending (h.fewer .build hk))
  task hb := h.absent.trans (hs.task (h.built.1 hb))
  working hk := (h.working hk).trans (hs.working (h.fewer .task hk))

/-- Where only stages change, and nobody comes, nobody begins to resolve. -/
theorem calms_setStage {st : Option Stage} (h : st ≠ none → s.stage who ≠ none) : s.Calms (s.setStage who st) := by
  refine ⟨rfl, fun k hk => ?_, Iff.rfl, fun _ => rfl, fun _ => ⟨rfl, rfl, rfl⟩, Iff.rfl, fun _ => rfl⟩
  by_cases he : k = who
  · subst he
    exact h (by simpa using hk)
  · simpa [he] using hk

theorem calms_handOver (h : s.stage who ≠ none) : s.Calms (c.handOver who l s) := by
  let addresses := ResolvedAddress.ofInstances l
  let u : State := (s.see (.line (resolvedLine c.target.service addresses))).see (.handed who addresses)
  have hu : u.Calms (u.setStage who (some (.handing addresses))) := calms_setStage fun _ => h
  exact ⟨hu.queries, hu.fewer, hu.built, hu.pending, hu.kept, hu.absent, hu.working⟩

/-- A resolver that has been built is closed, and may no longer be held. -/
theorem calms_close (hb : s.result? .build = some none) (held : Bool) :
    s.Calms { s with held := held, closed := true } :=
  ⟨rfl, fun _ hk => hk, Iff.rfl, fun _ => rfl, fun hno => absurd hb hno, Iff.rfl, fun _ => rfl⟩

/-- Whoever still resolves after the end of a resolving is somebody else, and did so before. -/
theorem Concluded.stage_of (h : Concluded c who f s t) {k : Caller} (hk : t.stage k ≠ none) :
    k ≠ who ∧ s.stage k ≠ none := by
  rw [h.stage] at hk
  by_cases he : k = who
  · exact absurd (if_pos he) hk
  · exact ⟨he, by rwa [if_neg he] at hk⟩

/-- After the end of the build nobody resolves. -/
theorem Concluded.alone (h : Concluded c .build f s t) (hs : Sound c s) (hstage : s.stage .build ≠ none)
    (k : Caller) : t.stage k = none := by
  have hu := hs.unbuilt (by simp [hs.pending hstage])
  exact Classical.not_not.1 fun hk => (h.stage_of hk).1 (hu.stage k (h.stage_of hk).2)

/-- A build that fails calms. -/
theorem Concluded.calms_of_failure (h : Concluded c .build f s t) (hs : Sound c s) (hstage : s.stage .build ≠ none)
    (hf : f ≠ none) : s.Calms t := by
  have hresult : t.result? .build = some f := (h.result (by decide) .build).trans (if_pos rfl)
  have htask := h.kept (fun hb => hf hb.2) (fun hg => nomatch hg.1)
  have hheld : t.held = s.held := Bool.eq_iff_iff.2 (h.held.trans (or_iff_left fun hb => hf hb.2))
  refine ⟨h.queries, fun k hk => (h.stage_of hk).2, ?_, fun hk => absurd (h.alone hs hstage _) hk,
    fun _ => ⟨hheld, h.closed, htask⟩, by rw [htask], fun _ => htask⟩
  rw [hresult, hs.pending hstage]
  exact iff_of_false (fun he => hf (Option.some.inj he)) (by simp)

/-- After the build every end of a resolving calms, also the one that ends the task. -/
theorem Concluded.calms_of_ne (h : Concluded c who f s t) (hs : Sound c s) (hstage : s.stage who ≠ none)
    (hbuild : who ≠ .build) : s.Calms t := by
  have hb := hs.built_of_stage hbuild hstage
  have hresult := h.result_of_ne hbuild
  refine ⟨h.queries, fun k hk => (h.stage_of hk).2, by rw [hresult], fun _ => hresult, fun hno => absurd hb hno,
    ?_, fun hk => ?_⟩
  · by_cases hgone : who = .task ∧ Gone f
    · obtain ⟨rfl, hg⟩ := hgone
      rw [h.ended rfl hg, hs.working hstage]
      exact iff_of_false (by decide) (by decide)
    · rw [h.kept (fun hb => hbuild hb.1) hgone]
  · exact h.kept (fun hb => hbuild hb.1) fun hg => (h.stage_of hk).1 hg.1.symm

/-- **A build that succeeds keeps the invariant**: it starts the task. -/
theorem Sound.built (hs : Sound c s) (hstage : s.stage .build ≠ none) (h : Concluded c .build none s t) :
    Sound c t := by
  have hresult : t.result? .build = some none := (h.result (by decide) .build).trans (if_pos rfl)
  have halone := h.alone hs hstage
  refine ⟨h.queries ▸ hs.service, fun k hk => absurd (halone k) hk, fun hno => absurd hresult hno,
    fun hk => absurd (halone _) hk, fun _ => ?_, fun hk => absurd (halone _) hk⟩
  rw [h.started rfl rfl]
  rcases c.interval with _ | i
  · exact iff_of_true rfl rfl
  · exact iff_of_false (by simp) (by simp)

/-- **The end of a resolving keeps the invariant.** -/
theorem Sound.conclude (hs : Sound c s) (hstage : s.stage who ≠ none) (h : Concluded c who f s t) : Sound c t := by
  by_cases hbuild : who = .build
  · subst hbuild
    by_cases hf : f = none
    · subst hf
      exact hs.built hstage h
    · exact hs.calms (h.calms_of_failure hs hstage hf)
  · exact hs.calms (h.calms_of_ne hs hstage hbuild)

/-- **Every turn keeps the invariant.** -/
theorem Sound.turn (hs : Sound c s) (h : Turn c s a t) : Sound c t := by
  rcases h with ⟨hstage, -⟩ | ⟨-, hstage, hend⟩ | hheld | ⟨hwaits, -⟩ | - | ⟨hwaits, -⟩ | - | hheld | hheld
  case hands => exact hs.calms (calms_handOver (by simp [hstage]))
  case ends => exact hs.conclude hstage hend
  case calls =>
    have hnext : Sound c { s with nextCall := s.nextCall + 1 } :=
      hs.calms ⟨rfl, fun _ hk => hk, Iff.rfl, fun _ => rfl, fun _ => ⟨rfl, rfl, rfl⟩, Iff.rfl, fun _ => rfl⟩
    exact hnext.ask (hs.built_of_held hheld) (fun he => nomatch he) (fun he => nomatch he)
  case ticks => exact hs.ask (hs.built_of_waits hwaits) (fun he => nomatch he) fun _ => hwaits.alive
  case rests => exact hs
  case stops =>
    refine hs.calms ⟨rfl, fun _ hk => hk, Iff.rfl, fun _ => rfl, fun hno => absurd (hs.built_of_waits hwaits) hno,
      ?_, fun hk => absurd hwaits.idle hk⟩
    exact iff_of_false (by simp) (by simp [hwaits.alive])
  case abandons => exact hs.calms (calms_setStage fun he => absurd rfl he)
  case closes => exact hs.calms (calms_close (hs.built_of_held hheld) s.held)
  case drops => exact hs.calms (calms_close (hs.built_of_held hheld) false)

/-- Where a build begins only the build resolves, and a target with another scheme is not even asked for. -/
theorem start_cases (c : Settings) :
    (c.target.scheme = c.scheme ∧ c.start = c.ask .build {}) ∨
      (c.target.scheme ≠ c.scheme ∧
        c.start = ({} : State).see (.returned .build (some (foreignScheme c.scheme c.target)))) := by
  unfold Settings.start
  split
  · exact .inl ⟨‹_›, rfl⟩
  · exact .inr ⟨‹_›, rfl⟩

theorem sound_start (c : Settings) : Sound c c.start := by
  rcases start_cases c with ⟨-, hstart⟩ | ⟨-, hstart⟩
  all_goals rw [hstart]
  · have hqueries : (c.ask .build {}).queries = [(.build, c.target.service)] := rfl
    have hbuild (k : Caller) (hk : (c.ask .build {}).stage k ≠ none) : k = .build := by
      simpa [Settings.ask] using hk
    refine ⟨by simp [hqueries], fun k hk => ?_, fun _ => ?_, fun _ => rfl, fun h => (nomatch h), fun hk => ?_⟩
    · rw [hqueries, hbuild k hk]
      exact List.mem_singleton_self _
    · exact ⟨rfl, rfl, rfl, hbuild, by simp [hqueries]⟩
    · exact nomatch hbuild _ hk
  · have hnobody (k : Caller) : (none : Option Stage) ≠ none → k = .build := fun h => absurd rfl h
    exact ⟨fun _ hq => (nomatch hq), fun _ hk => absurd rfl hk,
      fun _ => ⟨rfl, rfl, rfl, hnobody, fun _ hq => nomatch hq⟩, fun hk => absurd rfl hk, fun h => (nomatch h),
      fun hk => absurd rfl hk⟩

/-- **The invariant holds along every run.** -/
theorem sound_run {turns : List (State × Act)} (h : Run c.act c.start turns t) : Sound c t :=
  h.invariant (Sound c) (sound_start c) fun _ _ _ hs ha => hs.turn (turn ha)

/-- **A resolver that could not be built does nothing.** -/
theorem Sound.not_turn (hs : Sound c s) {g : Failure} (hfail : s.result? .build = some (some g)) : ¬ Turn c s a t := by
  have hno : s.result? .build ≠ some none := by simp [hfail]
  have hu := hs.unbuilt hno
  -- the build is over, and nobody else has begun
  have hnobody (k : Caller) : s.stage k = none := by
    refine Classical.not_not.1 fun hk => ?_
    obtain rfl := hu.stage k hk
    exact absurd (hs.pending hk) (by simp [hfail])
  have hunheld : s.held ≠ true := by simp [hu.held]
  intro h
  rcases h with ⟨hstage, -⟩ | ⟨-, hstage, -⟩ | hheld | ⟨hwaits, -⟩ | ⟨hwaits, -⟩ | ⟨hwaits, -⟩ | ⟨-, hstage⟩ |
    hheld | hheld
  case hands => exact nomatch (hnobody _).symm.trans hstage
  case ends | abandons => exact hstage (hnobody _)
  case calls | closes | drops => exact hunheld hheld
  all_goals exact hno (hs.built_of_waits hwaits)

end Invariant

/-! ## What a turn changes -/

/-- **A turn in which the task ends**: the client is gone, or the task looks and has to stop. -/
def State.Ends (c : Settings) (s : State) (a : Act) : Prop :=
  (∃ name, a = .reply .task (some (.resolverClosed name))) ∨ (c.Stops s ∧ ∃ due, a = .wake due)

/-- **The turn in which the task asks**: it waits, a tick is due, and it has not to stop. -/
def State.Asks (c : Settings) (s : State) (a : Act) : Prop := a = .wake true ∧ s.Waits ∧ ¬ c.Stops s

/-- A turn of the task. -/
def Act.IsTasks : Act → Prop
  | .answer who _ => who = .task
  | .reply who _ => who = .task
  | .wake _ => True
  | _ => False

section Changes

variable {c : Settings} {s t : State} {a : Act} {who : Caller} {f r : Option Failure} {l : List Instance}

/-- A resolving ends with an answer or with a word of the client. -/
theorem ending?_eq_some_iff : c.ending? a = some (who, f) ↔
    (a = .answer who [] ∧ f = some (.noAvailableInstance c.target.service)) ∨ a = .reply who f := by
  unfold Settings.ending?
  split
  · simp [eq_comm]
  · simp
  · rename_i hanswer hreply
    refine iff_of_false (fun h => nomatch h) ?_
    rintro (⟨rfl, -⟩ | rfl)
    · exact hanswer who rfl
    · exact hreply who f rfl

/-- What ends a resolving ends the task EXACTLY if the client tells the task that it is gone. -/
theorem ends_iff_of_ending (h : c.ending? a = some (who, f)) : s.Ends c a ↔ who = .task ∧ Gone f := by
  rcases ending?_eq_some_iff.1 h with ⟨rfl, rfl⟩ | rfl
  · refine iff_of_false ?_ ?_
    · rintro (⟨name, h⟩ | ⟨-, due, h⟩)
      · exact nomatch h
      · exact nomatch h
    · rintro ⟨-, name, h⟩
      exact nomatch h
  · constructor
    · rintro (⟨name, h⟩ | ⟨-, due, h⟩)
      · obtain ⟨rfl, rfl⟩ := Act.reply.inj h
        exact ⟨rfl, name, rfl⟩
      · exact nomatch h
    · rintro ⟨rfl, name, rfl⟩
      exact .inl ⟨name, rfl⟩

/-- Only the task's own turns end it. -/
theorem not_ends (hreply : ∀ f, a ≠ .reply .task f) (hwake : c.Stops s → ∀ due, a ≠ .wake due) : ¬ s.Ends c a := by
  rintro (⟨name, h⟩ | ⟨hstops, due, h⟩)
  · exact hreply _ h
  · exact hwake hstops due h

/-- **What the client is handed is what an answer brings.** -/
theorem Turn.handings_eq (h : Turn c s a t) : t.handings = a.handing?.toList ++ s.handings := by
  rcases h with ⟨-, hl⟩ | ⟨hend, -, h⟩ | - | - | - | - | - | - | -
  case hands =>
    rw [Act.handing?, if_neg hl]
    rfl
  case ends =>
    rw [h.handings]
    rcases ending?_eq_some_iff.1 hend with ⟨rfl, -⟩ | rfl
    · rfl
    · rfl
  all_goals rfl

/-- **What ends a resolving is its end**, and nothing else. -/
theorem Turn.concluded (h : Turn c s a t) (hend : c.ending? a = some (who, f)) : Concluded c who f s t := by
  rcases h with ⟨-, hl⟩ | ⟨hend', -, h⟩ | - | - | - | - | - | - | -
  case hands =>
    rcases ending?_eq_some_iff.1 hend with ⟨ha, -⟩ | ha
    · exact absurd (Act.answer.inj ha).2 hl
    · exact nomatch ha
  case ends =>
    obtain ⟨rfl, rfl⟩ := Prod.mk.inj (Option.some.inj (hend'.symm.trans hend))
    exact h
  all_goals exact nomatch hend

/-- The resolver is closed when it is closed or dropped. -/
theorem Turn.closed_iff (h : Turn c s a t) : t.closed = true ↔ s.closed = true ∨ a = .close ∨ a = .drop := by
  rcases h with - | ⟨hend, -, h⟩ | - | - | - | - | - | - | -
  case ends =>
    rw [h.closed]
    rcases ending?_eq_some_iff.1 hend with ⟨rfl, -⟩ | rfl
    · simp
    · simp
  case hands => simp [Settings.handOver]
  case calls => simp [Settings.ask]
  case ticks => simp [Settings.ask]
  all_goals simp

/-- **The build has the result with which it ends.** -/
theorem Turn.result_iff (h : Turn c s a t) (hs : Sound c s) :
    t.result? .build = some r ↔ s.result? .build = some r ∨ c.ending? a = some (.build, r) := by
  rcases h with ⟨-, hl⟩ | ⟨hend, hstage, h⟩ | - | - | - | - | - | - | -
  case ends who f =>
    rw [hend]
    by_cases hbuild : who = .build
    · subst hbuild
      rw [h.result (by decide), if_pos rfl, hs.pending hstage]
      simp
    · rw [h.result_of_ne hbuild]
      simp [hbuild]
  case hands =>
    show s.result? .build = some r ↔ _
    refine (or_iff_left fun hend => ?_).symm
    rcases ending?_eq_some_iff.1 hend with ⟨ha, -⟩ | ha
    · exact hl (Act.answer.inj ha).2
    · exact nomatch ha
  all_goals exact (or_iff_left fun hend => nomatch hend).symm

/-- **The task is over EXACTLY since a turn in which it ends.** -/
theorem Turn.over_iff (h : Turn c s a t) (hs : Sound c s) : t.task = .over ↔ s.task = .over ∨ s.Ends c a := by
  rcases h with - | ⟨hend, hstage, h⟩ | - | ⟨-, hgoes⟩ | ⟨-, hgoes⟩ | ⟨-, hstops⟩ | - | - | -
  case ends who f =>
    rw [ends_iff_of_ending hend]
    by_cases hgone : who = .task ∧ Gone f
    · exact iff_of_true (h.ended hgone.1 hgone.2) (.inr hgone)
    · rw [or_iff_left hgone]
      by_cases hbuilt : who = .build ∧ f = none
      · -- a build starts the task only once
        obtain ⟨rfl, rfl⟩ := hbuilt
        have habsent : s.task = .absent := (hs.unbuilt (by simp [hs.pending hstage])).task
        rw [h.started rfl rfl, habsent]
        split
        · decide
        · decide
      · rw [h.kept hbuilt hgone]
  case ticks | rests =>
    refine (or_iff_left ?_).symm
    exact not_ends (fun _ ha => nomatch ha) fun hstops => absurd hstops hgoes
  case stops due => exact iff_of_true rfl (.inr (.inr ⟨hstops, due, rfl⟩))
  all_goals
    refine (or_iff_left ?_).symm
    exact not_ends (fun _ ha => nomatch ha) fun _ _ ha => nomatch ha

/-- **In no other turn does the task ask.** -/
theorem Turn.quiet (h : Turn c s a t) (hno : ¬ s.Asks c a) : t.queriesOf .task = s.queriesOf .task := by
  rcases h with - | ⟨-, -, h⟩ | - | ⟨hwaits, hgoes⟩ | - | - | - | - | -
  case ends => rw [State.queriesOf, h.queries, State.queriesOf]
  case ticks => exact absurd ⟨rfl, hwaits, hgoes⟩ hno
  all_goals rfl

/-- What ends the task, or cancels it, asks nothing. -/
theorem not_asks_of_stops (ha : a = .close ∨ a = .drop ∨ s.Ends c a) : ¬ s.Asks c a := by
  rintro ⟨hwake, -, hgoes⟩
  rcases ha with rfl | rfl | ⟨name, rfl⟩ | ⟨hstops, -⟩
  · exact nomatch hwake
  · exact nomatch hwake
  · exact nomatch hwake
  · exact hgoes hstops

/-- A task that is cancelled or over asks nothing. -/
theorem not_asks_of_quiet (hq : s.closed = true ∨ s.task = .over) : ¬ s.Asks c a := by
  rintro ⟨-, hwaits, hgoes⟩
  rcases hq with hclosed | hover
  · exact hgoes (.inl hclosed)
  · exact absurd (hwaits.alive.symm.trans hover) (by decide)

/-- A task that is over has no turn. -/
theorem Turn.not_isTasks (h : Turn c s a t) (hs : Sound c s) (hover : s.task = .over) : ¬ a.IsTasks := by
  have hidle : s.stage .task = none :=
    Classical.not_not.1 fun hk => absurd ((hs.working hk).symm.trans hover) (by decide)
  have hwaits : ¬ s.Waits := fun hw => absurd (hw.alive.symm.trans hover) (by decide)
  intro ha
  rcases h with ⟨hstage, -⟩ | ⟨hend, hstage, -⟩ | - | ⟨hw, -⟩ | ⟨hw, -⟩ | ⟨hw, -⟩ | - | - | -
  case hands =>
    obtain rfl : _ = Caller.task := ha
    exact nomatch hidle.symm.trans hstage
  case ends =>
    rcases ending?_eq_some_iff.1 hend with ⟨rfl, -⟩ | rfl
    all_goals
      obtain rfl : _ = Caller.task := ha
      exact hstage hidle
  case ticks | rests | stops => exact hwaits hw
  all_goals exact ha

end Changes

end Muster.Resolver
