/-
  The conduct of a resolver, along every run.

  (1) `Conduct` — what was handed over and asked, how the build has ended, when the task is over, and what can
      happen next;
  (2) `quiet_run`, `final_run` — a task that is cancelled or over asks no more, and one that is over does nothing;
  (3) `conduct_run` — so it is along every run;
  (4) `inOneGo_eq`, `Balancer.build_eq` — where discovery and the client answer at once, the machine does what
      `resolve` does.
-/
import Muster.Proofs.Resolving.Sound
import Muster.Resolver.Channel

namespace Muster

namespace Resolver

/-! ## Along a run -/

/-- **The conduct of a resolver** along a run. -/
structure Conduct (c : Settings) (turns : List (State × Act)) (t : State) : Prop where
  /-- What the client was handed are the answers of discovery, in the order in which they came; an answer
      without instances is not handed over. -/
  hands : t.handings.reverse = turns.filterMap (·.2.handing?)
  /-- So whatever was handed over is not empty, and is ONE answer in its order, to somebody who had asked for
      the service of the target and was waiting. -/
  images : ∀ h ∈ t.handings, h.2 ≠ [] ∧ ∃ p ∈ turns, ∃ l, p.2 = .answer h.1 l ∧
    h.2 = l.map (fun i => ⟨i.endpoint, i.name⟩) ∧ p.1.stage h.1 = some .asking ∧
    (h.1, c.target.service) ∈ p.1.queries
  /-- Discovery is asked for no other service. -/
  asks : ∀ q ∈ t.queries, q.2 = c.target.service
  /-- A target with another scheme is refused, and nothing happens. -/
  foreign : c.target.scheme ≠ c.scheme → turns = [] ∧ t.queries = [] ∧
    t.result? .build = some (some (foreignScheme c.scheme c.target))
  /-- Otherwise the build has the result with which its resolving ends. -/
  built : c.target.scheme = c.scheme → ∀ r, t.result? .build = some r ↔
    ∃ p ∈ turns, c.ending? p.2 = some (.build, r)
  /-- A build that has failed leaves nothing behind that could ask, or do anything else. -/
  failed : ∀ g, t.result? .build = some (some g) → t.task = .absent ∧ t.held = false ∧
    (∀ q ∈ t.queries, q.1 = .build) ∧ ∀ a, c.act t a = none
  /-- There is a task EXACTLY if the build has succeeded, and there is an interval. -/
  task : t.task ≠ .absent ↔ t.result? .build = some none ∧ c.interval ≠ none
  /-- It is over EXACTLY if the client told it that it is gone, or it looked when it had to stop.  So no other
      failure ends it. -/
  ended : t.task = .over ↔ ∃ p ∈ turns, p.1.Ends c p.2
  closed : t.closed = true ↔ ∃ p ∈ turns, p.2 = .close ∨ p.2 = .drop
  /-- Whoever is through with a resolving is free; nothing is handed over in the end, and nothing asked. -/
  rests : ∀ p ∈ turns, ∀ v who f, c.act p.1 p.2 = some v → c.ending? p.2 = some (who, f) →
    v.stage who = none ∧ v.handings = p.1.handings ∧ v.queries = p.1.queries
  /-- A task that waits asks when a tick is due, unless it has to stop. -/
  wakes : t.Waits → ¬ c.Stops t → ∃ v, c.act t (.wake true) = some v ∧ v.stage .task = some .asking ∧
    v.queries = (.task, c.target.service) :: t.queries
  /-- If it has to stop it does, whether a tick is due or not. -/
  stops : t.Waits → c.Stops t → ∀ due, ∃ v, c.act t (.wake due) = some v ∧ v.task = .over ∧
    v.queries = t.queries
  /-- Whoever has asked takes any answer, and then any word of the client. -/
  takes : ∀ who st, t.stage who = some st →
    (st = .asking ∧ ∀ l, (c.act t (.answer who l)).isSome = true) ∨
      ∃ addresses, st = .handing addresses ∧ ∀ f, (c.act t (.reply who f)).isSome = true
  /-- Once the resolver was closed or dropped, or the task has ended, the task asks no more. -/
  quiet : ∀ front p back, turns = front ++ p :: back → p.2 = .close ∨ p.2 = .drop ∨ p.1.Ends c p.2 →
    t.queriesOf .task = p.1.queriesOf .task
  /-- Once it has ended it has no turn. -/
  final : ∀ front p back, turns = front ++ p :: back → p.1.Ends c p.2 → ∀ q ∈ back, ¬ q.2.IsTasks

section Runs

variable {c : Settings} {turns : List (State × Act)} {s t : State}

/-- Every turn of a run happens in a state in which the invariant holds. -/
theorem sound_throughout (h : Run c.act c.start turns t) : Run.Throughout (Sound c) turns t :=
  h.throughout (Sound c) (sound_start c) fun _ _ _ hs ha => hs.turn (turn ha)

/-- Where a build begins nothing is closed, there is no task, and nothing has been handed over. -/
theorem start_fresh (c : Settings) :
    c.start.closed = false ∧ c.start.task = .absent ∧ c.start.handings = [] := by
  rcases start_cases c with ⟨-, hstart⟩ | ⟨-, hstart⟩
  all_goals
    rw [hstart]
    exact ⟨rfl, rfl, rfl⟩

/-- What was handed over, in its order. -/
theorem handings_run (h : Run c.act c.start turns t) :
    t.handings.reverse = turns.filterMap (·.2.handing?) := by
  refine h.history (fun past u => u.handings.reverse = past.filterMap (·.2.handing?)) ?_ ?_
  · rw [(start_fresh c).2.2]
    rfl
  · intro past u a v _ ih ha
    rw [(turn ha).handings_eq, List.reverse_append, ih, List.filterMap_append]
    rcases hh : a.handing? with _ | x
    · simp [hh]
    · simp [hh]

/-- **A task that is cancelled or over never asks again.** -/
theorem quiet_run (h : Run c.act s turns t) (hs : Sound c s) (hq : s.closed = true ∨ s.task = .over) :
    t.queriesOf .task = s.queriesOf .task := by
  have hall := h.invariant (fun u => Sound c u ∧ (u.closed = true ∨ u.task = .over) ∧
    u.queriesOf .task = s.queriesOf .task) ⟨hs, hq, rfl⟩ ?_
  · exact hall.2.2
  rintro ⟨u, a⟩ - v ⟨hu, hq, he⟩ ha
  have hturn := turn ha
  refine ⟨hu.turn hturn, ?_, (hturn.quiet (not_asks_of_quiet hq)).trans he⟩
  rcases hq with hclosed | hover
  · exact .inl (hturn.closed_iff.2 (.inl hclosed))
  · exact .inr ((hturn.over_iff hu).2 (.inl hover))

/-- **A task that is over stays so**, and has no turn. -/
theorem final_run (h : Run c.act s turns t) (hs : Sound c s) (hover : s.task = .over) :
    ∀ q ∈ turns, ¬ q.2.IsTasks := by
  intro q hq
  obtain ⟨front, back, v, rfl, hfront, hv, -⟩ := h.split hq
  have hall := hfront.invariant (fun u => Sound c u ∧ u.task = .over) ⟨hs, hover⟩ ?_
  · exact (turn hv).not_isTasks hall.1 hall.2
  rintro ⟨u, a⟩ - w ⟨hu, ho⟩ ha
  exact ⟨hu.turn (turn ha), ((turn ha).over_iff hu).2 (.inl ho)⟩

/-- What is not so where a build begins is so EXACTLY if a turn has brought it about. -/
theorem ever_run (h : Run c.act c.start turns t) {view : State → Prop} {raises : State → Act → Prop}
    (start : ¬ view c.start)
    (turns_iff : ∀ {s a t}, Turn c s a t → Sound c s → (view t ↔ view s ∨ raises s a)) :
    view t ↔ ∃ p ∈ turns, raises p.1 p.2 := by
  have hall := sound_throughout h
  exact (h.ever_iff view fun p hp v hv => turns_iff (turn hv) (hall.1 p hp)).trans (or_iff_right start)

/-- Whoever is at some stage takes what comes next. -/
theorem isSome_act_of_stage {who : Caller} {st : Stage} (h : s.stage who = some st) :
    (st = .asking ∧ ∀ l, (c.act s (.answer who l)).isSome = true) ∨
      ∃ addresses, st = .handing addresses ∧ ∀ f, (c.act s (.reply who f)).isSome = true := by
  rcases st with _ | addresses
  · refine .inl ⟨rfl, fun l => ?_⟩
    rw [Settings.act, if_pos h]
    rfl
  · refine .inr ⟨addresses, rfl, fun f => ?_⟩
    simp [Settings.act, h]

/-- A task that waits looks whether it has to go on. -/
theorem act_wake (h : s.Waits) (due : Bool) : c.act s (.wake due) = some (c.wake due s) :=
  if_pos ⟨h.alive, h.idle⟩

/-- What an answer brings is not empty. -/
theorem handing?_eq_some_iff {a : Act} {x : Caller × List ResolvedAddress} : a.handing? = some x ↔
    ∃ l, a = .answer x.1 l ∧ l ≠ [] ∧ x.2 = l.map fun i => ⟨i.endpoint, i.name⟩ := by
  obtain ⟨who, addresses⟩ := x
  unfold Act.handing?
  split
  · rename_i k l
    rw [Option.ite_none_left_eq_some]
    constructor
    · rintro ⟨hl, he⟩
      obtain ⟨rfl, rfl⟩ := Prod.mk.inj (Option.some.inj he)
      exact ⟨l, rfl, hl, rfl⟩
    · rintro ⟨l', ha, hl, rfl⟩
      obtain ⟨rfl, rfl⟩ := Act.answer.inj ha
      exact ⟨hl, rfl⟩
  · rename_i hanswer
    refine iff_of_false (fun h => nomatch h) ?_
    rintro ⟨l, rfl, -⟩
    exact hanswer _ _ rfl

/-- **Whatever the client was handed is one answer**, to a query for the service of the target. -/
theorem image_of_handing (h : Run c.act c.start turns t) {x : Caller × List ResolvedAddress}
    (hx : x ∈ t.handings) : x.2 ≠ [] ∧ ∃ p ∈ turns, ∃ l, p.2 = .answer x.1 l ∧
      x.2 = l.map (fun i => ⟨i.endpoint, i.name⟩) ∧ p.1.stage x.1 = some .asking ∧
      (x.1, c.target.service) ∈ p.1.queries := by
  have hmem : x ∈ turns.filterMap (·.2.handing?) := handings_run h ▸ List.mem_reverse.2 hx
  obtain ⟨p, hp, hhanding⟩ := List.mem_filterMap.1 hmem
  obtain ⟨l, ha, hl, haddresses⟩ := handing?_eq_some_iff.1 hhanding
  have hstage : p.1.stage x.1 = some .asking := by
    obtain ⟨front, back, v, rfl, -, hv, -⟩ := h.split hp
    rw [ha] at hv
    exact (Option.ite_some_none_eq_some.1 hv).1
  have hasked := ((sound_throughout h).1 p hp).asked x.1 (by simp [hstage])
  refine ⟨?_, p, hp, l, ha, haddresses, hstage, hasked⟩
  rw [haddresses]
  exact fun he => hl (List.map_eq_nil_iff.1 he)

/-- A build that was refused has had no turn. -/
theorem nil_of_foreign (h : Run c.act c.start turns t) (hforeign : c.target.scheme ≠ c.scheme) :
    turns = [] ∧ t.queries = [] ∧ t.result? .build = some (some (foreignScheme c.scheme c.target)) := by
  rcases start_cases c with ⟨hown, -⟩ | ⟨-, hstart⟩
  · exact absurd hown hforeign
  · have hresult : c.start.result? .build = some (some (foreignScheme c.scheme c.target)) := by
      rw [hstart, State.result?_returned, if_pos rfl]
    rcases h with _ | ⟨ha, -⟩
    · rw [hstart] at hresult ⊢
      exact ⟨rfl, rfl, hresult⟩
    · exact absurd (turn ha) ((sound_start c).not_turn hresult)

/-- **What a resolver does**, along every run. -/
theorem conduct_run {c : Settings} {turns : List (State × Act)} {t : State} (run : Run c.act c.start turns t) :
    Conduct c turns t := by
  have hs := sound_run run
  obtain ⟨hopen, habsent, -⟩ := start_fresh c
  constructor
  case hands => exact handings_run run
  case images => exact fun x hx => image_of_handing run hx
  case asks => exact hs.service
  case foreign => exact nil_of_foreign run
  case built =>
    intro hown r
    refine ever_run run ?_ fun h hs => h.result_iff hs
    rcases start_cases c with ⟨-, hstart⟩ | ⟨hforeign, -⟩
    · rw [hstart]
      exact fun h => nomatch h
    · exact absurd hown hforeign
  case failed =>
    intro g hfail
    have hu := hs.unbuilt (by simp [hfail])
    refine ⟨hu.task, hu.held, hu.queries, fun a => ?_⟩
    rcases ha : c.act t a with _ | v
    · rfl
    · exact absurd (turn ha) (hs.not_turn hfail)
  case task =>
    constructor
    · intro htask
      have hb : t.result? .build = some none := Classical.not_not.1 fun hno => htask (hs.unbuilt hno).task
      exact ⟨hb, fun hi => htask ((hs.task hb).2 hi)⟩
    · rintro ⟨hb, hi⟩ htask
      exact hi ((hs.task hb).1 htask)
  case ended => exact ever_run run (by simp [habsent]) fun h hs => h.over_iff hs
  case closed => exact ever_run run (by simp [hopen]) fun h _ => h.closed_iff
  case rests =>
    intro p hp v who f hv hend
    have h := (turn hv).concluded hend
    exact ⟨(h.stage who).trans (if_pos rfl), h.handings, h.queries⟩
  case wakes =>
    intro hwaits hgoes
    have hwake : c.wake true t = c.ask .task t := by
      rw [Settings.wake, if_neg fun h => hgoes h.symm, if_pos rfl]
    exact ⟨_, act_wake hwaits true, by rw [hwake]; exact ⟨rfl, rfl⟩⟩
  case stops =>
    intro hwaits hstops due
    have hwake : c.wake due t = { t with task := .over } := if_pos hstops.symm
    exact ⟨_, act_wake hwaits due, by rw [hwake]; exact ⟨rfl, rfl⟩⟩
  case takes => exact fun who st hstage => isSome_act_of_stage hstage
  case quiet =>
    rintro front p back rfl hp
    obtain ⟨u, hfront, hback⟩ := Run.append_iff.1 run
    rcases hback with _ | ⟨ha, hback⟩
    have hu := sound_run hfront
    have hturn := turn ha
    refine (quiet_run hback (hu.turn hturn) ?_).trans (hturn.quiet (not_asks_of_stops hp))
    rcases hp with hclose | hdrop | hends
    · exact .inl (hturn.closed_iff.2 (.inr (.inl hclose)))
    · exact .inl (hturn.closed_iff.2 (.inr (.inr hdrop)))
    · exact .inr ((hturn.over_iff hu).2 (.inr hends))
  case final =>
    rintro front p back rfl hends
    obtain ⟨u, hfront, hback⟩ := Run.append_iff.1 run
    rcases hback with _ | ⟨ha, hback⟩
    have hu := sound_run hfront
    exact final_run hback (hu.turn (turn ha)) (((turn ha).over_iff hu).2 (.inr hends))

/-- A resolver with an interval is built.  Its task finds nothing once, and once the client cannot take what it
    finds; it goes on.  It ends when the resolver is closed, though a tick is due, and a call goes on. -/
theorem conduct_run_refreshing : ∃ (c : Settings) (turns : List (State × Act)) (t : State),
    Run c.act c.start turns t ∧ Conduct c turns t ∧
    turns.map Prod.snd = [.answer .build [⟨"order", "10.0.0.1", 9000⟩], .reply .build none, .wake true,
      .answer .task [], .wake true, .answer .task [⟨"order", "10.0.0.2", 9000⟩, ⟨"order", "10.0.0.1", 9000⟩],
      .reply .task (some (.http "busy")), .call, .close, .wake true,
      .answer (.call 0) [⟨"order", "10.0.0.3", 9000⟩]] ∧
    t.task = .over ∧ t.queries.map Prod.fst = [.call 0, .task, .task, .build] ∧
    t.handings.map (fun h => h.2.map (·.address)) = [["10.0.0.3:9000"], ["10.0.0.2:9000", "10.0.0.1:9000"],
      ["10.0.0.1:9000"]] := by
  let c : Settings :=
    { scheme := "consul", target := ⟨"consul", "", "order"⟩, interval := some (.ofSecs 5) }
  let acts : List Act := [.answer .build [⟨"order", "10.0.0.1", 9000⟩], .reply .build none, .wake true,
    .answer .task [], .wake true, .answer .task [⟨"order", "10.0.0.2", 9000⟩, ⟨"order", "10.0.0.1", 9000⟩],
    .reply .task (some (.http "busy")), .call, .close, .wake true,
    .answer (.call 0) [⟨"order", "10.0.0.3", 9000⟩]]
  have hall : ((acts.foldlM c.act c.start).map fun t =>
      (t.task, t.queries.map Prod.fst, t.handings.map fun h => h.2.map (·.address))) =
      some (.over, [.call 0, .task, .task, .build],
        [["10.0.0.3:9000"], ["10.0.0.2:9000", "10.0.0.1:9000"], ["10.0.0.1:9000"]]) := by
    decide +kernel
  obtain ⟨t, run, hacts, he⟩ := Run.of_view hall
  obtain ⟨htask, he⟩ := Prod.mk.inj he
  obtain ⟨hqueries, hhandings⟩ := Prod.mk.inj he
  exact ⟨c, _, t, run, conduct_run run, hacts, htask, hqueries, hhandings⟩

end Runs

/-! ## In one go -/

section OneGo

variable (c : Settings) {s : State} {who : Caller} (l : List Instance)
  (client : List ResolvedAddress → Option Failure)

/-- **Where discovery and the client answer at once, the machine does what `resolve` does.** -/
theorem inOneGo_eq (asked : s.stage who = some .asking) : c.inOneGo who l client s =
    c.conclude who (resolve c.target.service l client).failure
      (if l = [] then s.see (.line (emptyLine c.target.service)) else c.handOver who l s) := by
  have hanswer : c.after s (.answer who l) = c.answered who l s := by
    rw [Settings.after, Settings.act, if_pos asked]
    rfl
  rw [Settings.inOneGo, hanswer]
  by_cases hl : l = []
  · subst hl
    have hstage : (c.answered who [] s).stage who = none :=
      ((concluded c who _ _).stage who).trans (if_pos rfl)
    simp only [hstage, if_pos]
    rfl
  · let addresses := ResolvedAddress.ofInstances l
    have hstage : (c.handOver who l s).stage who = some (.handing addresses) := if_pos rfl
    have hresolve : (resolve c.target.service l client).failure = client addresses := by
      rw [resolve, state, if_neg fun he => hl (List.isEmpty_iff.1 he)]
    rw [c.answered_of_ne hl, hresolve, if_neg hl]
    simp only [hstage, Settings.after, Settings.act]
    rfl

/-- Its caller is told what `resolve` reports. -/
theorem result?_inOneGo (asked : s.stage who = some .asking) (hwho : who ≠ .task) :
    (c.inOneGo who l client s).result? who = some (resolve c.target.service l client).failure := by
  rw [inOneGo_eq c l client asked]
  exact ((concluded c who _ _).result hwho who).trans (if_pos rfl)

end OneGo

end Resolver

/-- **A balancer is built by resolving its service once**; if that fails there is none. -/
theorem Balancer.build_eq (ch : Channel) (order : List String → List String) (scheme service : String)
    (l : List Instance) :
    let resolved := ({ service } : Balancer).resolve ch order l
    Balancer.build ch order scheme service l = resolved.2.elim (.ok resolved.1) .error := by
  let b : Balancer := { service }
  let c : Resolver.Settings := { scheme, target := .of scheme service, interval := none }
  let client (addresses : List ResolvedAddress) : Option Failure := (b.updateTo ch order addresses).failure
  have hstart : c.start = c.ask .build {} := if_pos rfl
  have hresult : (c.inOneGo .build l client c.start).result? .build = some (b.resolve ch order l).2 := by
    rw [hstart]
    exact Resolver.result?_inOneGo c l client rfl (by decide)
  have hbuilt : ((c.inOneGo .build l client c.start).result? .build).join = (b.resolve ch order l).2 := by
    rw [hresult]
    rfl
  intro resolved
  unfold Balancer.build
  dsimp only
  rw [hbuilt]
  show _ = (b.resolve ch order l).2.elim _ _
  rcases (b.resolve ch order l).2 with _ | f
  · rfl
  · rfl

end Muster
