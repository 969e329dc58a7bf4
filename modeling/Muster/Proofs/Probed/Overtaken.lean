/-
  The answer to a first query, and the results that overtake it.

  A query for a service that is not cached loads it once, and adds what the answer offers.  If the service
  has a watch already, the watch goes on meanwhile; and what it has applied may be newer than the answer.

  (1) `State.word?` — what an act says of an endpoint of a service: that it is a member, that it is none,
      or nothing.  `word_act`: the cache is changed by these words, and by nothing else, so along a run
      the last of them counts (`World.said`).
  (2) `World` — a backend, and what the store holds.  The store changes at any time, and goes to a
      higher index with each change.
  (3) `Overtaken` — the answer was computed at one moment, afterwards a result withdrew the instance, and
      then the answer is merged.
  (4) `Overtaken.has_iff` — the instance is a member again EXACTLY when the store offered it at that
      moment, unless it is withdrawn once more.

  THE CRUX: an answer that is merged by a query only ever adds, and it carries no index.
-/
import Muster.Proofs.Probed.Turn

namespace Muster.Probed

/-! ## What is said of an endpoint -/

/-- Whether a first load takes an instance with an endpoint. -/
def offers (l : List Report) (e : String) : Bool := (eligible l).any fun i => i.endpoint == e

/-- **What a signal says to a process of an endpoint of a service.**  A result that is new says it of every
    endpoint, but a service that is not known is loaded first, and the result is applied when the load is
    over.  The answer to a query only says who is a member. -/
def State.told? (n e : String) (s : State) (sig : Signal Reply Item) : Process → Option Bool
  | .querying m =>
    match sig with
    | .reply (.ok (.reports l)) => if n == m && offers l e then some true else none
    | _ => none
  | .watch m (.querying index _) =>
    match sig with
    | .reply (.ok (.indexed new l)) =>
      if m = n ∧ new ≠ index ∧ s.registry.contains n = true then some (passes l e) else none
    | _ => none
  | .watch m (.loading _ l) => if m = n then some (passes l e) else none
  | _ => none

/-- **What an act says of an endpoint of a service.** -/
def State.word? (n e : String) (s : State) : Act → Option Bool
  | .signal id sig => (s.process? id).bind (s.told? n e sig)
  | _ => none

section Words

variable {c : Settings} {n e : String} {s t : State} {id : Nat} {sig : Signal Reply Item}

/-- What is applied to a service decides on its endpoints, and on no other's. -/
theorem has_apply (m : String) (l : List Report) (s : State) :
    (apply m l s).registry.has n e =
      (if m = n then some (passes l e) else none).getD (s.registry.has n e) := by
  by_cases hm : m = n
  · subst hm
    rw [apply_has, if_pos rfl]; rfl
  · rw [if_neg hm, (apply_only m l s).has (Ne.symm hm)]; rfl

/-- **A query only ever adds.** -/
theorem has_merge (m : String) (l : List Report) (s : State) :
    (merge m l s).registry.has n e =
      (if n == m && offers l e then some true else none).getD (s.registry.has n e) := by
  rw [merge_has]
  show (s.registry.has n e || (n == m && offers l e)) = _
  cases s.registry.has n e <;> cases (n == m && offers l e) <;> rfl

theorem Turn.has_eq {p : Process} (h : Turn c s id p sig t) :
    t.registry.has n e = (s.told? n e sig p).getD (s.registry.has n e) := by
  cases h with
  | registers | registerFails | deregisters | deregisterFails | closes => rfl
  | @finds m l o =>
    show (ensureWatch m (merge m l s)).registry.has n e = _
    rw [(ensureWatch_books ..).2.1]
    exact has_merge m l s
  | @findFails m _ f l hr =>
    have hmute : s.told? n e sig (.querying m) = none := by
      cases sig with
      | reply r => obtain rfl := Option.some.inj hr; rfl
      | _ => rfl
    rw [hmute]; rfl
  | begins | retries => rfl
  | @repeats m index f l ls =>
    have hmute : s.told? n e (.reply (.ok (.indexed index l))) (.watch m (.querying index f)) =
        none := if_neg fun h => h.2.1 rfl
    rw [hmute]
    show (s.heard ls).registry.has n e = _
    rw [(heard_books s ls).2.1]; rfl
  | @changes m index f new l ls hnew hk =>
    show (apply m l (s.heard ls)).registry.has n e = _
    rw [has_apply, (heard_books s ls).2.1]
    by_cases hm : m = n
    · subst hm
      have hword : s.told? m e (.reply (.ok (.indexed new l))) (.watch m (.querying index f)) =
          some (passes l e) := if_pos ⟨rfl, hnew, hk⟩
      rw [hword, if_pos rfl]
    · have hword : s.told? n e (.reply (.ok (.indexed new l))) (.watch m (.querying index f)) =
          none := if_neg fun h => hm h.1
      rw [hword, if_neg hm]
  | @sights m index f new l ls hnew hk =>
    have hword : s.told? n e (.reply (.ok (.indexed new l))) (.watch m (.querying index f)) =
        none := by
      refine if_neg fun h => ?_
      obtain ⟨rfl, -, hknown⟩ := h
      rw [hk] at hknown
      cases hknown
    rw [hword]
    show (s.heard ls).registry.has n e = _
    rw [(heard_books s ls).2.1]; rfl
  | backsOff => rfl
  | givesUp f l =>
    rw [(endWatch_books ..).2.1, (Session.setDegraded_books ..).2.1]; rfl
  | @stops m w ls hc hw =>
    have hmute : s.told? n e .cancelled (.watch m w) = none := by
      cases w with
      | loading index l => exact absurd rfl (hw index l)
      | _ => rfl
    rw [hmute, (endWatch_books ..).2.1, (Session.notes_books ..).2.1]; rfl
  | @loads m index l loaded =>
    show (apply m l (merge m loaded s)).registry.has n e = _
    rw [has_apply]
    by_cases hm : m = n
    · rw [if_pos hm]
      show _ = (if m = n then some (passes l e) else none).getD _
      rw [if_pos hm]; rfl
    · rw [if_neg hm]
      show (merge m loaded s).registry.has n e = (if m = n then some (passes l e) else none).getD _
      rw [if_neg hm, (merge_only m loaded s).has (Ne.symm hm)]; rfl
  | @loadFails m index l _ f line =>
    show (apply m l (s.note line)).registry.has n e = _
    exact has_apply m l (s.note line)

/-- **The cache is changed by what is said**, and by nothing else. -/
theorem word_act {a : Act} (h : c.act s a = some t) :
    t.registry.has n e = (s.word? n e a).getD (s.registry.has n e) := by
  cases a with
  | call k =>
    obtain rfl := Option.some.inj h
    rw [registry_call]; rfl
  | signal id sig =>
    obtain ⟨p, hp, hturn⟩ := Settings.turn h
    rw [State.word?, hp]
    exact hturn.has_eq
  | abandon id =>
    obtain ⟨-, -, -, rfl⟩ := Settings.act_abandon_iff.1 h
    rfl
  | drop =>
    obtain rfl := Option.some.inj h
    rfl

end Words

/-! ## Worlds -/

/-- **A backend and a store.** -/
structure World where
  session : State
  /-- What the store holds of each service, and the index of the last change there. -/
  held : String → UInt64 × List Report

/-- What can happen in a world. -/
inductive Move where
  /-- What the store holds of a service changes. -/
  | change (n : String) (index : UInt64) (l : List Report)
  /-- The backend acts. -/
  | act (a : Act)

namespace World

/-- **The world after a move**, if it can happen. -/
def move (c : Settings) (w : World) : Move → Option World
  | .change n index l => some { w with held := fun m => if m = n then (index, l) else w.held m }
  | .act a => (c.act w.session a).map fun t => { w with session := t }

/-- **The store answers with what it holds**, and its indexes grow. -/
def Honest (w : World) : Move → Prop
  | .change n index _ => (w.held n).1 < index
  | .act (.signal id (.reply (.ok (.indexed new l)))) =>
    ∀ m x, w.session.process? id = some (.watch m x) → w.held m = (new, l)
  | .act (.signal id (.reply (.ok (.reports l)))) =>
    ∀ m, w.session.process? id = some (.querying m) ∨
      (∃ x, w.session.process? id = some (.watch m x)) → (w.held m).2 = l
  | .act _ => True

/-- What a move says of an endpoint of a service. -/
def word? (n e : String) (w : World) : Move → Option Bool
  | .change .. => none
  | .act a => w.session.word? n e a

/-- **What was said last** of an endpoint of a service, along a run. -/
def said (n e : String) (turns : List (World × Move)) : Option Bool :=
  lastWord (turns.map fun p => p.1.word? n e p.2)

/-- The world after a move, or the same if it cannot happen. -/
def after (c : Settings) (w : World) (m : Move) : World := (w.move c m).getD w

variable {c : Settings} {n e : String} {w u : World}

theorem move_eq_after {m : Move} (h : (w.move c m).isSome = true) :
    w.move c m = some (w.after c m) := by
  obtain ⟨v, hv⟩ := Option.isSome_iff_exists.1 h
  rw [after, hv, Option.getD_some]

theorem word_move {m : Move} (h : w.move c m = some u) :
    u.session.registry.has n e = (w.word? n e m).getD (w.session.registry.has n e) := by
  cases m with
  | change k index l =>
    obtain rfl := Option.some.inj h
    rfl
  | act a =>
    obtain ⟨t, ht, rfl⟩ := Option.map_eq_some_iff.1 h
    exact word_act ht

/-- **Along a run, what was said last counts.** -/
theorem has_eq_said {turns : List (World × Move)} (h : Run (move c) w turns u) :
    u.session.registry.has n e = (said n e turns).getD (w.session.registry.has n e) :=
  h.eq_lastWord fun _ _ _ => word_move

end World

/-! ## Answers that are overtaken -/

/-- **The answer to a first query is overtaken.**  The store computed it while the query was under way;
    until it arrives, the instance was withdrawn, and nobody brought it back; then it is merged, and
    afterwards nobody brings the instance back either. -/
structure Overtaken (c : Settings) (n e : String) where
  /-- The number of the query. -/
  id : Nat
  /-- The world in which the answer is computed. -/
  asked : World
  meanwhile : List (World × Move)
  /-- The world in which it arrives. -/
  arrived : World
  /-- The world in which it has been merged. -/
  merged : World
  afterwards : List (World × Move)
  last : World
  sent : asked.session.process? id = some (.querying n)
  run : Run (World.move c) asked meanwhile arrived
  waits : arrived.session.process? id = some (.querying n)
  withdrawn : World.said n e meanwhile = some false
  merges : arrived.move c (.act (.signal id (.reply (.ok (.reports (asked.held n).2))))) = some merged
  rest : Run (World.move c) merged afterwards last
  quiet : World.said n e afterwards ≠ some true

namespace Overtaken

variable {c : Settings} {n e : String}

/-- **A backend that was new, and a store that is honest all along.** -/
def Plausible (x : Overtaken c n e) : Prop :=
  ∃ start front, start.session = .initial ∧ Run (World.move c) start front x.asked ∧
    ∀ p ∈ front ++ x.meanwhile ++ x.afterwards, p.1.Honest p.2

/-- Right after the merge the instance is what the answer says. -/
theorem has_merged (x : Overtaken c n e) :
    x.merged.session.registry.has n e = offers (x.asked.held n).2 e := by
  have hgone : x.arrived.session.registry.has n e = false := by
    rw [World.has_eq_said x.run, x.withdrawn]; rfl
  have hword : x.arrived.word? n e (.act (.signal x.id (.reply (.ok (.reports (x.asked.held n).2))))) =
      if n == n && offers (x.asked.held n).2 e then some true else none := by
    show (x.arrived.session.process? x.id).bind _ = _
    rw [x.waits]; rfl
  rw [World.word_move x.merges, hword, hgone, beq_self_eq_true, Bool.true_and]
  cases offers (x.asked.held n).2 e <;> rfl

/-- **An instance that was withdrawn is a member again EXACTLY when the store offered it as the answer was
    computed, and it has not been withdrawn since the answer was merged.** -/
theorem has_iff (x : Overtaken c n e) :
    x.last.session.registry.has n e = true ↔
      World.said n e x.afterwards = none ∧ offers (x.asked.held n).2 e = true := by
  rw [World.has_eq_said x.rest, x.has_merged]
  exact getD_eq_true_iff x.quiet _

end Overtaken

/-! ## A run -/

/-- A new backend beside a store that holds nothing. -/
def World.initial : World := ⟨.initial, fun _ => (1, [])⟩

/-- **An instance is brought back by an answer.**  A service is asked for, and gets a watch, while it has
    no instance; then one is registered, and the service is asked for again.  Before the answer arrives
    the instance is gone, and the watch hears of it. -/
theorem exists_revived : ∃ x : Overtaken .sample "order" "10.0.0.1:9000",
    x.Plausible ∧
      x.meanwhile.map Prod.snd =
        [.change "order" 5 [], .act (.signal 1 (.reply (.ok (.indexed 5 [])))),
          .act (.signal 1 (.reply (.ok (.reports []))))] ∧
      x.afterwards = [] ∧ x.last.session.registry.has "order" "10.0.0.1:9000" = true := by
  let c : Settings := .sample
  let l : List Report := [⟨⟨"order", "10.0.0.1", 9000⟩, .passing⟩]
  let w0 := World.initial
  let w1 := w0.after c (.act (.call (.instances "order")))
  let w2 := w1.after c (.act (.signal 0 (.reply (.ok (.reports [])))))
  let w3 := w2.after c (.act (.signal 1 .turn))
  let w4 := w3.after c (.change "order" 4 l)
  let w5 := w4.after c (.act (.call (.instances "order")))
  let w6 := w5.after c (.change "order" 5 [])
  let w7 := w6.after c (.act (.signal 1 (.reply (.ok (.indexed 5 [])))))
  let w8 := w7.after c (.act (.signal 1 (.reply (.ok (.reports [])))))
  let w9 := w8.after c (.act (.signal 2 (.reply (.ok (.reports l)))))
  let meanwhile : List (World × Move) :=
    [(w5, .change "order" 5 []), (w6, .act (.signal 1 (.reply (.ok (.indexed 5 []))))),
      (w7, .act (.signal 1 (.reply (.ok (.reports [])))))]
  -- evaluated at one go, since each of them takes all that happened before
  have hfacts :
      ((w1.move c (.act (.signal 0 (.reply (.ok (.reports [])))))).isSome = true ∧
        (w2.move c (.act (.signal 1 .turn))).isSome = true ∧
        (w6.move c (.act (.signal 1 (.reply (.ok (.indexed 5 [])))))).isSome = true ∧
        (w7.move c (.act (.signal 1 (.reply (.ok (.reports [])))))).isSome = true ∧
        (w8.move c (.act (.signal 2 (.reply (.ok (.reports l)))))).isSome = true) ∧
      ((w3.held "order").1 < 4 ∧ (w5.held "order").1 < 5) ∧
      ((w1.held "order").2 = [] ∧ (w5.held "order").2 = l ∧ w6.held "order" = (5, []) ∧
        (w7.held "order").2 = []) ∧
      (w1.session.process? 0 = some (.querying "order") ∧
        w6.session.process? 1 = some (.watch "order" (.querying 0 0)) ∧
        w7.session.process? 1 = some (.watch "order" (.loading 5 [])) ∧
        w5.session.process? 2 = some (.querying "order") ∧
        w8.session.process? 2 = some (.querying "order")) ∧
      World.said "order" "10.0.0.1:9000" meanwhile = some false ∧
      w9.session.registry.has "order" "10.0.0.1:9000" = true := by
    decide +kernel
  obtain ⟨⟨m2, m3, m7, m8, m9⟩, ⟨hrise, hrise'⟩, ⟨hnone, hanswer, hgone, hgone'⟩,
    ⟨hquery, hwatch, hload, hsent, hwaits⟩, hsaid, hhas⟩ := hfacts
  have h1 : w0.move c (.act (.call (.instances "order"))) = some w1 := rfl
  have h2 : w1.move c (.act (.signal 0 (.reply (.ok (.reports []))))) = some w2 :=
    World.move_eq_after m2
  have h3 : w2.move c (.act (.signal 1 .turn)) = some w3 := World.move_eq_after m3
  have h4 : w3.move c (.change "order" 4 l) = some w4 := rfl
  have h5 : w4.move c (.act (.call (.instances "order"))) = some w5 := rfl
  have h6 : w5.move c (.change "order" 5 []) = some w6 := rfl
  have h7 : w6.move c (.act (.signal 1 (.reply (.ok (.indexed 5 []))))) = some w7 :=
    World.move_eq_after m7
  have h8 : w7.move c (.act (.signal 1 (.reply (.ok (.reports []))))) = some w8 :=
    World.move_eq_after m8
  have h9 : w8.move c (.act (.signal 2 (.reply (.ok (.reports l))))) = some w9 :=
    World.move_eq_after m9
  clear_value w9 w8 w7 w6 w5 w4 w3 w2 w1
  rw [← hanswer] at h9
  refine ⟨⟨2, w5, meanwhile, w8, w9, [], w9, hsent, .cons h6 <| .cons h7 <| .cons h8 (.nil w8),
    hwaits, hsaid, h9, .nil w9, nofun⟩, ⟨w0, _, rfl,
      .cons h1 <| .cons h2 <| .cons h3 <| .cons h4 <| .cons h5 (.nil w5), ?_⟩, rfl, rfl, hhas⟩
  intro p hp
  simp only [meanwhile, List.append_nil, List.cons_append, List.nil_append, List.mem_cons,
    List.not_mem_nil, or_false] at hp
  rcases hp with rfl | rfl | rfl | rfl | rfl | rfl | rfl | rfl
  · trivial
  · rintro m (hm | ⟨x, hm⟩)
    · obtain rfl : "order" = m := Process.querying.inj (Option.some.inj (hquery.symm.trans hm))
      exact hnone
    · cases hquery.symm.trans hm
  · trivial
  · exact hrise
  · trivial
  · exact hrise'
  · intro m x hm
    obtain ⟨rfl, -⟩ := Process.watch.inj (Option.some.inj (hwatch.symm.trans hm))
    exact hgone
  · rintro m (hm | ⟨x, hm⟩)
    · cases hload.symm.trans hm
    · obtain ⟨rfl, -⟩ := Process.watch.inj (Option.some.inj (hload.symm.trans hm))
      exact hgone'

end Muster.Probed
