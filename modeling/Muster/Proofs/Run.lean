/-
  Runs of a machine.

  A machine is a partial step function: in a state it can act in some ways, and an act leads to ONE
  state.  A run is kept with its turns — each act together with the state it happened in — so that a
  statement about a run can speak of every state on the way (`Throughout`) and of every act in its
  place, without a second definition of reachability.

  (1) `Run.invariant` — what every turn preserves holds at the end;
  (2) `Run.throughout` — the same, for every state on the way;
  (3) `Run.split` — a run can be cut before and after any of its turns; `Run.append_iff` puts the parts together;
  (4) `Run.history` — what stays true as turns are ADDED holds of a run and its end, so that a statement
      may speak of all that has happened;
  (5) `Run.since_iff` — what some turns raise and others lower is up EXACTLY if it was raised, and not
      lowered since;
  (6) `Run.eq_lastWord` — where each turn says what it changes, the LAST word counts.
-/

namespace Muster

variable {σ α : Type}

/-- **A run** from a state, with its turns, to a state. -/
inductive Run (act : σ → α → Option σ) : σ → List (σ × α) → σ → Prop
  | nil (s : σ) : Run act s [] s
  | cons {s t u : σ} {a : α} {turns : List (σ × α)} :
      act s a = some t → Run act t turns u → Run act s ((s, a) :: turns) u

namespace Run

variable {act : σ → α → Option σ} {s t u : σ} {turns : List (σ × α)}

/-- A single act is a run. -/
theorem single {a : α} (h : act s a = some t) : Run act s [(s, a)] t := .cons h (.nil t)

/-- The turns in which some acts happen, one after the other, as far as they can. -/
def turnsOf (act : σ → α → Option σ) (s : σ) : List α → List (σ × α)
  | [] => []
  | a :: acts => (s, a) :: (act s a).elim [] fun t => turnsOf act t acts

/-- **Acts that can happen one after the other make a run**, and its turns can be computed. -/
theorem turnsOf_run {acts : List α} (h : acts.foldlM act s = some t) :
    Run act s (turnsOf act s acts) t ∧ (turnsOf act s acts).map Prod.snd = acts := by
  induction acts generalizing s with
  | nil => obtain rfl := Option.some.inj h; exact ⟨.nil s, rfl⟩
  | cons a acts ih =>
    obtain ⟨u, hu, h⟩ := Option.bind_eq_some_iff.1 ((List.foldlM_cons ..).symm.trans h)
    obtain ⟨hr, ht⟩ := ih h
    rw [turnsOf, hu, Option.elim_some, List.map_cons, ht]
    exact ⟨.cons hu hr, rfl⟩

/-- Acts that can happen one after the other are the acts of a run. -/
theorem of_foldlM {acts : List α} (h : acts.foldlM act s = some t) :
    ∃ turns, Run act s turns t ∧ turns.map Prod.snd = acts := ⟨_, turnsOf_run h⟩

/-- The same, where only a view of the end is known. -/
theorem of_view {β : Type} {view : σ → β} {b : β} {acts : List α}
    (h : (acts.foldlM act s).map view = some b) :
    ∃ t, Run act s (turnsOf act s acts) t ∧ (turnsOf act s acts).map Prod.snd = acts ∧ view t = b := by
  obtain ⟨t, ht, hb⟩ := Option.map_eq_some_iff.1 h
  obtain ⟨hr, hacts⟩ := turnsOf_run ht
  exact ⟨t, hr, hacts, hb⟩

/-- A run can be cut at any of its turns. -/
theorem split (h : Run act s turns t) {p : σ × α} (mem : p ∈ turns) :
    ∃ front back v, turns = front ++ p :: back ∧ Run act s front p.1 ∧
      act p.1 p.2 = some v ∧ Run act v back t := by
  induction h with
  | nil => cases mem
  | @cons s v _ a turns ha hr ih =>
    rcases List.mem_cons.1 mem with rfl | hp
    · exact ⟨[], turns, v, rfl, .nil _, ha, hr⟩
    · obtain ⟨front, back, w, rfl, hf, hw, hb⟩ := ih hp
      exact ⟨(s, a) :: front, back, w, rfl, .cons ha hf, hw, hb⟩

/-- A run goes on from where another one ends. -/
theorem append_iff {front back : List (σ × α)} :
    Run act s (front ++ back) t ↔ ∃ u, Run act s front u ∧ Run act u back t := by
  induction front generalizing s with
  | nil =>
    refine ⟨fun h => ⟨s, .nil s, h⟩, ?_⟩
    rintro ⟨u, ⟨⟩, h⟩
    exact h
  | cons p front ih =>
    constructor
    · rintro (_ | ⟨ha, h⟩)
      obtain ⟨u, hf, hb⟩ := ih.1 h
      exact ⟨u, .cons ha hf, hb⟩
    · rintro ⟨u, _ | ⟨ha, hf⟩, hb⟩
      exact .cons ha (ih.2 ⟨u, hf, hb⟩)

/-- The turns of a run lead to ONE state. -/
theorem unique (h : Run act s turns t) (g : Run act s turns u) : t = u := by
  induction h with
  | nil => cases g; rfl
  | cons ha _ ih =>
    obtain _ | ⟨hb, g⟩ := g
    obtain rfl := Option.some.inj (ha.symm.trans hb)
    exact ih g

/-- The last turn of a run leads to its end. -/
theorem concat_iff {a : α} :
    Run act s (turns ++ [(u, a)]) t ↔ Run act s turns u ∧ act u a = some t := by
  rw [append_iff]
  constructor
  · rintro ⟨v, hf, _ | ⟨ha, ⟨⟩⟩⟩
    exact ⟨hf, ha⟩
  · rintro ⟨hf, ha⟩
    exact ⟨u, hf, .single ha⟩

/-- **What every turn preserves holds at the end.** -/
theorem invariant (h : Run act s turns t) (inv : σ → Prop) (start : inv s)
    (turn : ∀ p ∈ turns, ∀ v, inv p.1 → act p.1 p.2 = some v → inv v) : inv t := by
  induction h with
  | nil => exact start
  | cons ha _ ih =>
    refine ih (turn _ (List.mem_cons_self ..) _ start ha) fun p hp => ?_
    exact turn p (List.mem_cons_of_mem _ hp)

/-- **A property of every state on a run**, the last one included. -/
def Throughout (prop : σ → Prop) (turns : List (σ × α)) (t : σ) : Prop :=
  (∀ p ∈ turns, prop p.1) ∧ prop t

/-- What every turn preserves holds throughout. -/
theorem throughout (h : Run act s turns t) (inv : σ → Prop) (start : inv s)
    (turn : ∀ p ∈ turns, ∀ v, inv p.1 → act p.1 p.2 = some v → inv v) :
    Throughout inv turns t := by
  refine ⟨fun p hp => ?_, h.invariant inv start turn⟩
  obtain ⟨front, back, v, rfl, hf, -, -⟩ := h.split hp
  exact hf.invariant inv start fun q hq => turn q (List.mem_append_left _ hq)

/-- What holds throughout a run holds at its beginning. -/
theorem Throughout.first {prop : σ → Prop} (hp : Throughout prop turns t) (h : Run act s turns t) :
    prop s := by
  cases h with
  | nil => exact hp.2
  | cons => exact hp.1 _ (List.mem_cons_self ..)

/-- What no turn brings about, if it holds at the end, held throughout. -/
theorem throughout_of_last (h : Run act s turns t) (inv : σ → Prop) (last : inv t)
    (turn : ∀ p ∈ turns, ∀ v, act p.1 p.2 = some v → inv v → inv p.1) :
    Throughout inv turns t := by
  induction h with
  | nil => exact ⟨fun p hp => (nomatch hp), last⟩
  | @cons s u t a turns ha hr ih =>
    -- what holds after the first turn holds before it
    have hrest := ih last fun p hp => turn p (List.mem_cons_of_mem _ hp)
    have hfirst := turn (s, a) (List.mem_cons_self ..) u ha (hrest.first hr)
    refine ⟨fun p hp => ?_, last⟩
    rcases List.mem_cons.1 hp with rfl | hp
    · exact hfirst
    · exact hrest.1 p hp

/-- What holds throughout a run holds after each of its turns. -/
theorem Throughout.after {prop : σ → Prop} (hp : Throughout prop turns t) (h : Run act s turns t)
    {p : σ × α} (mem : p ∈ turns) {v : σ} (hv : act p.1 p.2 = some v) : prop v := by
  obtain ⟨front, back, w, rfl, -, hw, hb⟩ := h.split mem
  obtain rfl : w = v := Option.some.inj (hw.symm.trans hv)
  have hrest : Throughout prop back t := ⟨fun q hq => hp.1 q (by simp [hq]), hp.2⟩
  exact hrest.first hb

/-! ## Histories -/

/-- **What holds of no past, and stays true with every turn that is added**, holds of a run and its
    end. -/
theorem history (h : Run act s turns t) (inv : List (σ × α) → σ → Prop) (start : inv [] s)
    (turn : ∀ past u a v, past ++ [(u, a)] <+: turns → inv past u → act u a = some v →
      inv (past ++ [(u, a)]) v) : inv turns t := by
  -- along the rest of the run, whatever has happened before
  have hrest {u : σ} {back : List (σ × α)} (hr : Run act u back t) :
      ∀ past, past ++ back = turns → inv past u → inv turns t := by
    clear h start
    induction hr with
    | nil =>
      rintro past rfl hp
      rwa [List.append_nil]
    | @cons u v _ a back ha _ ih =>
      intro past hall hp
      have hnext : (past ++ [(u, a)]) ++ back = turns := (List.append_cons ..).symm.trans hall
      exact ih _ hnext (turn past u a v ⟨back, hnext⟩ hp ha)
  exact hrest h [] rfl start

/-- **What some turns raise and none lowers** is up at the end EXACTLY if it was up, or has been raised. -/
theorem ever_iff (h : Run act s turns t) (view : σ → Prop) {raises : σ → α → Prop}
    (turn : ∀ p ∈ turns, ∀ v, act p.1 p.2 = some v → (view v ↔ view p.1 ∨ raises p.1 p.2)) :
    view t ↔ view s ∨ ∃ p ∈ turns, raises p.1 p.2 := by
  induction h with
  | nil => simp
  | cons ha _ ih =>
    rw [ih fun p hp => turn p (List.mem_cons_of_mem _ hp), turn _ (List.mem_cons_self ..) _ ha]
    simp [or_assoc]

/-- **Raised, and not lowered since**: some turn raises it, and none of the later ones lowers it. -/
def Since (raises lowers : σ → α → Prop) (turns : List (σ × α)) : Prop :=
  ∃ front p back, turns = front ++ p :: back ∧ raises p.1 p.2 ∧ ∀ q ∈ back, ¬ lowers q.1 q.2

section Since

variable {raises lowers : σ → α → Prop}

theorem not_since_nil : ¬ Since (σ := σ) raises lowers [] := by
  rintro ⟨front, p, back, h, -⟩
  simp at h

/-- The last turn raised it, or it was up before and the last turn has not lowered it. -/
theorem since_concat {p : σ × α} :
    Since raises lowers (turns ++ [p]) ↔
      raises p.1 p.2 ∨ (Since raises lowers turns ∧ ¬ lowers p.1 p.2) := by
  constructor
  · rintro ⟨front, q, back, h, hq, hback⟩
    rcases List.eq_nil_or_concat back with rfl | ⟨back, r, rfl⟩
    · obtain ⟨-, hpq⟩ := List.append_inj' h rfl
      obtain rfl := List.singleton_inj.1 hpq
      exact .inl hq
    · rw [List.concat_eq_append] at h hback
      obtain ⟨rfl, hpr⟩ := List.append_inj' (h.trans (List.append_assoc front (q :: back) [r]).symm) rfl
      obtain rfl := List.singleton_inj.1 hpr
      exact .inr ⟨⟨front, q, back, rfl, hq, fun x hx => hback x (by simp [hx])⟩, hback p (by simp)⟩
  · rintro (hp | ⟨⟨front, q, back, rfl, hq, hback⟩, hp⟩)
    · exact ⟨turns, p, [], rfl, hp, fun _ hx => nomatch hx⟩
    · refine ⟨front, q, back ++ [p], by simp, hq, fun x hx => ?_⟩
      rcases List.mem_append.1 hx with hx | hx
      · exact hback x hx
      · obtain rfl := List.mem_singleton.1 hx
        exact hp

/-- **What turns raise and lower is up at the end EXACTLY if it was raised, and not lowered since.**  A
    turn that does both raises it. -/
theorem since_iff (h : Run act s turns t) (view : σ → Prop) (start : ¬ view s)
    (turn : ∀ p ∈ turns, ∀ v, act p.1 p.2 = some v →
      (view v ↔ raises p.1 p.2 ∨ (view p.1 ∧ ¬ lowers p.1 p.2))) :
    view t ↔ Since raises lowers turns := by
  refine h.history (fun past u => view u ↔ Since raises lowers past)
    (iff_of_false start not_since_nil) fun past u a v hpast ih ha => ?_
  have hmem : (u, a) ∈ turns := hpast.subset List.mem_concat_self
  rw [since_concat, turn _ hmem v ha, ih]

end Since

end Run

/-! ## The last word -/

/-- **The last word**, if one was said. -/
def lastWord {β : Type} : List (Option β) → Option β
  | [] => none
  | w :: ws => (lastWord ws).or w

/-- What is seen after some words is the last of them, or what was seen before. -/
theorem lastWord_cons_getD {β : Type} (w : Option β) (ws : List (Option β)) (b : β) :
    (lastWord (w :: ws)).getD b = (lastWord ws).getD (w.getD b) := by
  rw [lastWord]
  cases lastWord ws <;> rfl

/-- Nobody has the last word EXACTLY if nothing was said. -/
theorem lastWord_eq_none_iff {β : Type} {ws : List (Option β)} :
    lastWord ws = none ↔ ∀ w ∈ ws, w = none := by
  induction ws with
  | nil => simp [lastWord]
  | cons w ws ih => rw [lastWord, Option.or_eq_none_iff, ih, List.forall_mem_cons, and_comm]

/-- The last word was said, and nothing after it. -/
theorem lastWord_eq_some_iff {β : Type} {ws : List (Option β)} {b : β} :
    lastWord ws = some b ↔ ∃ front back, ws = front ++ some b :: back ∧ ∀ w ∈ back, w = none := by
  induction ws with
  | nil => simp [lastWord]
  | cons w ws ih =>
    rw [lastWord, Option.or_eq_some_iff, ih, lastWord_eq_none_iff]
    constructor
    · rintro (⟨front, back, rfl, hback⟩ | ⟨hback, rfl⟩)
      · exact ⟨w :: front, back, rfl, hback⟩
      · exact ⟨[], ws, rfl, hback⟩
    · rintro ⟨front, back, hsplit, hback⟩
      cases front with
      | nil =>
        obtain ⟨rfl, rfl⟩ := List.cons_eq_cons.1 hsplit
        exact .inr ⟨hback, rfl⟩
      | cons x front =>
        obtain ⟨rfl, rfl⟩ := List.cons_eq_cons.1 hsplit
        exact .inl ⟨front, back, rfl, hback⟩

/-- Where the last word is not that it is so, it is so only if nothing was said, and it was before. -/
theorem getD_eq_true_iff {w : Option Bool} (h : w ≠ some true) (b : Bool) :
    w.getD b = true ↔ w = none ∧ b = true := by
  cases w with
  | none => simp
  | some d =>
    cases d with
    | true => exact absurd rfl h
    | false => simp

/-- Where each of some changes sets what is seen to its word, if it has one, the last word is seen. -/
theorem foldl_lastWord {β δ : Type} (f : σ → δ → σ) (view : σ → β) (word : δ → Option β)
    (h : ∀ s d, view (f s d) = (word d).getD (view s)) (ds : List δ) (s : σ) :
    view (ds.foldl f s) = (lastWord (ds.map word)).getD (view s) := by
  induction ds generalizing s with
  | nil => rfl
  | cons d ds ih => rw [List.foldl_cons, ih, h, List.map_cons, lastWord_cons_getD]

/-- **Along a run the last word counts.** -/
theorem Run.eq_lastWord {act : σ → α → Option σ} {s t : σ} {turns : List (σ × α)}
    (h : Run act s turns t) {β : Type} {view : σ → β} {word : σ → α → Option β}
    (turn : ∀ s a t, act s a = some t → view t = (word s a).getD (view s)) :
    view t = (lastWord (turns.map fun p => word p.1 p.2)).getD (view s) := by
  induction h with
  | nil => rfl
  | cons ha _ ih => rw [ih, turn _ _ _ ha, List.map_cons, lastWord_cons_getD]

end Muster
