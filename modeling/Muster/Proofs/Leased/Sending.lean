/-
  Who sends what, and who is told what.

  A backend keeps the requests of all its processes in one list, and the acts of a run are delivered to all
  of them.  A statement about ONE process needs its own share of both.

  (1) `Settings.sent`, `Settings.sentBy` — what is sent in an act, and by one process along a run;
  (2) `told` — the signals that one process gets along a run;
  (3) `sent_act` — in an act nobody sends but the process that acts (`Act.number`).
-/
import Muster.Proofs.Leased.Edits

namespace Muster.Leased

/-- **What is sent in an act**, each request with its process, in order. -/
def Settings.sent (c : Settings) (s : State) (a : Act) : List (Nat × Request) :=
  match c.act s a with
  | some t => (t.requests.take (t.requests.length - s.requests.length)).reverse
  | none => []

/-- What one process sends along a run, in order. -/
def Settings.sentBy (c : Settings) (id : Nat) (turns : List (State × Act)) : List Request :=
  turns.flatMap fun p => ((c.sent p.1 p.2).filter fun q => q.1 == id).map Prod.snd

/-- The signal that an act is to a process. -/
def Act.told? (id : Nat) : Act → Option (Signal Reply Item)
  | .signal k sig => if k = id then some sig else none
  | _ => none

/-- What one process is told along a run, in order. -/
def told (id : Nat) (turns : List (State × Act)) : List (Signal Reply Item) :=
  (turns.map Prod.snd).filterMap (Act.told? id)

section Acts

variable {c : Settings} {s t : State} {a : Act} {id : Nat} {turns : List (State × Act)}

/-- What is sent is what the requests have grown by. -/
theorem sent_eq (h : c.act s a = some t) {l : List (Nat × Request)}
    (ht : t.requests = l ++ s.requests) : c.sent s a = l.reverse := by
  rw [Settings.sent, h]
  simp only [ht, List.length_append, Nat.add_sub_cancel, List.take_left]

/-- **Nobody sends but the process that acts.** -/
theorem sent_act (h : c.act s a = some t) (hs : s.Upright .closing) :
    ∀ q ∈ c.sent s a, q.1 = a.number s := by
  have hgrown : ∃ l, t.requests = l ++ s.requests ∧ ∀ q ∈ l, q.1 = a.number s := by
    have hsame (ht : t.requests = s.requests) :
        ∃ l, t.requests = l ++ s.requests ∧ ∀ q ∈ l, q.1 = a.number s :=
      ⟨[], ht, fun _ hq => nomatch hq⟩
    cases a with
    | call k =>
      obtain rfl := Option.some.inj h
      by_cases hk : k = .shutdown
      · subst hk
        exact hsame rfl
      · exact (c.edits_call s hk).requests
    | signal id sig =>
      obtain ⟨p, hp, hturn⟩ := Settings.turn h
      exact (hturn.edits (hs.orderly.lt_nextId hp)).requests
    | abandon id =>
      obtain ⟨-, -, -, rfl⟩ := Settings.act_abandon_iff.1 h
      exact hsame rfl
    | drop =>
      obtain rfl := Option.some.inj h
      exact hsame rfl
  obtain ⟨l, hl, hid⟩ := hgrown
  intro q hq
  rw [sent_eq h hl, List.mem_reverse] at hq
  exact hid q hq

/-! ## Runs -/

theorem told_concat (turns : List (State × Act)) (s : State) (a : Act) :
    told id (turns ++ [(s, a)]) = told id turns ++ (a.told? id).toList := by
  rw [told, List.map_append, List.filterMap_append]
  show told id turns ++ [a].filterMap (Act.told? id) = _
  rw [List.filterMap_cons, List.filterMap_nil]
  cases a.told? id <;> rfl

theorem sentBy_concat (turns : List (State × Act)) (s : State) (a : Act) :
    c.sentBy id (turns ++ [(s, a)]) =
      c.sentBy id turns ++ ((c.sent s a).filter fun q => q.1 == id).map Prod.snd := by
  rw [Settings.sentBy, List.flatMap_append, List.flatMap_singleton]
  rfl

/-- Whoever is not the one that acts is told nothing. -/
theorem told?_of_ne (h : a.number s ≠ id) : a.told? id = none := by
  cases a with
  | signal k sig => exact if_neg h
  | _ => rfl

/-- Whoever is not the one that acts sends nothing. -/
theorem sentBy_concat_of_ne (turns : List (State × Act)) (h : c.act s a = some t)
    (hs : s.Upright .closing) (hne : a.number s ≠ id) : c.sentBy id (turns ++ [(s, a)]) = c.sentBy id turns := by
  have hnone : (c.sent s a).filter (fun q => q.1 == id) = [] := by
    rw [List.filter_eq_nil_iff]
    intro q hq he
    rw [beq_iff_eq, sent_act h hs q hq] at he
    exact hne he
  rw [sentBy_concat, hnone, List.map_nil, List.append_nil]

/-- What the requests have grown by was sent by the process whose requests they are. -/
theorem sentBy_concat_self (turns : List (State × Act)) (h : c.act s a = some t)
    {more : List Request}
    (ht : t.requests = (more.map (Prod.mk id)).reverse ++ s.requests) :
    c.sentBy id (turns ++ [(s, a)]) = c.sentBy id turns ++ more := by
  rw [sentBy_concat, sent_eq h ht, List.reverse_reverse]
  have hall : (more.map (Prod.mk id)).filter (fun q => q.1 == id) = more.map (Prod.mk id) := by
    rw [List.filter_eq_self]
    intro q hq
    obtain ⟨r, -, rfl⟩ := List.mem_map.1 hq
    exact beq_self_eq_true id
  rw [hall, List.map_map]
  exact congrArg (c.sentBy id turns ++ ·) (List.map_id more)

end Acts

end Muster.Leased
