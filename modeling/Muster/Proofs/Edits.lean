/-
  What one process can do to the others.

  However a turn is put together, it is a sequence of edits of few kinds: it writes the books that all
  processes share, logs, sends, starts processes, and lets the process whose turn it is go on, return or
  end.  None of these touches another process, or returns in its place.

  (1) `Edits` — what a process leaves behind that goes on only as `next` says, and starts only what `born`
      says;
  (2) `Edits.spares` — every other process is where it was, and has returned what it had returned;
  (3) `Edits.introduces` — whoever is new is one of `next` or of `born`;
  (4) `Edits.requests` — whatever is sent is sent by the process;
  (5) `Edits.orderly` — numbers stay distinct, and whoever has returned is over for good;
  (6) `Upright` — with that, a backend that is being shut down is closed;
  (7) `Unanswered` — a call that waits has not succeeded, whatever the others do.

  THE CRUX: numbers only grow, so a process that is started is none of those that there were.
-/
import Mathlib.Data.List.Nodup
import Muster.Proofs.Books

namespace Muster.Session

variable {ξ π κ : Type}

/-! ## Calls that have returned -/

/-- **The calls that have returned**, each with its outcome, the newest first. -/
def returns (s : Session ξ π κ) : List (Nat × Outcome) :=
  s.journal.filterMap fun
    | .returned id o => some (id, o)
    | _ => none

/-- **Every number stands for one process**: it is given once, and a call that has returned is over. -/
structure Orderly (s : Session ξ π κ) : Prop where
  distinct : (s.processes.map Prod.fst).Nodup
  numbered : s.Numbered
  returned : ∀ q ∈ s.returns, q.1 < s.nextId ∧ s.process? q.1 = none

namespace Orderly

variable {s : Session ξ π κ}

theorem spawn (h : s.Orderly) (p : π) : (s.spawn p).Orderly where
  distinct := by
    have hfresh : s.nextId ∉ s.processes.map Prod.fst := by
      intro hmem
      obtain ⟨q, hq, he⟩ := List.mem_map.1 hmem
      exact absurd (h.numbered q hq) (by omega)
    show ((s.processes ++ [(s.nextId, p)]).map Prod.fst).Nodup
    rw [List.map_append]
    exact h.distinct.append (List.nodup_singleton _) (by simpa using hfresh)
  numbered := h.numbered.spawn p
  returned q hq := by
    obtain ⟨hlt, hnone⟩ := h.returned q hq
    refine ⟨Nat.lt_succ_of_lt hlt, ?_⟩
    rw [process?_spawn, hnone, if_neg (Nat.ne_of_lt hlt)]; rfl

theorem become (h : s.Orderly) (id : Nat) (p : π) : (s.become id p).Orderly where
  distinct := by
    have hsame : (s.become id p).processes.map Prod.fst = s.processes.map Prod.fst := by
      rw [Session.become, List.map_map]
      refine List.map_congr_left fun q _ => ?_
      show (if q.1 = id then (id, p) else q).1 = q.1
      by_cases hq : q.1 = id
      · rw [if_pos hq, hq]
      · rw [if_neg hq]
    rw [hsame]
    exact h.distinct
  numbered := h.numbered.become id p
  returned q hq := by
    obtain ⟨hlt, hnone⟩ := h.returned q hq
    refine ⟨hlt, ?_⟩
    rw [process?_become]
    by_cases hk : q.1 = id
    · rw [if_pos hk, ← hk, hnone]; rfl
    · rw [if_neg hk, hnone]

theorem finish (h : s.Orderly) (id : Nat) : (s.finish id).Orderly where
  distinct := h.distinct.sublist (List.filter_sublist.map _)
  numbered := h.numbered.finish id
  returned q hq := by
    obtain ⟨hlt, hnone⟩ := h.returned q hq
    exact ⟨hlt, by rw [process?_finish, hnone, ite_self]⟩

theorem answer (h : s.Orderly) {id : Nat} (hid : id < s.nextId) (o : Outcome) :
    (s.answer id o).Orderly where
  distinct := (h.finish id).distinct
  numbered := h.numbered.finish id
  returned q hq := by
    rcases List.mem_cons.1 hq with rfl | hq
    · exact ⟨hid, by rw [(answer_books ..).2.2.2.1, process?_finish, if_pos rfl]⟩
    · exact (h.finish id).returned q hq

/-- A call that returns at once was never a process. -/
theorem instant (h : s.Orderly) (o : Outcome) : (s.instant o).Orderly where
  distinct := h.distinct
  numbered q hq := Nat.lt_succ_of_lt (h.numbered q hq)
  returned q hq := by
    rcases List.mem_cons.1 hq with rfl | hq
    · exact ⟨Nat.lt_succ_self _, h.numbered.process?_nextId⟩
    · obtain ⟨hlt, hnone⟩ := h.returned q hq
      exact ⟨Nat.lt_succ_of_lt hlt, hnone⟩

/-- A number in use is smaller than the next. -/
theorem lt_nextId (h : s.Orderly) {k : Nat} {p : π} (hk : s.process? k = some p) : k < s.nextId := by
  rcases Nat.lt_or_ge k s.nextId with hlt | hge
  · exact hlt
  · rw [numbered_iff.1 h.numbered k hge] at hk
    cases hk

/-- Whoever has a number is found there. -/
theorem process?_of_mem (h : s.Orderly) {k : Nat} {p : π} (hp : (k, p) ∈ s.processes) :
    s.process? k = some p := by
  have hall (l : List (Nat × π)) (hd : (l.map Prod.fst).Nodup) (hm : (k, p) ∈ l) :
      l.lookup k = some p := by
    induction l with
    | nil => cases hm
    | cons q l ih =>
      obtain ⟨hq, hl⟩ := List.nodup_cons.1 hd
      rcases List.mem_cons.1 hm with rfl | hm
      · simp
      · have hne : k ≠ q.1 := fun he => hq (he ▸ List.mem_map.2 ⟨_, hm, rfl⟩)
        rw [List.lookup_cons, beq_eq_false_iff_ne.2 hne]
        exact ih hl hm
  exact hall s.processes h.distinct hp

/-- Some process is of a kind EXACTLY when it is found under some number. -/
theorem any_iff (h : s.Orderly) (f : π → Bool) :
    (s.processes.any fun q => f q.2) = true ↔ ∃ k p, s.process? k = some p ∧ f p = true := by
  rw [List.any_eq_true]
  constructor
  · rintro ⟨⟨k, p⟩, hm, hf⟩
    exact ⟨k, p, h.process?_of_mem hm, hf⟩
  · rintro ⟨k, p, hp, hf⟩
    exact ⟨(k, p), mem_of_process? hp, hf⟩

end Orderly

/-! ## Edits -/

/-- **The edits of one process**, which goes on only as `next` says, and starts only what `born` says.  A
    number that is not in use yet cannot have been answered. -/
inductive Edits (id : Nat) (next born : π → Prop) (s : Session ξ π κ) : Session ξ π κ → Prop
  | refl : Edits id next born s s
  /-- The books of all processes are written. -/
  | write {t : Session ξ π κ} (f : Flags) (r : Registry) (o : ξ) : Edits id next born s t →
      Edits id next born s { t with flags := f, registry := r, own := o }
  | note {t : Session ξ π κ} (l : Logging.Line) : Edits id next born s t →
      Edits id next born s (t.note l)
  | spawn {t : Session ξ π κ} {p : π} : born p → Edits id next born s t →
      Edits id next born s (t.spawn p)
  | become {t : Session ξ π κ} {p : π} : next p → Edits id next born s t →
      Edits id next born s (t.become id p)
  | request {t : Session ξ π κ} (r : κ) : Edits id next born s t →
      Edits id next born s { t with journal := .request id r :: t.journal }
  | finish {t : Session ξ π κ} : Edits id next born s t → Edits id next born s (t.finish id)
  | answer {t : Session ξ π κ} (o : Outcome) : id < s.nextId → Edits id next born s t →
      Edits id next born s (t.answer id o)
  | instant {t : Session ξ π κ} (o : Outcome) : Edits id next born s t →
      Edits id next born s (t.instant o)

/-- **Every other process is spared.** -/
structure Spares (id : Nat) (s t : Session ξ π κ) : Prop where
  nextId : s.nextId ≤ t.nextId
  process? : ∀ k, k < s.nextId → k ≠ id → t.process? k = s.process? k
  returns : ∀ k, k < s.nextId → k ≠ id → ∀ o, (k, o) ∈ t.returns ↔ (k, o) ∈ s.returns

namespace Edits

variable {s t u : Session ξ π κ} {id : Nat} {next born : π → Prop}

/-! ### Edits that are made of others -/

theorem notes (h : Edits id next born s t) (ls : List Logging.Line) :
    Edits id next born s (t.notes ls) := by
  unfold Session.notes
  induction ls generalizing t with
  | nil => exact h
  | cons l ls ih => exact ih (h.note l)

theorem setDegraded (h : Edits id next born s t) (b : Bool) :
    Edits id next born s (t.setDegraded b) := by
  have hw := h.write { t.flags with degraded := b } t.registry t.own
  unfold Session.setDegraded
  split
  · exact hw
  · exact hw.note _

theorem setWatching (h : Edits id next born s t) (b : Bool) :
    Edits id next born s (t.setWatching b) :=
  h.write { t.flags with watching := b } t.registry t.own

theorem setRegistered (h : Edits id next born s t) (b : Bool) :
    Edits id next born s (t.setRegistered b) :=
  h.write { t.flags with registered := b } t.registry t.own

theorem ask (h : Edits id next born s t) (r : κ) {p : π} (hp : next p) :
    Edits id next born s (t.ask id r p) :=
  (h.become hp).request r

theorem insertNoted (h : Edits id next born s t) (name shown : String) (i : Instance) :
    Edits id next born s (t.insertNoted name shown i) := by
  have hw := h.write t.flags (t.registry.insert name i) t.own
  unfold Session.insertNoted
  split
  · exact hw
  · exact hw.note _

theorem eraseNoted (h : Edits id next born s t) (name : String) (i : Instance)
    (l : Logging.Line) : Edits id next born s (t.eraseNoted name i l) := by
  have hw := h.write t.flags (t.registry.erase name i.endpoint) t.own
  unfold Session.eraseNoted
  split
  · exact hw.note l
  · exact hw

/-- A call that begins with a request takes the number that was next. -/
theorem begin (h : Edits t.nextId next born s t) (r : κ) {p : π} (hp : born p) (hn : next p) :
    Edits t.nextId next born s (t.begin r p) :=
  (h.spawn hp).ask r hn

/-! ### What edits leave alone -/

theorem nextId_le (h : Edits id next born s t) : s.nextId ≤ t.nextId := by
  induction h with
  | refl => exact Nat.le_refl _
  | spawn _ _ ih | instant _ _ ih => exact Nat.le_succ_of_le ih
  | _ => assumption

theorem closed_eq (h : Edits id next born s t) : t.closed = s.closed := by
  induction h with
  | refl => rfl
  | _ => assumption

/-- **Every other process is spared.** -/
theorem spares (h : Edits id next born s t) : Spares id s t where
  nextId := h.nextId_le
  process? k hk hne := by
    induction h with
    | refl => rfl
    | spawn _ g ih =>
      have hlt := g.nextId_le
      rw [process?_spawn, if_neg (by omega), Option.or_none, ih]
    | become _ _ ih => rw [process?_become, if_neg hne, ih]
    | finish _ ih | answer _ _ _ ih =>
      exact (process?_finish _ id k).trans ((if_neg hne).trans ih)
    | write _ _ _ _ ih | note _ _ ih | request _ _ ih | instant _ _ ih => exact ih
  returns k hk hne o := by
    -- only the number that has its turn returns, or one that was not in use
    have hcons {l : List (Nat × Outcome)} {q : Nat × Outcome} (hq : k ≠ q.1) :
        (k, o) ∈ q :: l ↔ (k, o) ∈ l := by
      rw [List.mem_cons, or_iff_right fun he => hq (congrArg Prod.fst he)]
    induction h with
    | refl => rfl
    | answer _ _ _ ih => exact (hcons hne).trans ih
    | instant _ g ih =>
      have hlt := g.nextId_le
      exact (hcons (Nat.ne_of_lt (Nat.lt_of_lt_of_le hk hlt))).trans ih
    | write _ _ _ _ ih | note _ _ ih | spawn _ _ ih | become _ _ ih | request _ _ ih
    | finish _ ih => exact ih

/-- **Whoever is new is accounted for**: the process itself goes on so, or it is started. -/
theorem introduces (h : Edits id next born s t) {k : Nat} {q : π} (hq : t.process? k = some q) :
    s.process? k = some q ∨ (k = id ∧ next q) ∨ (s.nextId ≤ k ∧ born q) := by
  induction h with
  | refl => exact .inl hq
  | @spawn t p hp g ih =>
    rw [process?_spawn, Option.or_eq_some_iff] at hq
    rcases hq with hq | ⟨-, hq⟩
    · exact ih hq
    · split at hq
      · rename_i hk
        obtain rfl := Option.some.inj hq
        exact .inr (.inr ⟨hk ▸ g.nextId_le, hp⟩)
      · cases hq
  | @become t p hp _ ih =>
    rw [process?_become] at hq
    split at hq
    · rename_i hk
      obtain ⟨r, -, rfl⟩ := Option.map_eq_some_iff.1 hq
      exact .inr (.inl ⟨hk, hp⟩)
    · exact ih hq
  | @finish t _ ih | @answer t _ _ _ ih =>
    replace hq : (t.finish id).process? k = some q := hq
    rw [process?_finish] at hq
    split at hq
    · cases hq
    · exact ih hq
  | write _ _ _ _ ih | note _ _ ih | request _ _ ih | instant _ _ ih => exact ih hq

/-- **Whatever is sent is sent by the process.** -/
theorem requests (h : Edits id next born s t) :
    ∃ l, t.requests = l ++ s.requests ∧ ∀ q ∈ l, q.1 = id := by
  induction h with
  | refl => exact ⟨[], rfl, fun _ hq => nomatch hq⟩
  | request r _ ih =>
    obtain ⟨l, hl, hid⟩ := ih
    refine ⟨(id, r) :: l, ?_, List.forall_mem_cons.2 ⟨rfl, hid⟩⟩
    rw [List.cons_append, ← hl]
    rfl
  | _ => assumption

/-- **Numbers stay in order.** -/
theorem orderly (h : Edits id next born s t) (hs : s.Orderly) : t.Orderly := by
  induction h with
  | refl => exact hs
  | spawn _ _ ih => exact ih.spawn _
  | become _ _ ih => exact ih.become id _
  | finish _ ih => exact ih.finish id
  | answer o hlt g ih => exact ih.answer (Nat.lt_of_lt_of_le hlt g.nextId_le) o
  | instant o _ ih => exact ih.instant o
  | write _ _ _ _ ih | note _ _ ih | request _ _ ih =>
    exact ⟨ih.distinct, ih.numbered, ih.returned⟩

end Edits

/-! ## Shutdowns -/

/-- **Numbers are in order, and a backend that is being shut down is closed.** -/
structure Upright (closing : π) (s : Session ξ π κ) : Prop where
  orderly : s.Orderly
  shut : ∀ k, s.process? k = some closing → s.closed = true

namespace Upright

variable {s t : Session ξ π κ} {closing : π}

theorem initial (o : ξ) : Upright (π := π) (κ := κ) closing { own := o } where
  orderly := ⟨List.nodup_nil, (fun _ hq => nomatch hq), fun _ hq => nomatch hq⟩
  shut _ hp := nomatch hp

theorem close (h : s.Upright closing) : s.close.Upright closing where
  orderly := ⟨h.orderly.distinct, h.orderly.numbered, h.orderly.returned⟩
  shut _ _ := rfl

/-- Nobody starts a shutdown but by shutting down. -/
theorem edits (h : s.Upright closing) {id : Nat} {next born : π → Prop}
    (g : Edits id next born s t) (hnext : ¬ next closing) (hborn : ¬ born closing) :
    t.Upright closing where
  orderly := g.orderly h.orderly
  shut k hk := by
    rw [g.closed_eq]
    rcases g.introduces hk with hk | ⟨-, hn⟩ | ⟨-, hb⟩
    · exact h.shut k hk
    · exact absurd hn hnext
    · exact absurd hb hborn

/-- A shutdown closes the backend first. -/
theorem shutdown (h : s.Upright closing) :
    Spares s.nextId s (s.close.spawn closing) ∧ (s.close.spawn closing).Upright closing := by
  have he : Edits s.nextId (fun _ => True) (fun _ => True) s.close (s.close.spawn closing) :=
    Edits.refl.spawn trivial
  have hs := he.spares
  exact ⟨⟨hs.nextId, hs.process?, hs.returns⟩, he.orderly h.close.orderly, fun _ _ => rfl⟩

/-- Whoever is no longer waited for is over. -/
theorem abandon (h : s.Upright closing) (id : Nat) :
    Spares id s (s.finish id) ∧ (s.finish id).Upright closing := by
  have he : Edits id (fun _ => False) (fun _ => False) s (s.finish id) := Edits.refl.finish
  exact ⟨he.spares, h.edits he not_false not_false⟩

end Upright

theorem Spares.close (id : Nat) (s : Session ξ π κ) : Spares id s s.close :=
  ⟨Nat.le_refl _, fun _ _ _ => rfl, fun _ _ _ _ => Iff.rfl⟩

/-! ## Calls that wait -/

/-- **A call has not succeeded**: it is still the process that it was, or over without a success. -/
structure Unanswered (k : Nat) (p : π) (s : Session ξ π κ) : Prop where
  number : k < s.nextId
  process : ∀ q, s.process? k = some q → q = p
  unsaid : (k, .status (.ok ())) ∉ s.returns

namespace Unanswered

variable {s t : Session ξ π κ} {k id : Nat} {p : π}

/-- A call that begins has not succeeded. -/
theorem begin (h : s.Orderly) (r : κ) : (s.begin r p).Unanswered s.nextId p where
  number := Nat.lt_succ_self _
  process q hq := by
    rw [(begin_books s r p).2.2.2.1, process?_become, if_pos rfl] at hq
    obtain ⟨-, -, rfl⟩ := Option.map_eq_some_iff.1 hq
    rfl
  unsaid hmem := absurd (h.returned _ hmem).1 (Nat.lt_irrefl _)

theorem spares (h : s.Unanswered k p) (g : Spares id s t) (hk : k ≠ id) : t.Unanswered k p where
  number := Nat.lt_of_lt_of_le h.number g.nextId
  process q hq := h.process q (by rwa [← g.process? k h.number hk])
  unsaid hmem := h.unsaid ((g.returns k h.number hk _).1 hmem)

/-- Nobody waits for it any more. -/
theorem abandon (h : s.Unanswered k p) : (s.finish k).Unanswered k p where
  number := h.number
  process q hq := by
    rw [process?_finish, if_pos rfl] at hq
    cases hq
  unsaid := h.unsaid

theorem fail (h : s.Unanswered k p) (f : Failure) : (s.fail k f).Unanswered k p where
  number := h.number
  process := h.abandon.process
  unsaid hmem := by
    rcases List.mem_cons.1 hmem with he | hmem
    · cases he
    · exact h.unsaid hmem

end Unanswered

end Muster.Session
