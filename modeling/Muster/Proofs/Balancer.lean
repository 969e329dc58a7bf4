/-
  A client holds what its balancer believes.

  The client of a balancer knows nothing but the changes that it is sent; what it HOLDS is their replay
  (`held`), from nothing.  The balancer keeps a book of it, `current`, which it moves change by change;
  and an update may stop anywhere, at an address that cannot be dialled or at a client that is gone.

  (1) `Kept` — the book is the replay, and every change was of use when it was sent: no address came
      that was held, and none was taken that was not;
  (2) `Kept.insertAll`, `Kept.removeAll` — both loops keep this, WHEREVER they stop;
  (3) `Update.failure_iff` — an update succeeds exactly when every new address can be dialled and the
      client takes every change;
  (4) `balancer_truthful` — hence, after any updates, book and client agree, and right after one that
      succeeded they are what it asked for, whatever failed before.

  THE CRUX is that the differences are taken of the book, and that an address which is new stays new
  until its own change is sent: each address stands in a difference only once.
-/
import Mathlib.Data.Finset.Dedup
import Mathlib.Data.Finset.Insert
import Mathlib.Data.Finset.Erase
import Muster.Proofs.Run
import Muster.Resolver.Balancer

namespace Muster

/-! ## What a client holds -/

/-- What a client holds after one more change. -/
def Change.after (held : Finset String) : Change → Finset String
  | insert a _ => Insert.insert a held
  | remove a => held.erase a

/-- **A change is of use** to a client that holds some addresses: it brings one that is not held, or
    takes one that is. -/
def Change.OfUse (held : Finset String) : Change → Prop
  | insert a _ => a ∉ held
  | remove a => a ∈ held

namespace Balancer

/-- **What a client holds** once it was sent some changes, from nothing. -/
def held (sent : List Change) : Finset String := sent.foldl Change.after ∅

/-- Every change was of use when it was sent. -/
def Sound (sent : List Change) : Prop :=
  ∀ front ch back, sent = front ++ ch :: back → ch.OfUse (held front)

theorem held_snoc (sent : List Change) (ch : Change) : held (sent ++ [ch]) = ch.after (held sent) := by
  rw [held, List.foldl_append]; rfl

theorem sound_nil : Sound [] := by
  intro front ch back h
  have hlen := congrArg List.length h
  simp at hlen

/-- One more change is of use if it is to what is held by then. -/
theorem Sound.snoc {sent : List Change} (h : Sound sent) {ch : Change} (hc : ch.OfUse (held sent)) :
    Sound (sent ++ [ch]) := by
  intro front c back he
  rcases List.eq_nil_or_concat back with rfl | ⟨back, d, rfl⟩
  · -- it is the last one
    obtain ⟨rfl, hlast⟩ := List.append_inj' he rfl
    obtain rfl := List.singleton_inj.1 hlast
    exact hc
  · have hsplit : sent ++ [ch] = (front ++ c :: back) ++ [d] := by simpa using he
    obtain ⟨hs, -⟩ := List.append_inj' hsplit rfl
    exact h front c back hs

/-! ## Differences -/

theorem mem_difference {a b : List String} {x : String} : x ∈ difference a b ↔ x ∈ a ∧ x ∉ b := by
  simp [difference]

theorem nodup_eraseDups : ∀ l : List String, l.eraseDups.Nodup
  | [] => List.nodup_nil
  | a :: l => by
    rw [List.eraseDups_cons, List.nodup_cons]
    exact ⟨by simp, nodup_eraseDups _⟩
termination_by l => l.length
decreasing_by exact Nat.lt_succ_of_le (List.length_filter_le ..)

/-- An address stands in a difference only once. -/
theorem nodup_difference (a b : List String) : (difference a b).Nodup := nodup_eraseDups _

/-! ## The loops -/

/-- **The book is what the client holds**, and it was sent nothing in vain: after the changes of earlier
    updates, and those of this one so far. -/
structure Kept (before : List Change) (r : Result) : Prop where
  current : r.balancer.current.toFinset = held (before ++ r.sent)
  sound : Sound (before ++ r.sent)

namespace Kept

variable {before : List Change} {r : Result} {ch : Channel} {as : List String}

/-- Why an update stopped is no matter. -/
theorem fails (h : Kept before r) (f : Option Failure) : Kept before { r with failure := f } :=
  ⟨h.current, h.sound⟩

/-- **A change that is sent is booked.** -/
theorem sends (h : Kept before r) {c : Change} {current : List String} (ls : List Logging.Line)
    (hc : c.OfUse r.balancer.current.toFinset)
    (hbook : current.toFinset = c.after r.balancer.current.toFinset) :
    Kept before { r with
      balancer := { r.balancer with current := current }, sent := r.sent ++ [c], lines := ls } := by
  rw [h.current] at hc hbook
  constructor
  · show current.toFinset = held (before ++ (r.sent ++ [c]))
    rw [← List.append_assoc, held_snoc, hbook]
  · show Sound (before ++ (r.sent ++ [c]))
    rw [← List.append_assoc]
    exact h.sound.snoc hc

/-- **Insertions keep the book**, wherever they stop. -/
theorem insertAll (h : Kept before r) (hn : as.Nodup) (hnew : ∀ a ∈ as, a ∉ r.balancer.current) :
    Kept before (insertAll ch as r) := by
  induction as generalizing r with
  | nil => exact h
  | cons a as ih =>
    obtain ⟨ha, hn⟩ := List.nodup_cons.1 hn
    obtain ⟨hanew, hnew⟩ := List.forall_mem_cons.1 hnew
    unfold Balancer.insertAll
    split
    · exact h.fails _
    · split
      · refine ih (h.sends _ ?_ ?_) hn fun x hx => ?_
        · simpa [Change.OfUse] using hanew
        · ext x
          simp only [Change.after, List.mem_toFinset, List.mem_append, List.mem_singleton,
            Finset.mem_insert]
          exact or_comm
        · -- the others are still new: they are not this one
          have hne : x ≠ a := fun he => ha (he ▸ hx)
          simpa [hne] using hnew x hx
      · exact h.fails _

/-- **Removals keep the book**, wherever they stop. -/
theorem removeAll (h : Kept before r) (hn : as.Nodup) (hold : ∀ a ∈ as, a ∈ r.balancer.current) :
    Kept before (removeAll ch as r) := by
  induction as generalizing r with
  | nil => exact h
  | cons a as ih =>
    obtain ⟨ha, hn⟩ := List.nodup_cons.1 hn
    obtain ⟨haold, hold⟩ := List.forall_mem_cons.1 hold
    unfold Balancer.removeAll
    split
    · refine ih (h.sends _ ?_ ?_) hn fun x hx => ?_
      · simpa [Change.OfUse] using haold
      · ext x
        simp [Change.after, and_comm]
      · have hne : x ≠ a := fun he => ha (he ▸ hx)
        simpa [hne] using hold x hx
    · exact h.fails _

end Kept

variable {ch : Channel} {a : String} {as : List String} {r : Result}

/-- Whether an address can be dialled. -/
def Channel.dials (ch : Channel) (a : String) : Bool := (ch.url a).isOk

theorem Channel.dials_of_ok {url : String} (h : ch.url a = .ok url) : ch.dials a = true := by
  rw [dials, h]; rfl

theorem Channel.dials_of_error {reason : String} (h : ch.url a = .error reason) : ch.dials a = false := by
  rw [dials, h]; rfl

/-- The client takes every change from the `m`-th to the one before the `n`-th. -/
def Channel.TakesAll (ch : Channel) (m n : Nat) : Prop := ∀ k, m ≤ k → k < n → ch.takes k = true

theorem Channel.takesAll_succ {ch : Channel} {m n : Nat} (h : m < n) :
    ch.TakesAll m n ↔ ch.takes m = true ∧ ch.TakesAll (m + 1) n := by
  constructor
  · intro hall
    exact ⟨hall m (Nat.le_refl m) h, fun k hm hn => hall k (by omega) hn⟩
  · rintro ⟨hm, hall⟩ k hk hn
    rcases Nat.eq_or_lt_of_le hk with rfl | hlt
    · exact hm
    · exact hall k hlt hn

theorem Channel.TakesAll.append {ch : Channel} {k m n : Nat} (h : ch.TakesAll k m) (g : ch.TakesAll m n) :
    ch.TakesAll k n := by
  intro i hk hn
  rcases Nat.lt_or_ge i m with hlt | hge
  · exact h i hk hlt
  · exact g i hge hn

/-- **Insertions go through** exactly when every address can be dialled and every change is taken. -/
theorem insertAll_failure_iff (hr : r.failure = none) :
    (insertAll ch as r).failure = none ↔
      (∀ a ∈ as, ch.dials a = true) ∧ ch.TakesAll r.sent.length (r.sent.length + as.length) := by
  induction as generalizing r with
  | nil =>
    have hnone : ch.TakesAll r.sent.length (r.sent.length + 0) := fun k hm hn => by omega
    simpa [insertAll, hr] using hnone
  | cons a as ih =>
    have hlt : r.sent.length < r.sent.length + (as.length + 1) := by omega
    rw [List.forall_mem_cons, List.length_cons, Channel.takesAll_succ hlt]
    unfold insertAll
    cases hu : ch.url a with
    | error reason => simp [Channel.dials_of_error hu]
    | ok url =>
      rw [Channel.dials_of_ok hu]
      cases ht : ch.takes r.sent.length with
      | false => simp
      | true =>
        have hsum : r.sent.length + 1 + as.length = r.sent.length + (as.length + 1) := by omega
        simp only [if_true, true_and]
        refine (ih (by exact hr)).trans ?_
        rw [List.length_append, List.length_singleton, hsum]

/-- Insertions that went through have brought every address, with a change for each. -/
theorem insertAll_done (h : (insertAll ch as r).failure = none) :
    (insertAll ch as r).balancer.current = r.balancer.current ++ as ∧
      (insertAll ch as r).sent.length = r.sent.length + as.length := by
  induction as generalizing r with
  | nil => simp [insertAll]
  | cons a as ih =>
    unfold insertAll at h ⊢
    cases hu : ch.url a with
    | error reason => simp [hu] at h
    | ok url =>
      rw [hu] at h
      dsimp only at h ⊢
      split at h
      · rename_i ht
        rw [if_pos ht]
        obtain ⟨hc, hs⟩ := ih h
        refine ⟨hc.trans (by simp), hs.trans ?_⟩
        rw [List.length_append, List.length_singleton, List.length_cons]
        omega
      · cases h

/-- **Removals go through** exactly when every change is taken. -/
theorem removeAll_failure_iff (hr : r.failure = none) :
    (removeAll ch as r).failure = none ↔
      ch.TakesAll r.sent.length (r.sent.length + as.length) := by
  induction as generalizing r with
  | nil =>
    have hnone : ch.TakesAll r.sent.length (r.sent.length + 0) := fun k hm hn => by omega
    simpa [removeAll, hr] using hnone
  | cons a as ih =>
    have hlt : r.sent.length < r.sent.length + (as.length + 1) := by omega
    rw [List.length_cons, Channel.takesAll_succ hlt]
    unfold removeAll
    cases ht : ch.takes r.sent.length with
    | false => simp
    | true =>
      have hsum : r.sent.length + 1 + as.length = r.sent.length + (as.length + 1) := by omega
      simp only [if_true, true_and]
      refine (ih (by exact hr)).trans ?_
      rw [List.length_append, List.length_singleton, hsum]

/-- Removals that went through have taken every address. -/
theorem removeAll_done (h : (removeAll ch as r).failure = none) :
    (removeAll ch as r).balancer.current = r.balancer.current.filter fun x => !as.contains x := by
  induction as generalizing r with
  | nil => simp [removeAll]
  | cons a as ih =>
    unfold removeAll at h ⊢
    split at h
    · rename_i ht
      rw [if_pos ht, ih h, List.filter_filter]
      refine List.filter_congr fun x _ => ?_
      by_cases hx : x = a <;> simp [hx]
    · cases h

/-! ## Updates -/

/-- **An update as it may be asked for**: of any channel, in any order. -/
structure Update where
  channel : Channel
  /-- The order in which differences are sent. -/
  order : List String → List String
  /-- An order loses no address, and repeats none. -/
  perm : ∀ l, (order l).Perm l
  /-- The addresses that the client shall hold. -/
  next : List String

/-- What an update does. -/
def Update.result (u : Update) (b : Balancer) : Result := b.update u.channel u.order u.next

/-- A balancer, and the changes that it has sent in all updates. -/
structure Told where
  balancer : Balancer
  sent : List Change := []

namespace Told

/-- After one more update. -/
def after (t : Told) (u : Update) : Told :=
  ⟨(u.result t.balancer).balancer, t.sent ++ (u.result t.balancer).sent⟩

/-- Updating, as the act of a machine: it can always happen. -/
def act (t : Told) (u : Update) : Option Told := some (t.after u)

end Told

namespace Update

variable (u : Update) (b : Balancer)

/-- The insertions of an update. -/
def inserted : Result :=
  insertAll u.channel (u.order (difference u.next b.current)) { balancer := b }

theorem result_eq :
    u.result b = match (u.inserted b).failure with
      | some _ => u.inserted b
      | none => removeAll u.channel (u.order (difference b.current u.next)) (u.inserted b) := rfl

variable {u b}

/-- **An update keeps the book**, however it ends. -/
theorem kept {before : List Change} (h : b.current.toFinset = held before) (hs : Sound before) :
    Kept before (u.result b) := by
  have hstart : Kept before { balancer := b } := ⟨by simpa using h, by simpa using hs⟩
  have hins : Kept before (u.inserted b) := by
    refine hstart.insertAll ((u.perm _).nodup_iff.2 (nodup_difference ..)) fun a ha => ?_
    exact (mem_difference.1 ((u.perm _).mem_iff.1 ha)).2
  rw [result_eq]
  cases hf : (u.inserted b).failure with
  | some f => exact hins
  | none =>
    refine hins.removeAll ((u.perm _).nodup_iff.2 (nodup_difference ..)) fun a ha => ?_
    have hold := (mem_difference.1 ((u.perm _).mem_iff.1 ha)).1
    rw [inserted, (insertAll_done hf).1]
    exact List.mem_append_left _ hold

/-- **An update that succeeds** leaves the balancer with what was asked for. -/
theorem current_of_success (h : (u.result b).failure = none) :
    (u.result b).balancer.current.toFinset = u.next.toFinset := by
  rw [result_eq] at h ⊢
  cases hf : (u.inserted b).failure with
  | some f =>
    rw [hf] at h
    cases hf.symm.trans h
  | none =>
    rw [hf] at h
    dsimp only at h ⊢
    rw [removeAll_done h, inserted, (insertAll_done hf).1]
    ext x
    simp only [List.mem_toFinset, List.mem_filter, List.mem_append, (u.perm _).mem_iff,
      mem_difference, Bool.not_eq_true', List.contains_eq_mem, decide_eq_false_iff_not]
    -- what was held and is not asked for goes, what is asked for stays or comes
    tauto

/-- **When an update succeeds**: every new address can be dialled, and the client takes every change. -/
theorem failure_iff :
    (u.result b).failure = none ↔
      (∀ a ∈ u.next, a ∉ b.current → u.channel.dials a = true) ∧
        u.channel.TakesAll 0
          ((difference u.next b.current).length + (difference b.current u.next).length) := by
  have hlen (l : List String) : (u.order l).length = l.length := (u.perm l).length_eq
  have hdial : (∀ a ∈ u.order (difference u.next b.current), u.channel.dials a = true) ↔
      ∀ a ∈ u.next, a ∉ b.current → u.channel.dials a = true := by
    simp only [(u.perm _).mem_iff, mem_difference, and_imp]
  have hins : (u.inserted b).failure = none ↔ _ := insertAll_failure_iff rfl
  rw [hdial, hlen, List.length_nil, Nat.zero_add] at hins
  rw [result_eq]
  cases hf : (u.inserted b).failure with
  | some f =>
    refine iff_of_false (by simp [hf]) fun hall => ?_
    have hno : (u.inserted b).failure = none :=
      hins.2 ⟨hall.1, fun k hk hn => hall.2 k hk (by omega)⟩
    cases hf.symm.trans hno
  | none =>
    obtain ⟨hurls, hfirst⟩ := hins.1 hf
    have hsent : (u.inserted b).sent.length = (difference u.next b.current).length := by
      have := (insertAll_done hf).2
      rw [hlen] at this
      simpa [inserted] using this
    dsimp only
    rw [removeAll_failure_iff hf, hsent, hlen]
    constructor
    · intro hrest
      exact ⟨hurls, hfirst.append hrest⟩
    · rintro ⟨-, hall⟩ k hk hn
      exact hall k (Nat.zero_le k) hn

end Update

/-! ## Runs of updates -/

/-- **A client holds what its balancer believes.**  After any updates of a new balancer, successful or
    not, the book is the replay of all changes that were sent, and each of them was of use when it was
    sent; an update that succeeds leaves both with the addresses that it asked for. -/
theorem balancer_truthful {service : String} {t : Told} {turns : List (Told × Update)}
    (run : Run Told.act ⟨{ service }, []⟩ turns t) :
    t.balancer.current.toFinset = held t.sent ∧ Sound t.sent ∧
      ∀ p ∈ turns, ∀ v, p.1.act p.2 = some v → (p.2.result p.1.balancer).failure = none →
        v.balancer.current.toFinset = p.2.next.toFinset ∧ held v.sent = p.2.next.toFinset := by
  have hkept : Run.Throughout
      (fun v : Told => v.balancer.current.toFinset = held v.sent ∧ Sound v.sent) turns t := by
    refine run.throughout _ ⟨rfl, sound_nil⟩ fun p _ v hp hv => ?_
    obtain rfl := Option.some.inj hv
    have hk : Kept p.1.sent (p.2.result p.1.balancer) := Update.kept hp.1 hp.2
    exact ⟨hk.current, hk.sound⟩
  refine ⟨hkept.2.1, hkept.2.2, fun p hp v hv hok => ?_⟩
  have hbook := (hkept.after run hp hv).1
  obtain rfl := Option.some.inj hv
  have hnext := Update.current_of_success hok
  exact ⟨hnext, hbook.symm.trans hnext⟩

/-- A channel to a client that takes some changes, over a transport that has one word for all that it refuses. -/
def Channel.sample (takes : Nat → Bool) : Channel := .to (fun _ => "invalid URI") takes

/-- Three updates of a new balancer: an address that cannot be dialled, two addresses in reverse, and a
    client that goes after one change. -/
def sampleUpdates : List Update :=
  [⟨.sample fun _ => true, id, fun _ => .refl _, ["10.0.0.1:9000", "::1:9000"]⟩,
    ⟨.sample fun _ => true, List.reverse, List.reverse_perm, ["10.0.0.2:9000", "10.0.0.3:9000"]⟩,
    ⟨.sample fun n => n < 1, id, fun _ => .refl _, ["10.0.0.4:9000"]⟩]

/-- The second update succeeds although the first did not, and the third, which stops midway, leaves what
    the client holds by then. -/
theorem balancer_truthful_sample :
    ∃ turns t, Run Told.act ⟨{ service := "order" }, []⟩ turns t ∧
      turns.map Prod.snd = sampleUpdates ∧
      (turns.map fun p => (p.2.result p.1.balancer).failure.isNone) = [false, true, false] ∧
      t.balancer.current = ["10.0.0.3:9000", "10.0.0.2:9000", "10.0.0.4:9000"] ∧
      (t.balancer.current.toFinset = held t.sent ∧ Sound t.sent ∧
        ∀ p ∈ turns, ∀ v, p.1.act p.2 = some v → (p.2.result p.1.balancer).failure = none →
          v.balancer.current.toFinset = p.2.next.toFinset ∧ held v.sent = p.2.next.toFinset) := by
  let t0 : Told := ⟨{ service := "order" }, []⟩
  have hrun : Run Told.act t0 _ _ := .cons (a := sampleUpdates[0]) rfl
    (.cons (a := sampleUpdates[1]) rfl (.cons (a := sampleUpdates[2]) rfl (.nil _)))
  exact ⟨_, _, hrun, rfl, by decide +kernel, by decide +kernel, balancer_truthful hrun⟩

end Balancer

end Muster
