/-
  Does one address that cannot be dialled starve a client?

  An update brings first what is new and takes away then what is old, one address after the other.  It STOPS at
  the first address that cannot be dialled: what would have come behind it does not come, and nothing is taken
  away.

  (1) `Serves` — what a client should hold after an update, whatever the update returns: nothing that is not
      asked for, and all that is asked for and can be dialled;
  (2) `insertAll_open`, `Update.current_of_failure` — what it holds: of the new addresses those in front of the
      first that cannot be dialled, beside all that there was;
  (3) `served_iff` — so it is served EXACTLY if every new address can be dialled, or nothing is old and whatever
      can be dialled comes first; and it stays as it is, update after update, as long as there is such an address.

  THE CRUX (`mem_takeWhile_iff`): in which order the addresses come is nobody's business, so whoever wants to be
  served whatever the order is must not have both kinds among the new ones.
-/
import Muster.Proofs.Balancer

namespace Muster.Balancer

/-! ## What should be held -/

/-- **The client is there**, and takes every change. -/
def Channel.Open (ch : Channel) : Prop := ∀ n, ch.takes n = true

/-- **The book of a balancer is true**, and nothing was sent in vain. -/
def Told.Booked (t : Told) : Prop := t.balancer.current.toFinset = held t.sent ∧ Sound t.sent

/-- **An update serves the client**, whatever it returns. -/
structure Serves (t : Told) (u : Update) : Prop where
  /-- Whatever is not asked for is gone. -/
  gone : ∀ a, a ∉ u.next → a ∉ held (t.after u).sent
  /-- Whatever is asked for and can be dialled is there. -/
  there : ∀ a ∈ u.next, u.channel.dials a = true → a ∈ held (t.after u).sent

/-- **An address is asked for that is not held and cannot be dialled.** -/
def Update.Hopeless (u : Update) (t : Told) : Prop :=
  ∃ a ∈ u.next, a ∉ held t.sent ∧ u.channel.dials a = false

/-! ## How far the insertions come -/

section Lists

variable {α : Type} {f : α → Bool} {l : List α}

/-- **Whoever is accepted stands in front of the first who is not**, if those come first. -/
theorem mem_takeWhile_iff (hn : l.Nodup) :
    (∀ a ∈ l, f a = true → a ∈ l.takeWhile f) ↔ l.Pairwise fun x y => f y = true → f x = true := by
  induction l with
  | nil => simp
  | cons a l ih =>
    obtain ⟨ha, hn⟩ := List.nodup_cons.1 hn
    rw [List.pairwise_cons, List.forall_mem_cons, List.takeWhile_cons]
    cases hf : f a with
    | true =>
      -- the first one is accepted, and stands nowhere else
      have hrest : (∀ b ∈ l, f b = true → b ∈ a :: l.takeWhile f) ↔
          ∀ b ∈ l, f b = true → b ∈ l.takeWhile f := by
        refine forall_congr' fun b => forall_congr' fun hb => ?_
        have hne : b ≠ a := fun he => ha (he ▸ hb)
        rw [List.mem_cons, or_iff_right hne]
      rw [if_pos rfl, hrest, ih hn]
      simp
    | false =>
      -- the first one is not, so nobody may be
      simp only [Bool.false_eq_true, if_false, List.not_mem_nil, imp_false, not_false_eq_true, true_and,
        Bool.not_eq_true]
      constructor
      · intro hnone
        refine ⟨hnone, List.pairwise_iff_forall_sublist.2 fun hsub hyes => ?_⟩
        rw [hnone _ (hsub.subset (by simp))] at hyes
        cases hyes
      · exact fun h => h.1

end Lists

section Updates

variable {ch : Channel} {as : List String} {r : Result} {u : Update} {b : Balancer} {t v : Told}
  {turns : List (Told × Update)}

/-- **Insertions come as far as the first address that cannot be dialled.** -/
theorem insertAll_open (hopen : ch.Open) :
    (insertAll ch as r).balancer.current = r.balancer.current ++ as.takeWhile ch.dials := by
  induction as generalizing r with
  | nil => simp [insertAll]
  | cons a as ih =>
    unfold insertAll
    cases hu : ch.url a with
    | error reason =>
      rw [List.takeWhile_cons, Channel.dials_of_error hu]
      simp
    | ok url =>
      rw [List.takeWhile_cons, Channel.dials_of_ok hu, if_pos rfl]
      dsimp only
      rw [if_pos (hopen _), ih]
      simp

/-- Insertions take nothing away, wherever they stop. -/
theorem subset_insertAll (ch : Channel) (as : List String) (r : Result) :
    r.balancer.current ⊆ (insertAll ch as r).balancer.current := by
  induction as generalizing r with
  | nil => exact fun _ ha => ha
  | cons a as ih =>
    unfold insertAll
    split
    · exact fun _ ha => ha
    · split
      · exact fun x hx => ih _ (List.mem_append_left _ hx)
      · exact fun _ ha => ha

namespace Update

/-- The insertions stop if a new address cannot be dialled. -/
theorem inserted_fails {a : String} (ha : a ∈ u.next) (hnew : a ∉ b.current)
    (hno : u.channel.dials a = false) : (u.inserted b).failure ≠ none := by
  intro h
  have hall := ((insertAll_failure_iff rfl).1 h).1 a
    ((u.perm _).mem_iff.2 (mem_difference.2 ⟨ha, hnew⟩))
  rw [hno] at hall
  cases hall

/-- **An update that stops while it inserts takes nothing away.** -/
theorem result_of_inserted_fails (h : (u.inserted b).failure ≠ none) : u.result b = u.inserted b := by
  rw [result_eq]
  cases hf : (u.inserted b).failure with
  | none => exact absurd hf h
  | some f => rfl

/-- **What is held after an update of a client that is there**, if a new address cannot be dialled. -/
theorem current_of_failure (hopen : u.channel.Open) {a : String} (ha : a ∈ u.next)
    (hnew : a ∉ b.current) (hno : u.channel.dials a = false) :
    (u.result b).balancer.current =
      b.current ++ (u.order (difference u.next b.current)).takeWhile u.channel.dials := by
  rw [result_of_inserted_fails (inserted_fails ha hnew hno), inserted, insertAll_open hopen]

/-- With a client that is there, an update succeeds if every new address can be dialled. -/
theorem succeeds (hopen : u.channel.Open)
    (hall : ∀ a ∈ u.next, a ∉ b.current → u.channel.dials a = true) : (u.result b).failure = none :=
  failure_iff.2 ⟨hall, fun k _ _ => hopen k⟩

end Update

/-! ## Who is served -/

theorem Told.Booked.mem_iff (h : t.Booked) {a : String} : a ∈ t.balancer.current ↔ a ∈ held t.sent := by
  rw [← h.1, List.mem_toFinset]

/-- The book stays true, however an update ends. -/
theorem Told.Booked.after (h : t.Booked) (u : Update) : (t.after u).Booked :=
  let hk := Update.kept (u := u) h.1 h.2
  ⟨hk.current, hk.sound⟩

/-- **An update with a client that is there serves it** exactly so far. -/
theorem serves_iff (h : t.Booked) (hopen : u.channel.Open) :
    Serves t u ↔ ¬ u.Hopeless t ∨ ((∀ a ∈ held t.sent, a ∈ u.next) ∧
      (u.order (difference u.next t.balancer.current)).Pairwise fun x y =>
        u.channel.dials y = true → u.channel.dials x = true) := by
  have hafter (a : String) : a ∈ held (t.after u).sent ↔ a ∈ (u.result t.balancer).balancer.current :=
    (h.after u).mem_iff.symm
  have hnew (a : String) : a ∈ u.order (difference u.next t.balancer.current) ↔
      a ∈ u.next ∧ a ∉ held t.sent := by
    rw [(u.perm _).mem_iff, mem_difference, h.mem_iff]
  by_cases hbad : u.Hopeless t
  · obtain ⟨a, ha, hno, hdial⟩ := hbad
    have hcurrent := Update.current_of_failure hopen ha (fun hc => hno (h.mem_iff.1 hc)) hdial
    rw [or_iff_right fun hgood => hgood ⟨a, ha, hno, hdial⟩,
      ← mem_takeWhile_iff ((u.perm _).nodup_iff.2 (nodup_difference ..))]
    have hmem (x : String) : x ∈ held (t.after u).sent ↔ x ∈ held t.sent ∨
        x ∈ (u.order (difference u.next t.balancer.current)).takeWhile u.channel.dials := by
      rw [hafter, hcurrent, List.mem_append, h.mem_iff]
    constructor
    · rintro ⟨hgone, hthere⟩
      refine ⟨fun x hx => ?_, fun x hx hyes => ?_⟩
      · -- whatever was held is held still
        exact Classical.byContradiction fun hold => hgone x hold ((hmem x).2 (.inl hx))
      · obtain ⟨hnext, hfresh⟩ := (hnew x).1 hx
        exact ((hmem x).1 (hthere x hnext hyes)).resolve_left hfresh
    · rintro ⟨hold, hfirst⟩
      refine ⟨fun x hx hheld => ?_, fun x hx hyes => (hmem x).2 ?_⟩
      · rcases (hmem x).1 hheld with hx' | hx'
        · exact hx (hold x hx')
        · exact hx ((hnew x).1 ((List.takeWhile_sublist _).subset hx')).1
      · by_cases hheld : x ∈ held t.sent
        · exact .inl hheld
        · exact .inr (hfirst x ((hnew x).2 ⟨hx, hheld⟩) hyes)
  · refine iff_of_true ?_ (.inl hbad)
    have hall : ∀ a ∈ u.next, a ∉ t.balancer.current → u.channel.dials a = true := by
      intro a ha hc
      cases hd : u.channel.dials a with
      | true => rfl
      | false => exact absurd ⟨a, ha, fun hh => hc (h.mem_iff.2 hh), hd⟩ hbad
    have hnext := Update.current_of_success (Update.succeeds hopen hall)
    have hmem (x : String) : x ∈ held (t.after u).sent ↔ x ∈ u.next := by
      rw [hafter, ← List.mem_toFinset, hnext, List.mem_toFinset]
    exact ⟨fun x hx hheld => hx ((hmem x).1 hheld), fun x hx _ => (hmem x).2 hx⟩

/-- An order that brings first what cannot be dialled. -/
def worstFirst (ch : Channel) (l : List String) : List String :=
  l.filter (fun a => !ch.dials a) ++ l.filter ch.dials

theorem perm_worstFirst (ch : Channel) (l : List String) : (worstFirst ch l).Perm l :=
  List.perm_append_comm.trans (List.filter_append_perm ch.dials l)

/-- Where both kinds are, the worst first is an order that does not serve. -/
theorem not_pairwise_worstFirst {l : List String} {x y : String} (hx : x ∈ l) (hy : y ∈ l)
    (hbad : ch.dials x = false) (hgood : ch.dials y = true) :
    ¬ (worstFirst ch l).Pairwise fun x y => ch.dials y = true → ch.dials x = true := by
  intro h
  have hfront : x ∈ l.filter fun a => !ch.dials a := List.mem_filter.2 ⟨hx, by simp [hbad]⟩
  have hyes := (List.pairwise_append.1 h).2.2 x hfront y (List.mem_filter.2 ⟨hy, hgood⟩) hgood
  rw [hbad] at hyes
  cases hyes

/-- **Whatever the order**, the client is served exactly so far. -/
theorem always_serves_iff (h : t.Booked) (hopen : ch.Open) (next : List String) :
    (∀ order perm, Serves t ⟨ch, order, perm, next⟩) ↔
      (∀ a ∈ next, a ∉ held t.sent → ch.dials a = true) ∨
        ((∀ a ∈ held t.sent, a ∈ next) ∧ ∀ a ∈ next, a ∉ held t.sent → ch.dials a = false) := by
  constructor
  · intro hall
    by_cases hbad : ∃ a ∈ next, a ∉ held t.sent ∧ ch.dials a = false
    · obtain ⟨x, hx, hxnew, hxno⟩ := hbad
      obtain ⟨hold, hpair⟩ := ((serves_iff h hopen).1 (hall (worstFirst ch) (perm_worstFirst ch))).resolve_left
        fun hgood => hgood ⟨x, hx, hxnew, hxno⟩
      refine .inr ⟨hold, fun y hy hynew => Bool.eq_false_iff.2 fun hyes => ?_⟩
      have hmem {a : String} (ha : a ∈ next) (hn : a ∉ held t.sent) :
          a ∈ difference next t.balancer.current :=
        mem_difference.2 ⟨ha, fun hc => hn (h.mem_iff.1 hc)⟩
      exact not_pairwise_worstFirst (hmem hx hxnew) (hmem hy hynew) hxno hyes hpair
    · refine .inl fun a ha hnew => ?_
      cases hd : ch.dials a with
      | true => rfl
      | false => exact absurd ⟨a, ha, hnew, hd⟩ hbad
  · rintro (hall | ⟨hold, hnone⟩) order perm
    · refine (serves_iff h hopen).2 (.inl ?_)
      rintro ⟨a, ha, hnew, hno⟩
      rw [hall a ha hnew] at hno
      cases hno
    · refine (serves_iff h hopen).2 (.inr ⟨hold, List.pairwise_iff_forall_sublist.2 ?_⟩)
      intro x y hsub hyes
      have hy : y ∈ order (difference next t.balancer.current) := hsub.subset (by simp)
      obtain ⟨hnext, hnew⟩ := mem_difference.1 ((perm _).mem_iff.1 hy)
      have hno := hnone y hnext fun hh => hnew (h.mem_iff.2 hh)
      rw [hno] at hyes
      cases hyes

/-- A hopeless update takes nothing away. -/
theorem held_subset_after (h : t.Booked) (hbad : u.Hopeless t) : held t.sent ⊆ held (t.after u).sent := by
  obtain ⟨a, ha, hnew, hno⟩ := hbad
  have hstop := Update.result_of_inserted_fails
    (Update.inserted_fails ha (fun hc => hnew (h.mem_iff.1 hc)) hno)
  intro x hx
  refine (h.after u).mem_iff.1 ?_
  show x ∈ (u.result t.balancer).balancer.current
  rw [hstop]
  exact subset_insertAll _ _ _ (h.mem_iff.2 hx)

/-- **Hopeless updates take nothing away**, however many there are. -/
theorem held_subset_run (h : t.Booked) (run : Run Told.act t turns v)
    (hbad : ∀ p ∈ turns, p.2.Hopeless p.1) : held t.sent ⊆ held v.sent := by
  refine (run.invariant (fun w => w.Booked ∧ held t.sent ⊆ held w.sent) ⟨h, fun _ hx => hx⟩ ?_).2
  rintro p hp w ⟨hbooked, hsub⟩ hw
  obtain rfl := Option.some.inj hw
  exact ⟨hbooked.after p.2, hsub.trans (held_subset_after hbooked (hbad p hp))⟩

end Updates

/-- **Who is served although an address cannot be dialled.**  With a client that is there, an update serves it
    EXACTLY if every new address can be dialled, or nothing is old and whatever can be dialled comes first; for
    every order EXACTLY if every new address can be dialled, or nothing is old and none can be.  And as long as
    updates ask for something that is new and cannot be dialled, nothing is ever taken away. -/
theorem served_iff {t : Told} (booked : t.Booked) :
    (∀ u : Update, u.channel.Open → (Serves t u ↔ ¬ u.Hopeless t ∨ ((∀ a ∈ held t.sent, a ∈ u.next) ∧
      (u.order (difference u.next t.balancer.current)).Pairwise fun x y =>
        u.channel.dials y = true → u.channel.dials x = true))) ∧
    (∀ (ch : Channel) (next : List String), ch.Open →
      ((∀ order perm, Serves t ⟨ch, order, perm, next⟩) ↔
        (∀ a ∈ next, a ∉ held t.sent → ch.dials a = true) ∨
          ((∀ a ∈ held t.sent, a ∈ next) ∧ ∀ a ∈ next, a ∉ held t.sent → ch.dials a = false))) ∧
    ∀ turns v, Run Told.act t turns v → (∀ p ∈ turns, p.2.Hopeless p.1) → held t.sent ⊆ held v.sent :=
  ⟨fun _ hopen => serves_iff booked hopen, fun _ next hopen => always_serves_iff booked hopen next,
    fun _ _ run hbad => held_subset_run booked run hbad⟩

/-- A new balancer after its first update, for a client that is there. -/
def sampleTold : Told :=
  Told.after ⟨{ service := "order" }, []⟩ ⟨.sample fun _ => true, id, List.Perm.refl, ["10.0.0.1:9000"]⟩

/-- **The book of a balancer that was updated once is true.** -/
theorem sampleTold_booked : sampleTold.Booked :=
  Told.Booked.after (t := ⟨{ service := "order" }, []⟩) ⟨rfl, sound_nil⟩ _

/-- An address without brackets cannot be dialled, so that asking for it instead of the first one does not serve
    the client; asking for another one in front of it does not either, but beside the first one it does. -/
theorem served_iff_sample :
    sampleTold.Booked ∧
      (¬ Serves sampleTold ⟨.sample fun _ => true, id, fun _ => .refl _, ["::1:9000"]⟩) ∧
      (¬ Serves sampleTold ⟨.sample fun _ => true, id, fun _ => .refl _, ["10.0.0.2:9000", "::1:9000"]⟩) ∧
      Serves sampleTold
        ⟨.sample fun _ => true, id, fun _ => .refl _, ["10.0.0.1:9000", "10.0.0.2:9000", "::1:9000"]⟩ := by
  have hopen : (Channel.sample fun _ => true).Open := fun _ => rfl
  have hiff (next : List String) :=
    (served_iff sampleTold_booked).1 ⟨.sample fun _ => true, id, fun _ => .refl _, next⟩ hopen
  refine ⟨sampleTold_booked, fun h => ?_, fun h => ?_, (hiff _).2 (.inr ⟨by decide +kernel, ?_⟩)⟩
  · rcases (hiff _).1 h with hgood | ⟨hold, -⟩
    · exact hgood ⟨"::1:9000", by decide, by decide +kernel, by decide +kernel⟩
    · exact absurd (hold "10.0.0.1:9000" (by decide +kernel)) (by decide)
  · rcases (hiff _).1 h with hgood | ⟨hold, -⟩
    · exact hgood ⟨"::1:9000", by decide, by decide +kernel, by decide +kernel⟩
    · exact absurd (hold "10.0.0.1:9000" (by decide +kernel)) (by decide)
  · show List.Pairwise _ (difference ["10.0.0.1:9000", "10.0.0.2:9000", "::1:9000"] ["10.0.0.1:9000"])
    decide +kernel

/-- **One bad address starves the client.**  The client holds one address; it shall hold another one, and one
    that cannot be dialled comes first.  The update fails, the address that is not asked for is held still, and
    the one that is asked for and can be dialled is not held. -/
theorem starved_by_bad_address :
    let u : Update := ⟨.sample fun _ => true, id, fun _ => .refl _, ["::1:9000", "10.0.0.2:9000"]⟩
    sampleTold.Booked ∧ u.channel.Open ∧
      (u.result sampleTold.balancer).failure = some (.invalidTarget "::1:9000" "invalid URI") ∧
      ("10.0.0.1:9000" ∉ u.next ∧ "10.0.0.1:9000" ∈ held (sampleTold.after u).sent) ∧
      ("10.0.0.2:9000" ∈ u.next ∧ u.channel.dials "10.0.0.2:9000" = true ∧
        "10.0.0.2:9000" ∉ held (sampleTold.after u).sent) ∧
      ¬ Serves sampleTold u := by
  intro u
  have hheld : "10.0.0.1:9000" ∈ held (sampleTold.after u).sent := by decide +kernel
  have hnext : "10.0.0.1:9000" ∉ u.next := by decide
  refine ⟨sampleTold_booked, fun _ => rfl, by decide +kernel, ⟨hnext, hheld⟩,
    ⟨by decide, by decide +kernel, by decide +kernel⟩, fun h => h.gone _ hnext hheld⟩

end Muster.Balancer
