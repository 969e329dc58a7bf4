/-
  What do the two streams of a lease store give?

  A stream is asked for one item after the other, and each time a turn of the server decides.  Whoever renews a lease
  goes by the first item that is no success, and whoever keeps a cache goes by every change, in order; so it matters
  which turns are passed on, which one is the last, and that nothing comes after it.

  (1) `exists_cut` — any turns are good ones, and then one that is not good, if there is one, and whatever follows;
  (2) `Verdict.along` — all that comes of a stream, by the verdicts on its turns: what comes of the good ones, of the
      one that ends it, and nothing more (`along_append`);
  (3) `Renewals.map_pulls`, `Changes.pulls_eq` — this is what each stream does; renewals also wait, all but the first
      (`Renewals.waited_pulls`);
  (4) `forall₂_says` — a batch is the changes of a response that carry a pair, in order;
  (5) `Final` — nothing comes after a failure or the end;
  (6) `streams_exact` — all of it, for both.

  THE CRUX (`Verdict.along`): of a turn a stream remembers nothing but whether it was a good one.
-/
import Mathlib.Data.List.Forall2
import Muster.Leased.Remote

namespace Muster.Leased.Remote

/-! ## Turns and what comes of them -/

section Cuts

variable {α β ι τ : Type}

/-- **Any turns are good ones, up to the first that is not.** -/
theorem exists_cut (g : α → τ) (p : α → Prop) (ts : List τ) :
    ∃ (good : List α) (rest : List τ), ts = good.map g ++ rest ∧ (∀ a ∈ good, p a) ∧
      ∀ a, rest.head? = some (g a) → ¬ p a := by
  induction ts with
  | nil => exact ⟨[], [], rfl, fun _ ha => (nomatch ha), fun _ ha => (nomatch ha)⟩
  | cons t ts ih =>
    by_cases ht : ∃ a, p a ∧ t = g a
    · obtain ⟨a, ha, rfl⟩ := ht
      obtain ⟨good, rest, rfl, hgood, hrest⟩ := ih
      refine ⟨a :: good, rest, rfl, ?_, hrest⟩
      intro b hb
      rcases List.mem_cons.1 hb with rfl | hb
      · exact ha
      · exact hgood b hb
    · refine ⟨[], t :: ts, rfl, fun _ ha => (nomatch ha), ?_⟩
      intro a he hp
      exact ht ⟨a, hp, Option.some.inj he⟩

/-- What comes of the turn that ends a stream, and of all others after it. -/
def closing (e : τ → β) (nothing : β) : List τ → List β
  | [] => []
  | t :: more => e t :: List.replicate more.length nothing

/-- **Nothing comes after a failure or the end.** -/
def Final (items : List (Option (Except Failure ι))) : Prop :=
  items.Pairwise fun a b => (∀ i, a ≠ some (.ok i)) → b = none

/-- Good items, and then what comes of the turn that ends the stream, are final. -/
theorem final_append_closing (good : List ι) (e : τ → Option (Except Failure ι)) (rest : List τ) :
    Final (good.map (fun i => some (.ok i)) ++ closing e none rest) := by
  induction good with
  | nil =>
    cases rest with
    | nil => exact List.Pairwise.nil
    | cons t more =>
      refine List.pairwise_cons.2 ⟨?_, List.pairwise_replicate.2 (.inr fun _ => rfl)⟩
      intro b hb _
      exact List.eq_of_mem_replicate hb
  | cons i good ih =>
    refine List.pairwise_cons.2 ⟨?_, ih⟩
    intro b _ hno
    exact absurd rfl (hno i)

end Cuts

namespace Verdict

variable {ι β : Type} {f : Verdict ι → β} {nothing : β}

/-- **All that comes of a stream**, by the verdicts on its turns. -/
def along (f : Verdict ι → β) (nothing : β) : List (Verdict ι) → List β
  | [] => []
  | v :: vs => f v :: if v.goesOn then along f nothing vs else List.replicate vs.length nothing

/-- What comes of the good turns, of the one that ends the stream, and nothing more. -/
theorem along_append {good : List ι} {rest : List (Verdict ι)}
    (h : ∀ v, rest.head? = some v → v.goesOn = false) :
    along f nothing (good.map item ++ rest) = good.map (fun i => f (.item i)) ++ closing f nothing rest := by
  induction good with
  | nil =>
    cases rest with
    | nil => rfl
    | cons v vs =>
      show f v :: (if v.goesOn then along f nothing vs else List.replicate vs.length nothing) = _
      rw [h v rfl]
      rfl
  | cons i good ih =>
    show f (.item i) :: along f nothing (good.map item ++ rest) = _
    rw [ih]
    rfl

/-- The same for turns, of which some are good and the next is not. -/
theorem along_map_append {α τ : Type} {verdict : τ → Verdict ι} {g : α → τ} {out : α → ι} {e : τ → β}
    {good : List α} {rest : List τ} (hgood : ∀ a ∈ good, verdict (g a) = .item (out a))
    (hrest : ∀ t, rest.head? = some t → (verdict t).goesOn = false ∧ f (verdict t) = e t) :
    along f nothing ((good.map g ++ rest).map verdict) =
      good.map (fun a => f (.item (out a))) ++ closing e nothing rest := by
  have hfront : (good.map g).map verdict = (good.map out).map item := by
    rw [List.map_map, List.map_map]
    exact List.map_congr_left hgood
  have hback : closing f nothing (rest.map verdict) = closing e nothing rest := by
    cases rest with
    | nil => rfl
    | cons t more =>
      show f (verdict t) :: List.replicate (more.map verdict).length nothing = _
      rw [(hrest t rfl).2, List.length_map]
      rfl
  rw [List.map_append, hfront, along_append, hback, List.map_map]
  · rfl
  · intro v hv
    rw [List.head?_map, Option.map_eq_some_iff] at hv
    obtain ⟨t, ht, rfl⟩ := hv
    exact (hrest t ht).1

end Verdict

/-! ## Renewals -/

/-- How the renewals of a lease end. -/
def RenewalTurn.ending (lease : Int) : RenewalTurn → Option (Except Failure Int)
  | unsent f | failed f => some (.error f)
  | remaining _ => some (.error (.leaseExpired lease))
  | closed => none

section Renewing

variable {s : Renewals} {lease keeper ttl : Int} {ms : Nat} {good : List Int} {rest : List RenewalTurn}

/-- There are three renewals for each time to live, unless that is too long to be counted in milliseconds. -/
theorem renewalMillis?_eq_some_iff :
    renewalMillis? ttl = some ms ↔ ttl ≤ 18446744073709551 ∧ ms = (max ttl 1).toNat * 1000 / 3 := by
  simp only [renewalMillis?]
  split
  · rw [Option.some_inj]
    omega
  · have : ¬ ttl ≤ 18446744073709551 := by omega
    simp [this]

/-- **A stream is opened for every time to live that can be counted.** -/
theorem Renewals.open?_eq_some_iff :
    Renewals.open? lease keeper ttl = some s ↔
      ttl ≤ 18446744073709551 ∧
        s = { lease, keeper, pause := .ofMillis (UInt64.ofNat ((max ttl 1).toNat * 1000 / 3)) } := by
  rw [Renewals.open?, Option.map_eq_some_iff]
  constructor
  · rintro ⟨ms, hms, rfl⟩
    obtain ⟨hle, rfl⟩ := renewalMillis?_eq_some_iff.1 hms
    exact ⟨hle, rfl⟩
  · rintro ⟨hle, rfl⟩
    exact ⟨_, renewalMillis?_eq_some_iff.2 ⟨hle, rfl⟩, rfl⟩

/-- Every turn but some time to live ends the stream, as it should. -/
theorem RenewalTurn.verdict_of_ends {t : RenewalTurn} (h : ∀ n, t = remaining n → ¬ 0 < n) :
    (t.verdict lease).goesOn = false ∧ (t.verdict lease).item? = t.ending lease := by
  cases t with
  | remaining n =>
    rw [verdict, if_neg (h n rfl)]
    exact ⟨rfl, rfl⟩
  | _ => exact ⟨rfl, rfl⟩

namespace Renewals

/-- A stream that is over sends nothing and gives nothing. -/
theorem pulls_of_not_live (h : s.live = false) (ts : List RenewalTurn) :
    s.pulls ts = List.replicate ts.length ⟨none, none, none, s⟩ := by
  induction ts with
  | nil => rfl
  | cons t ts ih =>
    have hpull : s.pull t = ⟨none, none, none, s⟩ := by
      rw [pull, h]
      rfl
    rw [pulls, hpull, ih]
    rfl

/-- Once there was a renewal, each other is sent after the pause. -/
theorem waited_of_started {r : Renewed} {ts : List RenewalTurn} (h : s.started = true) (hr : r ∈ s.pulls ts) :
    r.waited = r.sent.map fun _ => s.pause := by
  induction ts generalizing s with
  | nil => cases hr
  | cons t ts ih =>
    have hpull : (s.pull t).waited = ((s.pull t).sent.map fun _ => s.pause) ∧
        (s.pull t).next.started = true ∧ (s.pull t).next.pause = s.pause := by
      unfold pull
      cases s.live <;> simp [h]
    obtain ⟨hwaited, hstarted, hpause⟩ := hpull
    rcases List.mem_cons.1 hr with rfl | hr
    · exact hwaited
    · rw [ih hstarted hr, hpause]

/-- **The first renewal is sent at once, and each other after the pause.** -/
theorem waited_pulls (hlive : s.live = true) (hfresh : s.started = false) (ts : List RenewalTurn) :
    (∀ r, (s.pulls ts).head? = some r → r.waited = none) ∧
      ∀ r ∈ (s.pulls ts).tail, r.waited = r.sent.map fun _ => s.pause := by
  cases ts with
  | nil => exact ⟨fun _ hr => (nomatch hr), fun _ hr => (nomatch hr)⟩
  | cons t ts =>
    have hpull : (s.pull t).waited = none ∧ (s.pull t).next.started = true ∧
        (s.pull t).next.pause = s.pause := by
      rw [pull, if_pos hlive, hfresh]
      exact ⟨rfl, rfl, rfl⟩
    obtain ⟨hwaited, hstarted, hpause⟩ := hpull
    constructor
    · rintro r ⟨⟩
      exact hwaited
    · intro r hr
      rw [waited_of_started hstarted hr, hpause]

/-- **What is sent and given is read off the verdicts.** -/
theorem map_pulls (h : s.live = true) (ts : List RenewalTurn) :
    (s.pulls ts).map (fun r => (r.sent, r.item)) =
      Verdict.along (fun v => (some (Rpc.keepAlive s.keeper), v.item?)) (none, none)
        (ts.map (·.verdict s.lease)) := by
  induction ts generalizing s with
  | nil => rfl
  | cons t ts ih =>
    have hpull : s.pull t = ⟨if s.started then some s.pause else none, some (.keepAlive s.keeper),
        (t.verdict s.lease).item?, { s with started := true, live := (t.verdict s.lease).goesOn }⟩ := by
      rw [pull, if_pos h]
    rw [pulls, hpull, List.map_cons, List.map_cons, Verdict.along]
    congr 1
    cases hgo : (t.verdict s.lease).goesOn with
    | true => exact ih rfl
    | false =>
      rw [pulls_of_not_live rfl, List.map_replicate, List.length_map]
      rfl

end Renewals

end Renewing

/-! ## Changes -/

/-- How a watch of a lead ends. -/
def WatchTurn.ending (lead : String) : WatchTurn → Option (Except Failure (List KeyEvent))
  | response r => some (.error (.watchCanceled lead r.reason))
  | failed f => some (.error f)
  | closed => none

/-- **What the store hands on says what the server reported**: its kind, its value, and its key if that is a text. -/
def KeyEvent.Says (w : WireEvent) (e : KeyEvent) : Prop :=
  ∃ key value, w.pair = some (key, value) ∧ e.deleted = w.deleted ∧ e.value = value ∧ e.key = Utf8.lossy key ∧
    (e.key.toByteArray = key ↔ (Utf8.text? key).isSome = true)

section Watching

variable {s : Changes} {lead : String}

/-- **A batch is the changes that carry a pair, in order.** -/
theorem forall₂_says (l : List WireEvent) :
    List.Forall₂ KeyEvent.Says (l.filter (·.pair.isSome)) (l.filterMap WireEvent.event?) := by
  induction l with
  | nil => exact .nil
  | cons w l ih =>
    cases hw : w.pair with
    | none => simpa [WireEvent.event?, hw] using ih
    | some p =>
      have he : w.event? = some ⟨w.deleted, Utf8.lossy p.1, p.2⟩ := by
        rw [WireEvent.event?, hw]
        rfl
      rw [List.filter_cons_of_pos (by rw [hw]; rfl), List.filterMap_cons_some he]
      exact .cons ⟨p.1, p.2, hw, rfl, rfl, rfl, Utf8.toByteArray_lossy_iff⟩ ih

/-- Every turn but a response that goes on ends the stream, as it should. -/
theorem WatchTurn.verdict_of_ends {t : WatchTurn} (h : ∀ r, t = response r → ¬ r.canceled = false) :
    (t.verdict lead).goesOn = false ∧ (t.verdict lead).item? = t.ending lead := by
  cases t with
  | response r =>
    have hr : r.canceled = true := by simpa using h r rfl
    rw [verdict, if_pos hr]
    exact ⟨rfl, rfl⟩
  | _ => exact ⟨rfl, rfl⟩

namespace Changes

/-- A stream that is over gives nothing. -/
theorem pulls_of_not_live (h : s.live = false) (ts : List WatchTurn) :
    s.pulls ts = List.replicate ts.length none := by
  induction ts with
  | nil => rfl
  | cons t ts ih =>
    have hpull : s.pull t = (none, s) := by
      rw [pull, h]
      rfl
    rw [pulls, hpull, ih]
    rfl

/-- **What a watch gives is read off the verdicts.** -/
theorem pulls_eq (h : s.live = true) (ts : List WatchTurn) :
    s.pulls ts = Verdict.along (·.item?) none (ts.map (·.verdict s.lead)) := by
  induction ts generalizing s with
  | nil => rfl
  | cons t ts ih =>
    have hpull : s.pull t = ((t.verdict s.lead).item?, { s with live := (t.verdict s.lead).goesOn }) := by
      rw [pull, if_pos h]
    rw [pulls, hpull, List.map_cons, Verdict.along]
    congr 1
    cases hgo : (t.verdict s.lead).goesOn with
    | true => exact ih rfl
    | false =>
      rw [pulls_of_not_live rfl, List.length_map]
      rfl

end Changes

end Watching

/-! ## Both streams -/

/-- What is sent and given along the renewals of a lease. -/
theorem Renewals.pulls_append {s : Renewals} {good : List Int} {rest : List RenewalTurn} (h : s.live = true)
    (hgood : ∀ n ∈ good, 0 < n) (hrest : ∀ n, rest.head? = some (.remaining n) → ¬ 0 < n) :
    (s.pulls (good.map .remaining ++ rest)).map (fun r => (r.sent, r.item)) =
      good.map (fun n => (some (.keepAlive s.keeper), some (.ok n))) ++
        closing (fun t => (some (.keepAlive s.keeper), t.ending s.lease)) (none, none) rest := by
  rw [map_pulls h]
  refine Verdict.along_map_append (fun n hn => if_pos (hgood n hn)) ?_
  intro t ht
  obtain ⟨hgo, hitem⟩ : (t.verdict s.lease).goesOn = false ∧ (t.verdict s.lease).item? = t.ending s.lease :=
    RenewalTurn.verdict_of_ends fun n hn => hrest n (hn ▸ ht)
  exact ⟨hgo, congrArg (Prod.mk _) hitem⟩

/-- What is given along the renewals of a lease. -/
theorem Renewals.items_append {s : Renewals} {good : List Int} {rest : List RenewalTurn} (h : s.live = true)
    (hgood : ∀ n ∈ good, 0 < n) (hrest : ∀ n, rest.head? = some (.remaining n) → ¬ 0 < n) :
    (s.pulls (good.map .remaining ++ rest)).map (·.item) =
      good.map (fun n => some (.ok n)) ++ closing (·.ending s.lease) none rest := by
  have hitems := congrArg (List.map Prod.snd) (pulls_append h hgood hrest)
  rw [List.map_map, List.map_append, List.map_map] at hitems
  refine hitems.trans (congrArg (_ ++ ·) ?_)
  cases rest with
  | nil => rfl
  | cons t more =>
    show t.ending s.lease :: (List.replicate more.length _).map Prod.snd = _
    rw [List.map_replicate]
    rfl

/-- What is given along a watch. -/
theorem Changes.pulls_append {s : Changes} {good : List WatchResponse} {rest : List WatchTurn} (h : s.live = true)
    (hgood : ∀ r ∈ good, r.canceled = false)
    (hrest : ∀ r, rest.head? = some (.response r) → ¬ r.canceled = false) :
    s.pulls (good.map .response ++ rest) =
      good.map (fun r => some (.ok (r.events.filterMap WireEvent.event?))) ++
        closing (·.ending s.lead) none rest := by
  rw [pulls_eq h]
  refine Verdict.along_map_append (fun r hr => if_neg (by rw [hgood r hr]; exact Bool.false_ne_true)) ?_
  intro t ht
  exact WatchTurn.verdict_of_ends fun r hr => hrest r (hr ▸ ht)

/-- **The two streams of a lease store.**

    The renewals of a lease are asked for one after the other, one request each, as long as the server names some time
    to live, and each such time is given.  The first turn at which it names none ends the stream with a lease that has
    expired; a failure ends it with that failure, and a stream that is closed, without an item.

    A watch gives a batch for every response, up to the first that gives the watch up, a failure or the end.  A batch
    is the changes that carry a pair, in order, each with its kind and its value, and with its key EXACTLY if this is
    a text; ill-formed pieces of a key are replaced.

    Of both, nothing comes after a failure or the end. -/
theorem streams_exact :
    (∀ lease keeper ttl : Int, ttl ≤ 18446744073709551 →
      ∃ s, Renewals.open? lease keeper ttl = some s ∧ ∀ ts : List RenewalTurn,
        (∃ (good : List Int) (rest : List RenewalTurn), ts = good.map .remaining ++ rest ∧ (∀ n ∈ good, 0 < n) ∧
          (∀ n, rest.head? = some (.remaining n) → ¬ 0 < n) ∧
          (s.pulls ts).map (fun r => (r.sent, r.item)) =
            good.map (fun n => (some (.keepAlive keeper), some (.ok n))) ++
              closing (fun t => (some (.keepAlive keeper), t.ending lease)) (none, none) rest) ∧
        Final ((s.pulls ts).map (·.item))) ∧
    ∀ (lead : String) (ts : List WatchTurn),
      (∃ (good : List WatchResponse) (rest : List WatchTurn), ts = good.map .response ++ rest ∧
        (∀ r ∈ good, r.canceled = false) ∧ (∀ r, rest.head? = some (.response r) → ¬ r.canceled = false) ∧
        ∃ batches : List (List KeyEvent),
          List.Forall₂ (fun r batch => List.Forall₂ KeyEvent.Says (r.events.filter (·.pair.isSome)) batch)
            good batches ∧
          Changes.pulls { lead } ts =
            batches.map (fun batch => some (.ok batch)) ++ closing (·.ending lead) none rest) ∧
      Final (Changes.pulls { lead } ts) := by
  constructor
  · intro lease keeper ttl httl
    obtain ⟨s, hs⟩ : ∃ s, Renewals.open? lease keeper ttl = some s :=
      ⟨_, Renewals.open?_eq_some_iff.2 ⟨httl, rfl⟩⟩
    obtain ⟨hlive, rfl, rfl⟩ : s.live = true ∧ s.lease = lease ∧ s.keeper = keeper := by
      obtain ⟨-, rfl⟩ := Renewals.open?_eq_some_iff.1 hs
      exact ⟨rfl, rfl, rfl⟩
    refine ⟨s, hs, fun ts => ?_⟩
    obtain ⟨good, rest, rfl, hgood, hrest⟩ := exists_cut RenewalTurn.remaining (0 < ·) ts
    refine ⟨⟨good, rest, rfl, hgood, hrest, Renewals.pulls_append hlive hgood hrest⟩, ?_⟩
    rw [Renewals.items_append hlive hgood hrest]
    exact final_append_closing good _ rest
  · intro lead ts
    obtain ⟨good, rest, rfl, hgood, hrest⟩ := exists_cut WatchTurn.response (·.canceled = false) ts
    have hpulls := Changes.pulls_append (s := { lead }) rfl hgood hrest
    have hbatches : good.map (fun r => some (Except.ok (r.events.filterMap WireEvent.event?))) =
        (good.map fun r => r.events.filterMap WireEvent.event?).map
          fun batch => some (Except.ok (ε := Failure) batch) := by
      rw [List.map_map]
      rfl
    rw [hbatches] at hpulls
    refine ⟨⟨good, rest, rfl, hgood, hrest, _, ?_, hpulls⟩, hpulls ▸ final_append_closing _ _ rest⟩
    rw [List.forall₂_map_right_iff, List.forall₂_same]
    exact fun r _ => forall₂_says r.events

/-- A lease of two seconds, under another number at the server, that is renewed once and then expires. -/
theorem streams_exact_expired :
    (2 : Int) ≤ 18446744073709551 ∧ ∃ s, Renewals.open? 7 8 2 = some s ∧
      Final ((s.pulls [.remaining 2, .remaining 0, .remaining 2]).map (·.item)) ∧
      (s.pulls [.remaining 2, .remaining 0, .remaining 2]).map (fun r => (r.sent, r.item)) =
        [(some (.keepAlive 8), some (.ok 2)), (some (.keepAlive 8), some (.error (.leaseExpired 7))),
          (none, none)] := by
  obtain ⟨s, hs, hall⟩ := streams_exact.1 7 8 2 (by decide)
  refine ⟨by decide, s, hs, (hall _).2, ?_⟩
  obtain ⟨-, rfl⟩ := Renewals.open?_eq_some_iff.1 hs
  rfl

/-- A key under the lead that is no text is not kept: another one stands in the batch. -/
theorem garbled_key_replaced :
    bytes "k" <+: [0x6B, 0xFF] ∧
      Changes.pulls { lead := "k" } [.response ⟨[⟨false, some (⟨#[0x6B, 0xFF]⟩, .empty)⟩], false, ""⟩] =
        [some (.ok [⟨false, "k\uFFFD", .empty⟩])] ∧
      "k\uFFFD".toByteArray ≠ ⟨#[0x6B, 0xFF]⟩ := by
  have hlead : bytes "k" <+: [0x6B, 0xFF] := by decide +kernel
  have hgarbled : Utf8.text? ⟨#[0x6B, 0xFF]⟩ = none := by decide +kernel
  have hlossy : Utf8.lossy ⟨#[0x6B, 0xFF]⟩ = "k\uFFFD" := by
    rw [Utf8.lossy, Utf8.symbols, hgarbled]
    simp [Utf8.scan, Utf8.first, Utf8.lead?]
  refine ⟨hlead, ?_, ?_⟩
  · show [some (Except.ok [KeyEvent.mk false (Utf8.lossy ⟨#[0x6B, 0xFF]⟩) .empty])] = _
    rw [hlossy]
  · intro h
    rw [Utf8.text?_eq_some_iff.2 h] at hgarbled
    cases hgarbled

end Muster.Leased.Remote
