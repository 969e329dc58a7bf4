/-
  The accounts of the rolls: who has come in, who has left, and who is there.

  A run is a list of calls, each with the answer that it was given, on rolls that anyone may have held for any time.

  (1) `Members.accounts` — one roll: of the calls that were answered with "yes", those that put an instance at an
      endpoint are one ahead of those that took it away EXACTLY while the endpoint is a member's, and the member is the
      instance of the last of them;
  (2) `Rolls.members_call`, `Rolls.number?_call` — what a call does to the members under a name, and to the names;
  (3) `Rolls.accounted` — the accounts of every run, of any number of names and rolls.

  THE CRUX: for a name, a call is either nothing at all or a call of its roll.  So a run of the rolls IS, for each name,
  a run of one roll (`Rolls.heard_run`), and the accounts of one roll are those of all.
-/
import Muster.Proofs.Rolls
import Muster.Proofs.Run

namespace Muster

/-! ## One roll -/

namespace Members

/-- **A call of a roll**, with its answer. -/
abbrev Call := Act × Rolls.Answer

/-- The roll after a call, if it gives this answer. -/
def call (m : Members) (c : Call) : Option Members := if (m.act c.1).1 = c.2 then some (m.act c.1).2 else none

/-- **A call that brought an instance in** at an endpoint: a `put` that was answered with "yes". -/
def enters (e : String) : Call → Bool
  | (.put i, .flag true) => i.endpoint == e
  | _ => false

/-- **A call that took the member at an endpoint away**: a `remove` that was answered with "yes". -/
def leaves (e : String) : Call → Bool
  | (.remove i, .flag true) => i.endpoint == e
  | _ => false

section Calls

variable {m m' : Members} {c : Call} {e : String}

theorem call_eq_some_iff : m.call c = some m' ↔ m.act c.1 = (c.2, m') := by
  rw [call, Prod.ext_iff]
  split <;> simp_all

theorem enters_put (e : String) (i : Instance) (b : Bool) : enters e (.put i, .flag b) = (b && i.endpoint == e) := by
  cases b <;> rfl

theorem leaves_remove (e : String) (i : Instance) (b : Bool) :
    leaves e (.remove i, .flag b) = (b && i.endpoint == e) := by
  cases b <;> rfl

/-- A `put` brings its instance in where nobody is, -/
theorem get?_put {i : Instance} (h : m.get? i.endpoint = none) : (m.put i).2.get? i.endpoint = some i := by
  rw [put, get?_insert, h, if_pos rfl, Option.none_or]

/-- and changes nothing elsewhere, or where somebody is. -/
theorem get?_put_of_ne {i : Instance} (h : m.has i.endpoint = false → i.endpoint ≠ e) :
    (m.put i).2.get? e = m.get? e := by
  rw [put, get?_insert]
  by_cases he : i.endpoint = e
  · subst he
    have hhas : m.has i.endpoint = true := by simpa using h
    obtain ⟨j, hj⟩ := Option.isSome_iff_exists.1 hhas
    rw [hj, Option.some_or]
  · rw [if_neg he, Option.or_none]

/-- **All that a call can do at an endpoint**: an instance comes to an empty place, or the member leaves, or nothing
    happens. -/
theorem get?_call (h : m.call c = some m') (e : String) :
    (∃ i, c = (.put i, .flag true) ∧ i.endpoint = e ∧ m.get? e = none ∧ m'.get? e = some i) ∨
    (leaves e c = true ∧ enters e c = false ∧ (m.get? e).isSome = true ∧ m'.get? e = none) ∨
    (leaves e c = false ∧ enters e c = false ∧ m'.get? e = m.get? e) := by
  obtain ⟨a, x⟩ := c
  obtain ⟨hx, hm⟩ := Prod.ext_iff.1 (call_eq_some_iff.1 h)
  dsimp only at hx hm
  subst hx hm
  cases a with
  | put i =>
    by_cases hnew : m.has i.endpoint = false ∧ i.endpoint = e
    · obtain ⟨hfree, rfl⟩ := hnew
      have hnone : m.get? i.endpoint = none := by simpa [has] using hfree
      exact .inl ⟨i, by simp [act, put, hfree], rfl, hnone, get?_put hnone⟩
    · have hsame : m.has i.endpoint = false → i.endpoint ≠ e := not_and.1 hnew
      refine .inr (.inr ⟨rfl, ?_, get?_put_of_ne hsame⟩)
      simpa [act, put, enters_put] using hsame
  | remove i =>
    have hget : (m.remove i).2.get? e = if i.endpoint = e then none else m.get? e := get?_erase m i.endpoint e
    have hleaves : leaves e (.remove i, (m.act (.remove i)).1) = (m.has i.endpoint && i.endpoint == e) :=
      leaves_remove e i (m.has i.endpoint)
    by_cases he : i.endpoint = e
    · subst he
      rw [if_pos rfl] at hget
      cases hhas : m.has i.endpoint with
      | true => exact .inr (.inl ⟨by simp [hleaves, hhas], rfl, hhas, hget⟩)
      | false =>
        have hnone : m.get? i.endpoint = none := by simpa [has] using hhas
        exact .inr (.inr ⟨by simp [hleaves, hhas], rfl, hget.trans hnone.symm⟩)
    · rw [if_neg he] at hget
      exact .inr (.inr ⟨by simp [hleaves, he], rfl, hget⟩)
  | has i => exact .inr (.inr ⟨rfl, rfl, rfl⟩)
  | size => exact .inr (.inr ⟨rfl, rfl, rfl⟩)
  | isEmpty => exact .inr (.inr ⟨rfl, rfl, rfl⟩)
  | list => exact .inr (.inr ⟨rfl, rfl, rfl⟩)

end Calls

/-- **The accounts of a roll** after some calls. -/
structure Accounts (turns : List (Members × Call)) (m : Members) : Prop where
  /-- Those who came in are one ahead of those who left EXACTLY while somebody is there. -/
  balance (e : String) :
    (turns.countP (fun p => enters e p.2) : Int) - turns.countP (fun p => leaves e p.2) = if m.has e then 1 else 0
  /-- Who is there is listed, at one place each. -/
  distinct : (m.list.map Instance.endpoint).Nodup
  /-- Somebody is there EXACTLY if somebody is listed. -/
  listed (e : String) : m.has e = true ↔ ∃ i ∈ m.list, i.endpoint = e
  /-- An instance is listed EXACTLY if it was the last to come in at its endpoint, and nobody has left from there
      since. -/
  latest (i : Instance) : i ∈ m.list ↔
    Run.Since (fun _ c => c = (.put i, .flag true))
      (fun _ c => enters i.endpoint c = true ∨ leaves i.endpoint c = true) turns

section Accounts

variable {turns : List (Members × Call)} {m : Members}

/-- Each call keeps the balance. -/
theorem balance_of_run (h : Run call .empty turns m) (e : String) :
    turns.countP (fun p => enters e p.2) =
      turns.countP (fun p => leaves e p.2) + if (m.get? e).isSome then 1 else 0 := by
  refine h.history (fun past m => past.countP (fun p => enters e p.2) =
    past.countP (fun p => leaves e p.2) + if (m.get? e).isSome then 1 else 0) rfl fun past m c m' _ ih hc => ?_
  simp only [List.countP_append, List.countP_singleton]
  rcases get?_call hc e with ⟨i, rfl, he, hnone, hsome⟩ | ⟨hl, hn, hsome, hnone⟩ | ⟨hl, hn, hsame⟩
  · have hleaves : leaves e (.put i, .flag true) = false := rfl
    rw [hnone] at ih
    simp [ih, hsome, enters_put, he, hleaves]
  · rw [hsome] at ih
    simp [ih, hnone, hl, hn]
  · rw [hsame, ih]
    simp [hl, hn]

/-- The last call that changed something at an endpoint has decided who is there. -/
theorem get?_of_run (h : Run call .empty turns m) (i : Instance) :
    m.get? i.endpoint = some i ↔ Run.Since (fun _ c => c = (.put i, .flag true))
      (fun _ c => enters i.endpoint c = true ∨ leaves i.endpoint c = true) turns := by
  refine h.since_iff (fun m => m.get? i.endpoint = some i) (by simp) fun p _ m' hc => ?_
  rcases get?_call hc i.endpoint with ⟨j, hj, he, hnone, hsome⟩ | ⟨hl, hn, -, hnone⟩ | ⟨hl, hn, hsame⟩
  · simp [hsome, hnone, hj]
  · have hput : p.2 ≠ (.put i, .flag true) := fun hp => by simp [hp, enters] at hn
    simp [hnone, hput, hl]
  · have hput : p.2 ≠ (.put i, .flag true) := fun hp => by simp [hp, enters] at hn
    simp [hsame, hput, hl, hn]

/-- **Every run of a roll keeps its accounts.** -/
theorem accounts (h : Run call .empty turns m) : m.Accounts turns where
  balance e := by
    have hcount := balance_of_run h e
    rw [has]
    by_cases hsome : (m.get? e).isSome = true
    · rw [if_pos hsome] at hcount ⊢
      omega
    · rw [if_neg hsome] at hcount ⊢
      omega
  distinct := m.distinct
  listed e := by
    rw [← Bool.not_eq_false, has_eq_false_iff]
    simp
  latest i := mem_list_iff.trans (get?_of_run h i)

end Accounts

end Members

namespace Rolls

/-! ## Calls -/

/-- **A call of the rolls**, with its answer. -/
abbrev Call := Act × Answer

/-- The rolls after a call, if they give this answer. -/
def call (d : Rolls) (c : Call) : Option Rolls := (d.act c.1).bind fun r => if r.1 = c.2 then some r.2 else none

/-- **What an act asks of the roll of a name.** -/
def asked (d : Rolls) (n : String) : Act → Option Members.Act
  | .on k a => if d.number? n = some k then some a else none
  | _ => none

section Calls

variable {d d' : Rolls} {c : Call} {n : String} {a : Act} {b : Members.Act} {x : Answer}

theorem call_eq_some_iff : d.call c = some d' ↔ d.act c.1 = some (c.2, d') := by
  rw [call, Option.bind_eq_some_iff]
  constructor
  · rintro ⟨r, hr, hif⟩
    obtain ⟨heq, hsome⟩ := Option.ite_none_right_eq_some.1 hif
    rw [hr, ← heq, ← Option.some.inj hsome]
  · exact fun h => ⟨_, h, if_pos rfl⟩

theorem asked_eq_some_iff : d.asked n a = some b ↔ ∃ k, d.number? n = some k ∧ a = .on k b := by
  cases a <;> simp [asked, Option.ite_none_right_eq_some]

/-- **All that a call can do**: a name gets a roll, or the roll of ONE name is asked, or nothing happens. -/
theorem call_cases (h : d.call (a, x) = some d') :
    (∃ n, a = .create n ∧ x = .roll (some (d.create n).1) ∧ d' = (d.create n).2) ∨
    (∃ n k b, d.number? n = some k ∧ a = .on k b ∧ x = ((d.members n).act b).1 ∧
      d' = d.write k ((d.members n).act b).2) ∨
    (d' = d ∧ (∀ n, a ≠ .create n) ∧ ∀ k b, a ≠ .on k b) := by
  have hact : d.act a = some (x, d') := call_eq_some_iff.1 h
  cases a with
  | create n =>
    obtain ⟨hx, hd⟩ := Prod.ext_iff.1 (Option.some.inj hact)
    exact .inl ⟨n, rfl, hx.symm, hd.symm⟩
  | on k b =>
    obtain ⟨y, hy, -⟩ := Option.map_eq_some_iff.1 hact
    obtain ⟨n, hn⟩ := exists_number?_iff.2 (List.getElem?_eq_some_iff.1 hy).1
    obtain ⟨hx, hd⟩ := Prod.ext_iff.1 (Option.some.inj ((act_on hn b).symm.trans hact))
    exact .inr (.inl ⟨n, k, b, hn, rfl, hx.symm, hd.symm⟩)
  | find n => exact .inr (.inr ⟨(Prod.ext_iff.1 (Option.some.inj hact)).2.symm, by simp, by simp⟩)
  | knows n => exact .inr (.inr ⟨(Prod.ext_iff.1 (Option.some.inj hact)).2.symm, by simp, by simp⟩)
  | names => exact .inr (.inr ⟨(Prod.ext_iff.1 (Option.some.inj hact)).2.symm, by simp, by simp⟩)

/-- **For a name, a call is a call of its roll, or nothing at all.** -/
theorem members_call (h : d.call (a, x) = some d') (n : String) :
    (∃ b, d.asked n a = some b ∧ (d.members n).call (b, x) = some (d'.members n)) ∨
      (d.asked n a = none ∧ d'.members n = d.members n) := by
  rcases call_cases h with ⟨m, rfl, -, rfl⟩ | ⟨m, k, b, hm, rfl, rfl, rfl⟩ | ⟨rfl, -, hno⟩
  · exact .inr ⟨rfl, members_create d m n⟩
  · rw [members_write hm]
    by_cases hn : n = m
    · subst hn
      exact .inl ⟨b, if_pos hm, by rw [if_pos rfl, Members.call_eq_some_iff]⟩
    · exact .inr ⟨if_neg fun hk => hn (number?_inj hk hm), if_neg hn⟩
  · refine .inr ⟨Option.eq_none_iff_forall_ne_some.2 fun b hb => ?_, rfl⟩
    obtain ⟨k, -, rfl⟩ := asked_eq_some_iff.1 hb
    exact hno k b rfl

/-- **A name has a number EXACTLY if it had it, or this is the call that was given it.** -/
theorem number?_call (h : d.call (a, x) = some d') (n : String) (k : Nat) :
    d'.number? n = some k ↔ d.number? n = some k ∨ (a, x) = (.create n, .roll (some k)) := by
  rcases call_cases h with ⟨m, rfl, rfl, rfl⟩ | ⟨m, j, b, -, rfl, rfl, rfl⟩ | ⟨rfl, hno, -⟩
  · rw [number?_create]
    by_cases hn : n = m
    · subst hn
      have hknown : d.number? n = some k → (d.create n).1 = k := fun hk => by rw [create_of_some hk]
      simpa using hknown
    · simp [hn, Ne.symm hn]
  · simp [number?, write]
  · simp [hno n]

end Calls

/-! ## Runs -/

/-- **What the roll of a name has heard** of a run: the calls that went through its number, each with the members at the
    time. -/
def heard (n : String) (turns : List (Rolls × Call)) : List (Members × Members.Call) :=
  turns.filterMap fun p => (p.1.asked n p.2.1).map fun b => (p.1.members n, b, p.2.2)

section Runs

variable {s t : Rolls} {turns : List (Rolls × Call)} {n : String} {k : Nat}

/-- **A run of the rolls is, for each name, a run of its roll.** -/
theorem heard_run (h : Run call s turns t) (n : String) :
    Run Members.call (s.members n) (heard n turns) (t.members n) := by
  induction h with
  | nil s => exact .nil _
  | @cons s u t c turns hc _ ih =>
    obtain ⟨a, x⟩ := c
    rcases members_call hc n with ⟨b, hb, hcall⟩ | ⟨hnone, hsame⟩
    · rw [heard, List.filterMap_cons_some (by rw [hb]; rfl)]
      exact .cons hcall ih
    · rw [heard, List.filterMap_cons_none (by rw [hnone]; rfl), ← hsame]
      exact ih

/-- **A name has a number EXACTLY if one call was given it.** -/
theorem number?_iff (h : Run call .empty turns t) :
    t.number? n = some k ↔ ∃ p ∈ turns, p.2 = (.create n, .roll (some k)) := by
  have hever := @Run.ever_iff _ _ call .empty t turns h (fun d => d.number? n = some k)
    (fun _ c => c = (.create n, .roll (some k))) fun p _ v hc => number?_call hc n k
  simpa [number?, empty] using hever

/-- A name keeps its number for good. -/
theorem number?_kept (h : Run call s turns t) (hk : s.number? n = some k) : t.number? n = some k :=
  h.invariant (fun d => d.number? n = some k) hk fun _ _ _ hq hc => (number?_call hc n k).2 (.inl hq)

theorem number?_last (h : Run call s turns t) {p : Rolls × Call} (hp : p ∈ turns)
    (hk : p.1.number? n = some k) : t.number? n = some k := by
  obtain ⟨front, back, v, -, -, hv, hback⟩ := h.split hp
  exact number?_kept hback ((number?_call hv n k).2 (.inl hk))

/-- Who asks for the roll of a name is given its number, -/
theorem create_answer (h : Run call s turns t) {p : Rolls × Call} (hp : p ∈ turns) {x : Answer}
    (hx : p.2 = (.create n, x)) : ∃ k, x = .roll (some k) ∧ t.number? n = some k := by
  obtain ⟨front, back, v, -, -, hv, hback⟩ := h.split hp
  rw [hx] at hv
  have hact : some (Answer.roll (some (p.1.create n).1), (p.1.create n).2) = some (x, v) := call_eq_some_iff.1 hv
  obtain ⟨rfl, -⟩ := Prod.ext_iff.1 (Option.some.inj hact)
  exact ⟨_, rfl, number?_kept hback ((number?_call hv n _).2 (.inr rfl))⟩

/-- and so is who looks for it, if there is one. -/
theorem find_answer (h : Run call s turns t) {p : Rolls × Call} (hp : p ∈ turns)
    (hx : p.2 = (.find n, .roll (some k))) : t.number? n = some k := by
  obtain ⟨front, back, v, -, -, hv, -⟩ := h.split hp
  rw [hx] at hv
  have hact : some (Answer.roll (p.1.number? n), p.1) = some (.roll (some k), v) := call_eq_some_iff.1 hv
  obtain ⟨hroll, -⟩ := Prod.ext_iff.1 (Option.some.inj hact)
  exact number?_last h hp (Answer.roll.inj hroll)

end Runs

/-! ## The accounts -/

/-- **The acts that are about a name**: those for its roll, and those of its roll. -/
def Concerns (d : Rolls) (n : String) : Act → Prop
  | .create m => m = n
  | .find m => m = n
  | .knows m => m = n
  | .names => False
  | .on k _ => d.number? n = some k

/-- **What is about one name leaves every other one alone.** -/
theorem apart_call {d d' : Rolls} {m n : String} {a : Act} {x : Answer} (h : d.call (a, x) = some d')
    (about : d.Concerns m a) (hne : n ≠ m) : d'.number? n = d.number? n ∧ d'.members n = d.members n := by
  constructor
  · refine Option.ext fun k => ?_
    rw [number?_call h n k, or_iff_left]
    rintro ⟨⟩
    exact hne about
  · rcases members_call h n with ⟨b, hb, -⟩ | ⟨-, hsame⟩
    · obtain ⟨k, hk, rfl⟩ := asked_eq_some_iff.1 hb
      exact absurd (number?_inj hk about) hne
    · exact hsame

/-- **The accounts of a run**, with the rolls at its end. -/
structure Accounted (turns : List (Rolls × Call)) (t : Rolls) : Prop where
  /-- What a name's roll has heard, through whoever holds it, accounts for the members under the name. -/
  accounts (n : String) : (t.members n).Accounts (heard n turns)
  /-- Who holds the roll of a name is told who they are, and how many, and changes nothing by asking. -/
  held (n : String) (k : Nat) : t.number? n = some k →
    t.act (.on k .list) = some (.instances (t.members n).list, t) ∧
    t.act (.on k .size) = some (.count (t.members n).list.length, t) ∧
    t.act (.on k .isEmpty) = some (.flag (t.members n).list.isEmpty, t) ∧
    ∀ i, t.act (.on k (.has i)) = some (.flag ((t.members n).has i.endpoint), t)
  /-- What was about one name has left every other one alone. -/
  apart : ∀ p ∈ turns, ∀ v, p.1.call p.2 = some v → ∀ m n, p.1.Concerns m p.2.1 → n ≠ m →
    v.number? n = p.1.number? n ∧ v.members n = p.1.members n
  /-- All who have asked for the roll of a name were given ONE number, -/
  same (n : String) : ∀ p ∈ turns, ∀ x, p.2 = (.create n, x) → ∃ k, x = .roll (some k) ∧ t.number? n = some k
  /-- which whoever looked for it has been given, too, -/
  found (n : String) (k : Nat) : ∀ p ∈ turns, p.2 = (.find n, .roll (some k)) → t.number? n = some k
  /-- and whoever asks again will be, -/
  again (n : String) (k : Nat) : t.number? n = some k → t.act (.create n) = some (.roll (some k), t)
  /-- and no one for another name. -/
  own (m n : String) (k : Nat) : t.number? m = some k → t.number? n = some k → m = n
  /-- The names are those whose rolls were asked for, each once, -/
  known : t.act .names = some (.names t.names, t) ∧ t.names.Nodup ∧
    ∀ n, n ∈ t.names ↔ ∃ p ∈ turns, ∃ x, p.2 = (.create n, x)
  /-- and none that there was has gone. -/
  kept : ∀ p ∈ turns, ∀ n ∈ p.1.names, n ∈ t.names
  /-- There is an answer for every number that was given out, and for no other. -/
  possible (k : Nat) (b : Members.Act) :
    (t.act (.on k b)).isSome = true ↔ ∃ p ∈ turns, ∃ n, p.2 = (.create n, .roll (some k))

/-- **Every run keeps its accounts**, whatever is asked of whichever rolls, and in which order.  The beginning of a run
    is a run, so they are kept after each of its calls. -/
theorem accounted {turns : List (Rolls × Call)} {t : Rolls} (h : Run call .empty turns t) : Accounted turns t where
  accounts n := Members.accounts (heard_run h n)
  held n k hk := by
    have hask (b : Members.Act) (x : Answer) (hb : (t.members n).act b = (x, t.members n)) :
        t.act (.on k b) = some (x, t) := by
      rw [act_on hk, hb, write_self hk]
    have hempty : (t.members n).act .isEmpty = (.flag (t.members n).list.isEmpty, t.members n) := by
      rw [Members.act, Members.size]
      cases (t.members n).list <;> rfl
    exact ⟨hask .list _ rfl, hask .size _ rfl, hask .isEmpty _ hempty, fun i => hask (.has i) _ rfl⟩
  apart p _ v hv m n := apart_call hv
  same n p hp x hx := create_answer h hp hx
  found n k p hp hx := find_answer h hp hx
  again n k hk := by rw [act, create_of_some hk]
  own m n k := number?_inj
  known := by
    refine ⟨rfl, t.distinct, fun n => ?_⟩
    rw [mem_names_iff]
    constructor
    · rintro ⟨k, hk⟩
      obtain ⟨p, hp, hx⟩ := (number?_iff h).1 hk
      exact ⟨p, hp, _, hx⟩
    · rintro ⟨p, hp, x, hx⟩
      obtain ⟨k, -, hk⟩ := create_answer h hp hx
      exact ⟨k, hk⟩
  kept p hp n hn := by
    obtain ⟨k, hk⟩ := mem_names_iff.1 hn
    exact mem_names_iff.2 ⟨k, number?_last h hp hk⟩
  possible k b := by
    have hgiven : (t.act (.on k b)).isSome = true ↔ k < t.rolls.length := by
      simp [act, roll?]
    rw [hgiven, ← exists_number?_iff]
    simp only [number?_iff h]
    constructor
    · rintro ⟨n, p, hp, hx⟩
      exact ⟨p, hp, n, hx⟩
    · rintro ⟨p, hp, n, hx⟩
      exact ⟨n, p, hp, hx⟩

/-- Calls in which the first instance at an endpoint stays until somebody takes it away, and a roll that was asked for
    before is the one that its name leads to afterwards. -/
def sampleCalls : List Call :=
  [(.create "order", .roll (some 0)), (.create "payment", .roll (some 1)),
    (.on 0 (.put ⟨"order", "10.0.0.1", 9000⟩), .flag true), (.create "order", .roll (some 0)),
    (.on 0 (.put ⟨"billing", "10.0.0.1", 9000⟩), .flag false), (.on 1 .list, .instances []),
    (.on 0 .list, .instances [⟨"order", "10.0.0.1", 9000⟩]),
    (.on 0 (.remove ⟨"billing", "10.0.0.1", 9000⟩), .flag true), (.find "order", .roll (some 0)),
    (.on 0 .size, .count 0)]

/-- They are the calls of a run, which keeps its accounts. -/
theorem accounted_sample : ∃ turns t, Run call .empty turns t ∧ turns.map Prod.snd = sampleCalls ∧
    Accounted turns t := by
  have hpossible : (sampleCalls.foldlM call .empty).isSome = true := by decide +kernel
  obtain ⟨t, ht⟩ := Option.isSome_iff_exists.1 hpossible
  obtain ⟨turns, hrun, hcalls⟩ := Run.of_foldlM ht
  exact ⟨turns, t, hrun, hcalls, accounted hrun⟩

end Rolls

end Muster
