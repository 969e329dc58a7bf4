/-
  What a watch shows of its service.

  The watch of a service is a loop of queries, each for what changes after an index.  What it makes of
  the answers is a small machine: a `Mirror` keeps the index to ask with, and which endpoints it shows.

  (1) `Mirror.after` — the machine.  A result at the index that was asked with, and a failure, change
      nothing.  A result at another index is shown as it is: the endpoints whose last report passes, and
      no other.  An index that went back starts from 0, and so does every watch that begins.
  (2) `Mirrors` — the backend is what the machine says: the cache holds what is shown, and the query that
      is under way asks with the index.  While a service that is seen for the first time is being loaded,
      the cache is behind, and the result that waits is what is shown.
  (3) `watch_mirrors` — along every run in which nobody queries the service, the backend stays so.

  THE CRUX (`Turn.mirrors`): whatever a first load brings, the result that waited for it is applied on
  top, and a result that is applied leaves nothing of what there was.
-/
import Muster.Proofs.Probed.Watching

namespace Muster.Probed

/-! ## The machine -/

/-- What a watch hears. -/
inductive News where
  /-- It begins. -/
  | begins
  /-- A query was answered, at an index. -/
  | result (new : UInt64) (l : List Report)
  /-- A query failed. -/
  | failed
deriving DecidableEq

/-- **What a watch makes of it**: the index to ask with, and the endpoints that are shown. -/
structure Mirror where
  index : UInt64
  shown : String → Bool

/-- **The mirror after some news.** -/
def Mirror.after (m : Mirror) : News → Mirror
  | .begins => { m with index := 0 }
  | .result new l => if new = m.index then m else ⟨if new < m.index then 0 else new, passes l⟩
  | .failed => m

/-- What a watch hears in a signal. -/
def Watch.news? : Watch → Signal Reply Item → Option News
  | .fresh, .turn => some .begins
  | .querying .., .reply (.ok (.indexed new l)) => some (.result new l)
  | .querying .., .reply (.error _) => some .failed
  | _, _ => none

/-- What the watch of a service hears in an act. -/
def State.news? (n : String) (s : State) : Act → Option News
  | .signal id sig => (s.role (Process.watchOf? n) id).bind fun w => w.news? sig
  | _ => none

/-- What it hears along a run. -/
def newsOf (n : String) (turns : List (State × Act)) : List News :=
  turns.filterMap fun p => p.1.news? n p.2

/-- The watch of a service loads it for the first time. -/
def State.Loads (s : State) (n : String) : Prop :=
  ∃ id i l, s.process? id = some (.watch n (.loading i l))

/-- **The backend is what the mirror says.** -/
structure Mirrors (c : Settings) (s : State) (n : String) (m : Mirror) : Prop where
  /-- The cache holds what is shown, unless the service is being loaded. -/
  cached : ¬ s.Loads n → ∀ e, s.registry.has n e = m.shown e
  /-- What is then shown is the result that waits. -/
  loading : ∀ id i l, s.process? id = some (.watch n (.loading i l)) →
    i = m.index ∧ passes l = m.shown
  /-- A query asks with the index. -/
  querying : ∀ id i f, s.process? id = some (.watch n (.querying i f)) →
    i = m.index ∧ s.requests.lookup id = some (.changes n c.scope m.index c.watch.wait)
  backingOff : ∀ id i f, s.process? id = some (.watch n (.backingOff i f)) → i = m.index

/-! ## Beside a watch -/

/-- **Nobody touched the watch of a service**; at most, it has been started. -/
structure Beside (n : String) (s t : State) : Prop where
  keeps : ∀ k w, s.role (Process.watchOf? n) k = some w → t.role (Process.watchOf? n) k = some w
  only : ∀ k w, t.role (Process.watchOf? n) k = some w →
    s.role (Process.watchOf? n) k = some w ∨ w = .fresh
  asked : ∀ k w, s.role (Process.watchOf? n) k = some w →
    t.requests.lookup k = s.requests.lookup k

theorem Process.watchOf?_eq_none {n : String} {p : Process} (hp : ∀ w, p ≠ .watch n w) :
    p.watchOf? n = none := by
  cases h : p.watchOf? n with
  | none => rfl
  | some w => exact absurd (Process.watchOf?_eq_some_iff.1 h) (hp w)

namespace Beside

variable {n : String} {s t u : State} {id : Nat} {p : Process}

theorem trans (h : Beside n s t) (g : Beside n t u) : Beside n s u where
  keeps k w hk := g.keeps k w (h.keeps k w hk)
  only k _ hk := (g.only k _ hk).elim (h.only k _) .inr
  asked k w hk := (g.asked k w (h.keeps k w hk)).trans (h.asked k w hk)

/-- What changes no watch of the service, and sends nothing for one. -/
theorem of_role (hr : ∀ k, t.role (Process.watchOf? n) k = s.role (Process.watchOf? n) k)
    (hq : ∀ k w, s.role (Process.watchOf? n) k = some w →
      t.requests.lookup k = s.requests.lookup k) : Beside n s t where
  keeps k _ hk := (hr k).trans hk
  only k _ hk := .inl ((hr k).symm.trans hk)
  asked := hq

theorem of_books (hp : ∀ k, t.process? k = s.process? k) (hq : t.requests = s.requests) :
    Beside n s t :=
  .of_role (fun k => by rw [Session.role, hp, Session.role]) fun _ _ _ => by rw [hq]

theorem of_alike (h : t.Alike s) : Beside n s t := .of_books h.process? h.requests

/-- Another process ends. -/
theorem finish (hid : s.process? id = some p) (hp : ∀ w, p ≠ .watch n w)
    (ht : ∀ k, t.process? k = (s.finish id).process? k) (hq : t.requests = s.requests) :
    Beside n s t := by
  refine .of_role (fun k => ?_) fun _ _ _ => by rw [hq]
  rw [Session.role_finish ht]
  by_cases hk : k = id
  · rw [if_pos hk, hk, Session.role_of_process? hid, Process.watchOf?_eq_none hp]
  · rw [if_neg hk]

/-- Another process goes on as another, and may ask for something. -/
theorem goesOn {q : Process} (hid : s.process? id = some p) (hp : ∀ w, p ≠ .watch n w)
    (hq : ∀ w, q ≠ .watch n w) (ht : ∀ k, t.process? k = (s.become id q).process? k)
    (hr : ∀ k, k ≠ id → t.requests.lookup k = s.requests.lookup k) : Beside n s t := by
  have hid' : s.role (Process.watchOf? n) id = none := by
    rw [Session.role_of_process? hid, Process.watchOf?_eq_none hp]
  refine .of_role (fun k => ?_) fun k w hk => hr k ?_
  · rw [Session.role_become hid ht, Process.watchOf?_eq_none hq]
    by_cases hk : k = id
    · rw [if_pos hk, hk, hid']
    · rw [if_neg hk]
  · rintro rfl
    rw [hid'] at hk
    cases hk

/-- A call begins, with a request. -/
theorem begins (hn : s.Numbered) (r : Request) {q : Process} (hq : ∀ w, q ≠ .watch n w) :
    Beside n s (s.begin r q) := by
  refine .of_role (Session.role_begin_none hn r (Process.watchOf?_eq_none hq)) fun k w hk => ?_
  have hne : k ≠ s.nextId := hn.ne_nextId (role_watchOf?_iff.1 hk)
  rw [(Session.begin_books s r q).2.2.2.2.2.2, List.lookup_cons, beq_eq_false_iff_ne.2 hne]

/-- **A watch that is started has not begun.** -/
theorem ensure (service : String) : Beside n s (ensureWatch service s) := by
  have hp := (ensureWatch_books service s).2.2.2.1
  have hor (k : Nat) : ∃ o, (ensureWatch service s).process? k = (s.process? k).or o ∧
      ∀ v, o = some v → v = .watch service .fresh := by
    rw [hp]
    split
    · exact ⟨none, by rw [Option.or_none], fun v hv => by cases hv⟩
    · refine ⟨_, rfl, fun v hv => ?_⟩
      split at hv
      · exact (Option.some.inj hv).symm
      · cases hv
  refine ⟨fun k w hk => ?_, fun k w hk => ?_, fun k w _ => ?_⟩
  · obtain ⟨o, ho, -⟩ := hor k
    rw [role_watchOf?_iff] at hk ⊢
    rw [ho, hk]; rfl
  · obtain ⟨o, ho, hfresh⟩ := hor k
    rw [role_watchOf?_iff] at hk ⊢
    rw [ho] at hk
    cases hs : s.process? k with
    | some p => rw [hs] at hk; exact .inl hk
    | none =>
      rw [hs] at hk
      exact .inr (Process.watch.inj (hfresh _ hk)).2
  · rw [(ensureWatch_books service s).2.2.2.2.2.2]

end Beside

section Turns

variable {c : Settings} {s t : State} {id : Nat} {p : Process} {sig : Signal Reply Item}
  {n : String} {m : Mirror}

/-- **Whoever is no watch of a service leaves its watch alone.** -/
theorem Turn.beside (h : Turn c s id p sig t) (hid : s.process? id = some p)
    (hp : ∀ w, p ≠ .watch n w) : Beside n s t := by
  cases p with
  | watch service w =>
    have hne : service ≠ n := fun he => hp w (by rw [he])
    rcases h.of_watch with ⟨w', ht, -, hr⟩ | ⟨ht, -, -, hr⟩
    · exact .goesOn hid hp (fun v hv => hne (Process.watch.inj hv).1) ht hr
    · exact .finish hid hp ht hr
  | querying service =>
    cases h with
    | finds l o =>
      have hlive := process?_ensureWatch service
        (((merge_alike service l s).process? id).trans hid)
      have ha : Beside n s (ensureWatch service (merge service l s)) :=
        (Beside.of_alike (merge_alike service l s)).trans (.ensure service)
      exact ha.trans (.finish hlive hp (fun _ => rfl) rfl)
    | findFails => exact .finish hid hp (fun _ => rfl) rfl
  | registering => cases h <;> exact .finish hid hp (fun _ => rfl) rfl
  | deregistering => cases h <;> exact .finish hid hp (fun _ => rfl) rfl
  | closing => cases h; exact .finish hid hp (fun _ => rfl) rfl

/-- **Whoever is no watch and no query of a service leaves its members alone.** -/
theorem Turn.get?_eq (h : Turn c s id p sig t) (hp : ∀ w, p ≠ .watch n w)
    (hq : p ≠ .querying n) : t.registry.get? n = s.registry.get? n := by
  cases p with
  | watch service w =>
    have hne : n ≠ service := fun he => hp w (by rw [he])
    exact h.only n hne
  | querying service =>
    have hne : n ≠ service := fun he => hq (by rw [he])
    cases h with
    | finds l o =>
      show (ensureWatch service (merge service l s)).registry.get? n = _
      rw [(ensureWatch_books ..).2.1]
      exact merge_only service l s n hne
    | findFails => rfl
  | registering => cases h <;> rfl
  | deregistering => cases h <;> rfl
  | closing => cases h; rfl

/-! ## The watch itself -/

/-- Where nobody touched the watch, only what is cached may be new. -/
theorem Mirrors.reshown (h : Mirrors c s n m) (g : Beside n s t) {shown : String → Bool}
    (hc : ¬ t.Loads n → ∀ e, t.registry.has n e = shown e) (hl : t.Loads n → shown = m.shown) :
    Mirrors c t n ⟨m.index, shown⟩ := by
  have hback {k : Nat} {w : Watch} (hw : w ≠ .fresh) (hk : t.process? k = some (.watch n w)) :
      s.process? k = some (.watch n w) :=
    role_watchOf?_iff.1 ((g.only k w (role_watchOf?_iff.2 hk)).resolve_right hw)
  refine ⟨hc, fun id i l hk => ?_, fun id i f hk => ?_, fun id i f hk => ?_⟩
  · obtain ⟨hi, hshown⟩ := h.loading id i l (hback (by simp) hk)
    exact ⟨hi, hshown.trans (hl ⟨id, i, l, hk⟩).symm⟩
  · have hs := hback (by simp) hk
    rw [g.asked id _ (role_watchOf?_iff.2 hs)]
    exact h.querying id i f hs
  · exact h.backingOff id i f (hback (by simp) hk)

/-- Where nobody touched the watch and the members, the mirror is the same. -/
theorem Mirrors.beside (h : Mirrors c s n m) (g : Beside n s t)
    (hr : t.registry.get? n = s.registry.get? n) : Mirrors c t n m := by
  refine h.reshown g (fun hl e => ?_) fun _ => rfl
  rw [Registry.has, Registry.members, hr]
  refine h.cached (fun hs => hl ?_) e
  obtain ⟨id, i, l, hk⟩ := hs
  exact ⟨id, i, l, role_watchOf?_iff.1 (g.keeps id _ (role_watchOf?_iff.2 hk))⟩

/-- Where nobody touched the watch, there is a mirror if there was one. -/
theorem Mirrors.exists_beside (h : Mirrors c s n m) (g : Beside n s t) :
    ∃ m', Mirrors c t n m' := by
  by_cases hl : t.Loads n
  · exact ⟨_, h.reshown g (fun hno => absurd hl hno) fun _ => rfl⟩
  · have hc (_ : ¬ t.Loads n) (e : String) : t.registry.has n e = t.registry.has n e := rfl
    exact ⟨_, h.reshown g hc fun hyes => absurd hyes hl⟩

/-! ## The watch itself -/

/-- A service has no other watch. -/
theorem State.Supervised.unique {k : Nat} {w v : Watch} (hs : s.Supervised)
    (hid : s.process? id = some (.watch n w)) (hk : s.process? k = some (.watch n v)) :
    k = id ∧ v = w := by
  obtain ⟨o, ho⟩ := hs.watcher n
  have he := (ho.sole.eq_of_role (role_watchOf?_iff.2 hk)).symm.trans
    (ho.sole.eq_of_role (role_watchOf?_iff.2 hid))
  exact Prod.mk.inj (Option.some.inj he)

/-- What a watch is that goes on. -/
theorem process?_become_self {u : State} {q : Process} (hid : u.process? id = some p) :
    Session.process? (u.become id q) id = some q := by
  rw [Session.process?_become, if_pos rfl, hid]; rfl

theorem mirrors_query {u : State} {f : Nat} (hs : (c.query u id n m.index f).Supervised)
    (hid : u.process? id = some p) (hc : ∀ e, u.registry.has n e = m.shown e) :
    Mirrors c (c.query u id n m.index f) n m := by
  have hlive : (c.query u id n m.index f).process? id =
      some (.watch n (.querying m.index f)) := process?_become_self hid
  refine ⟨fun _ => hc, fun k i l hk => ?_, fun k i g hk => ?_, fun k i g hk => ?_⟩
  · cases (hs.unique hlive hk).2
  · obtain ⟨rfl, hw⟩ := hs.unique hlive hk
    refine ⟨(Watch.querying.inj hw).1, ?_⟩
    rw [Settings.query, (Session.ask_books ..).2.2.2.2.2.2, List.lookup_cons_self]
  · cases (hs.unique hlive hk).2

theorem mirrors_load {u : State} {r : Request} {l : List Report}
    (hs : State.Supervised (u.ask id r (.watch n (.loading m.index l))))
    (hid : u.process? id = some p) (hl : passes l = m.shown) :
    Mirrors c (u.ask id r (.watch n (.loading m.index l))) n m := by
  have hlive : Session.process? (u.ask id r (.watch n (.loading m.index l))) id =
      some (.watch n (.loading m.index l)) := process?_become_self hid
  refine ⟨fun hno => absurd ⟨id, _, _, hlive⟩ hno, fun k i l' hk => ?_, fun k i g hk => ?_,
    fun k i g hk => ?_⟩
  · obtain ⟨rfl, rfl⟩ := Watch.loading.inj (hs.unique hlive hk).2
    exact ⟨rfl, hl⟩
  · cases (hs.unique hlive hk).2
  · cases (hs.unique hlive hk).2

theorem mirrors_pause {u : State} {f : Nat}
    (hs : State.Supervised (u.become id (.watch n (.backingOff m.index f))))
    (hid : u.process? id = some p) (hc : ∀ e, u.registry.has n e = m.shown e) :
    Mirrors c (u.become id (.watch n (.backingOff m.index f))) n m := by
  have hlive : Session.process? (u.become id (.watch n (.backingOff m.index f))) id =
      some (.watch n (.backingOff m.index f)) := process?_become_self hid
  refine ⟨fun _ => hc, fun k i l hk => ?_, fun k i g hk => ?_, fun k i g hk => ?_⟩
  · cases (hs.unique hlive hk).2
  · cases (hs.unique hlive hk).2
  · exact (Watch.backingOff.inj (hs.unique hlive hk).2).1

/-- Without a watch there is only the cache to be mirrored. -/
theorem mirrors_idle (hno : ∀ k w, t.process? k = some (.watch n w) → w = .fresh)
    (hc : ∀ e, t.registry.has n e = m.shown e) : Mirrors c t n m := by
  refine ⟨fun _ => hc, fun k i l hk => ?_, fun k i f hk => ?_, fun k i f hk => ?_⟩
  all_goals cases hno k _ hk

/-- **What the watch of a service does, the mirror does.** -/
theorem Turn.mirrors {w : Watch} (h : Turn c s id (.watch n w) sig t) (hs : s.Supervised)
    (hn : s.Numbered) (hid : s.process? id = some (.watch n w)) (hm : Mirrors c s n m) :
    Mirrors c t n ((w.news? sig).elim m m.after) := by
  have ht := h.supervised hs hn hid
  -- the cache is only behind while this very watch is loading
  have hshown (hw : ∀ i l, w ≠ .loading i l) (e : String) : s.registry.has n e = m.shown e := by
    refine hm.cached ?_ e
    rintro ⟨k, i, l, hk⟩
    exact hw i l (hs.unique hid hk).2.symm
  have hgone (u : State) (hu : ∀ k, u.process? k = s.process? k) (k : Nat) (v : Watch)
      (hk : (endWatch u id n).process? k = some (.watch n v)) : v = .fresh := by
    rw [(endWatch_books u id n).2.2.2.1, Session.process?_finish, hu] at hk
    split at hk
    · cases hk
    · rename_i hne
      exact absurd (hs.unique hid hk).1 hne
  cases h with
  | begins l => exact mirrors_query (m := ⟨0, m.shown⟩) ht hid (hshown (by simp))
  | @repeats _ index failures l ls =>
    obtain ⟨rfl, -⟩ := hm.querying id index failures hid
    obtain ⟨-, hreg, -, hp, -⟩ := heard_books s ls
    have hsame : m.after (.result m.index l) = m := if_pos rfl
    show Mirrors c _ n (m.after (.result m.index l))
    rw [hsame]
    refine mirrors_query ht ((hp id).trans hid) fun e => ?_
    rw [hreg]
    exact hshown (by simp) e
  | @changes _ index failures new l ls hnew hk =>
    obtain ⟨rfl, -⟩ := hm.querying id index failures hid
    obtain ⟨-, -, -, hp, -⟩ := heard_books s ls
    have hnext : m.after (.result new l) = ⟨nextIndex m.index new, passes l⟩ := if_neg hnew
    show Mirrors c _ n (m.after (.result new l))
    rw [hnext]
    have hlive := ((apply_alike n l (s.heard ls)).process? id).trans ((hp id).trans hid)
    exact mirrors_query (m := ⟨nextIndex m.index new, passes l⟩) ht hlive
      (apply_has n l (s.heard ls))
  | @sights _ index failures new l ls hnew hk =>
    obtain ⟨rfl, -⟩ := hm.querying id index failures hid
    obtain ⟨-, -, -, hp, -⟩ := heard_books s ls
    have hnext : m.after (.result new l) = ⟨nextIndex m.index new, passes l⟩ := if_neg hnew
    show Mirrors c _ n (m.after (.result new l))
    rw [hnext]
    exact mirrors_load (m := ⟨nextIndex m.index new, passes l⟩) ht ((hp id).trans hid) rfl
  | @backsOff _ index failures f l =>
    obtain ⟨rfl, -⟩ := hm.querying id index failures hid
    exact mirrors_pause ht hid (hshown (by simp))
  | @givesUp _ index failures f l =>
    refine mirrors_idle (hgone _ (by simp)) fun e => ?_
    rw [(endWatch_books ..).2.1, (Session.setDegraded_books ..).2.1]
    exact hshown (by simp) e
  | stops ls hc hw =>
    have hnews : w.news? .cancelled = none := by cases w <;> rfl
    rw [hnews]
    refine mirrors_idle (hgone _ (by simp)) fun e => ?_
    rw [(endWatch_books ..).2.1, (Session.notes_books ..).2.1]
    exact hshown hw e
  | @loads _ index l loaded =>
    obtain ⟨rfl, hl⟩ := hm.loading id index l hid
    have ha := (apply_alike n l _).trans (merge_alike n loaded s)
    refine mirrors_query ht ((ha.process? id).trans hid) fun e => ?_
    rw [apply_has, hl]
  | @loadFails _ index l _ f line =>
    obtain ⟨rfl, hl⟩ := hm.loading id index l hid
    have ha := apply_alike n l (s.note line)
    refine mirrors_query ht ((ha.process? id).trans hid) fun e => ?_
    rw [apply_has, hl]
  | @retries _ index failures =>
    obtain rfl := hm.backingOff id index failures hid
    exact mirrors_query ht hid (hshown (by simp))

end Turns

/-! ## Acts and runs -/

section Runs

variable {c : Settings} {s t : State} {a : Act} {n : String} {m : Mirror}
  {turns : List (State × Act)}

theorem beside_call (c : Settings) (hn : s.Numbered) (k : Call) : Beside n s (c.call s k) := by
  cases k with
  | register | deregister => exact .begins hn _ (by simp)
  | instances service =>
    unfold Settings.call
    dsimp only
    split
    · rename_i m _
      have hb : Beside n s (s.instant (.instances m.list)) := .of_books (fun _ => rfl) rfl
      exact hb.trans (.ensure service)
    · exact .begins hn _ (by simp)
  | shutdown =>
    have hp := Session.process?_spawn s.close Process.closing
    exact .of_role (Session.role_or_none (s := s.close) rfl hp) fun _ _ _ => rfl

/-- **An act is one of the watch's, or leaves it alone**; and then it leaves the members alone, unless it
    answers a query. -/
theorem Settings.watch_or_beside (h : c.act s a = some t) (hn : s.Numbered) (n : String) :
    (∃ id sig w, a = .signal id sig ∧ s.process? id = some (.watch n w) ∧
      Turn c s id (.watch n w) sig t) ∨
    (Beside n s t ∧ s.news? n a = none ∧
      ((∀ id, s.process? id ≠ some (.querying n)) → t.registry.get? n = s.registry.get? n)) := by
  cases a with
  | call k =>
    obtain rfl := Option.some.inj h
    exact .inr ⟨beside_call c hn k, rfl, fun _ => by rw [registry_call]⟩
  | signal id sig =>
    obtain ⟨p, hp, hturn⟩ := Settings.turn h
    by_cases hw : ∃ w, p = .watch n w
    · obtain ⟨w, rfl⟩ := hw
      exact .inl ⟨id, sig, w, rfl, hp, hturn⟩
    · have hno : ∀ w, p ≠ .watch n w := fun w he => hw ⟨w, he⟩
      refine .inr ⟨hturn.beside hp hno, ?_, fun hq => hturn.get?_eq hno ?_⟩
      · rw [State.news?, Session.role_of_process? hp, Process.watchOf?_eq_none hno]; rfl
      · rintro rfl
        exact hq id hp
  | abandon id =>
    obtain ⟨p, hp, hcall, rfl⟩ := Settings.act_abandon_iff.1 h
    -- a watch is a task, and cannot be abandoned
    have hno : ∀ w, p ≠ .watch n w := by
      rintro w rfl
      cases hcall
    exact .inr ⟨.finish hp hno (fun _ => rfl) rfl, rfl, fun _ => rfl⟩
  | drop =>
    obtain rfl := Option.some.inj h
    exact .inr ⟨.of_books (fun _ => rfl) rfl, rfl, fun _ => rfl⟩

/-- What a turn of the watch is to the mirror, as an act. -/
theorem news?_signal {id : Nat} {sig : Signal Reply Item} {w : Watch}
    (hid : s.process? id = some (.watch n w)) : s.news? n (.signal id sig) = w.news? sig := by
  rw [State.news?, role_watchOf?_iff.2 hid]; rfl

/-- **Where nobody queries the service, the mirror does what the backend does.** -/
theorem mirrors_act (h : c.act s a = some t) (hn : s.Numbered) (hs : s.Supervised)
    (hm : Mirrors c s n m) (quiet : ∀ id, s.process? id ≠ some (.querying n)) :
    Mirrors c t n ((s.news? n a).elim m m.after) := by
  rcases Settings.watch_or_beside h hn n with ⟨id, sig, w, rfl, hid, hturn⟩ | ⟨hb, hnews, hreg⟩
  · rw [news?_signal hid]
    exact hturn.mirrors hs hn hid hm
  · rw [hnews]
    exact hm.beside hb (hreg quiet)

/-- A backend has a mirror, whatever happens. -/
theorem exists_mirrors_act (h : c.act s a = some t) (hn : s.Numbered) (hs : s.Supervised)
    (hm : ∃ m, Mirrors c s n m) : ∃ m, Mirrors c t n m := by
  obtain ⟨m, hm⟩ := hm
  rcases Settings.watch_or_beside h hn n with ⟨id, sig, w, rfl, hid, hturn⟩ | ⟨hb, -, -⟩
  · exact ⟨_, hturn.mirrors hs hn hid hm⟩
  · exact hm.exists_beside hb

theorem exists_mirrors_run {g : Registry} (h : Run c.act (.over g) turns s) (n : String) :
    ∃ m, Mirrors c s n m := by
  have hinv := h.invariant (fun u => (u.Numbered ∧ u.Supervised) ∧ ∃ m, Mirrors c u n m)
    ⟨⟨numbered_over g, supervised_over g⟩, ⟨0, g.has n⟩,
      mirrors_idle (fun _ _ hk => nomatch hk) fun _ => rfl⟩ fun p _ v hv hact => by
      obtain ⟨⟨hn, hs⟩, hm⟩ := hv
      exact ⟨⟨numbered_act hact hn, supervised_act hact hn hs⟩, exists_mirrors_act hact hn hs hm⟩
  exact hinv.2

/-- **Along a quiet run the mirror follows the news.** -/
theorem mirrors_run (h : Run c.act s turns t) (hn : s.Numbered) (hs : s.Supervised)
    (hm : Mirrors c s n m) (quiet : ∀ p ∈ turns, ∀ id, p.1.process? id ≠ some (.querying n)) :
    Mirrors c t n ((newsOf n turns).foldl Mirror.after m) := by
  induction h generalizing m with
  | nil => exact hm
  | @cons s u t a turns ha _ ih =>
    have hu := mirrors_act ha hn hs hm (quiet _ (List.mem_cons_self ..))
    have hrest := ih (numbered_act ha hn) (supervised_act ha hn hs) hu fun p hp =>
      quiet p (List.mem_cons_of_mem _ hp)
    have hnews : (newsOf n ((s, a) :: turns)).foldl Mirror.after m =
        (newsOf n turns).foldl Mirror.after ((s.news? n a).elim m m.after) := by
      unfold newsOf
      rw [List.filterMap_cons]
      cases s.news? n a <;> rfl
    rw [hnews]
    exact hrest

/-! ## The theorem -/

/-- **A turn of the watch keeps to its service**; and a failure, or a result at the index that was asked
    with, leaves the whole cache as it is. -/
def Settings.Keeps (c : Settings) (n : String) (s : State) (a : Act) : Prop :=
  ∀ id w sig t, a = .signal id sig → s.process? id = some (.watch n w) → c.act s a = some t →
    s.registry.Only n t.registry ∧
      ∀ i f, w = .querying i f →
        (∃ e, sig = .reply (.error e)) ∨ (∃ l, sig = .reply (.ok (.indexed i l))) →
        t.registry = s.registry

theorem Settings.keeps (c : Settings) (n : String) (s : State) (a : Act) : c.Keeps n s a := by
  rintro id w sig t rfl hid hact
  obtain ⟨p, hp, hturn⟩ := Settings.turn hact
  obtain rfl : p = .watch n w := Option.some.inj (hp.symm.trans hid)
  refine ⟨hturn.only, ?_⟩
  rintro i f rfl (⟨e, rfl⟩ | ⟨l, rfl⟩)
  · cases hturn with
    | backsOff => rfl
    | givesUp => rw [(endWatch_books ..).2.1, (Session.setDegraded_books ..).2.1]; rfl
  · cases hturn with
    | repeats _ ls => exact (heard_books s ls).2.1
    | changes _ _ _ hne | sights _ _ _ hne => exact absurd rfl hne

/-- **A watch shows its service as the last result that was new had it**, from whatever cache it began.
    Every backend that can be reached has a mirror, which for a watch that has not begun holds what is
    cached; along every run in which nobody queries the service the backend stays what the mirror says;
    and each turn of the watch keeps to its service. -/
theorem watch_mirrors {g : Registry} {front : List (State × Act)}
    (reached : Run c.act (.over g) front s) (run : Run c.act s turns t)
    (quiet : ∀ p ∈ turns, ∀ id, p.1.process? id ≠ some (.querying n)) :
    (∃ m, Mirrors c s n m) ∧
      ((∀ id w, s.process? id = some (.watch n w) → w = .fresh) →
        ∀ i, Mirrors c s n ⟨i, s.registry.has n⟩) ∧
      (∀ m, Mirrors c s n m → Mirrors c t n ((newsOf n turns).foldl Mirror.after m)) ∧
      ∀ p ∈ turns, c.Keeps n p.1 p.2 := by
  obtain ⟨hn, hs⟩ := supervised_run reached
  refine ⟨exists_mirrors_run reached n, fun hfresh i => ?_, fun m hm => ?_, fun p _ => ?_⟩
  · exact mirrors_idle hfresh fun _ => rfl
  · exact mirrors_run run hn hs hm quiet
  · exact c.keeps n p.1 p.2

end Runs

/-- A watch begins over a cache that holds an instance nobody reports.  A result reports one endpoint twice,
    a query fails, and the next result has a smaller index: the cache is what that result says, and the
    watch asks from 0. -/
theorem watch_mirrors_restarted : ∃ front s turns t,
    Run Settings.sample.act (.over (Registry.empty.insert "order" ⟨"order", "10.0.0.9", 9000⟩))
      front s ∧ Run Settings.sample.act s turns t ∧
      (t.registry.members "order").list = [⟨"order", "10.0.0.1", 9000⟩] ∧
      Mirrors .sample t "order" ⟨0, passes [⟨⟨"order", "10.0.0.1", 9000⟩, .passing⟩]⟩ := by
  let c : Settings := .sample
  let i : Instance := ⟨"order", "10.0.0.1", 9000⟩
  let k : Instance := ⟨"order", "10.0.0.2", 9000⟩
  let l : List Report := [⟨i, .passing⟩, ⟨k, .passing⟩, ⟨i, .critical⟩]
  let s0 : State := .over (Registry.empty.insert "order" ⟨"order", "10.0.0.9", 9000⟩)
  let s1 := c.after s0 (.call (.instances "order"))
  let s2 := c.after s1 (.signal 1 .turn)
  let s3 := c.after s2 (.signal 1 (.reply (.ok (.indexed 5 l))))
  let s4 := c.after s3 (.signal 1 (.reply (.error (.store "down"))))
  let s5 := c.after s4 (.signal 1 .elapsed)
  let s6 := c.after s5 (.signal 1 (.reply (.ok (.indexed 3 [⟨i, .passing⟩]))))
  let turns : List (State × Act) :=
    [(s1, .signal 1 .turn), (s2, .signal 1 (.reply (.ok (.indexed 5 l)))),
      (s3, .signal 1 (.reply (.error (.store "down")))), (s4, .signal 1 .elapsed),
      (s5, .signal 1 (.reply (.ok (.indexed 3 [⟨i, .passing⟩]))))]
  -- evaluated at one go, since each of them takes all that happened before
  have hfacts : ((c.act s0 (.call (.instances "order"))).isSome = true ∧
      (c.act s1 (.signal 1 .turn)).isSome = true ∧
      (c.act s2 (.signal 1 (.reply (.ok (.indexed 5 l))))).isSome = true ∧
      (c.act s3 (.signal 1 (.reply (.error (.store "down"))))).isSome = true ∧
      (c.act s4 (.signal 1 .elapsed)).isSome = true ∧
      (c.act s5 (.signal 1 (.reply (.ok (.indexed 3 [⟨i, .passing⟩]))))).isSome = true) ∧
      (∀ p ∈ turns, ∀ q ∈ p.1.processes, q.2 ≠ .querying "order") ∧
      newsOf "order" turns =
        [.begins, .result 5 l, .failed, .result 3 [⟨i, .passing⟩]] ∧
      (s6.registry.members "order").list = [i] ∧ s1.processes = [(1, .watch "order" .fresh)] := by
    decide +kernel
  obtain ⟨⟨m0, m1, m2, m3, m4, m5⟩, hquiet, hnews, hlist, hfresh⟩ := hfacts
  have h0 : c.act s0 (.call (.instances "order")) = some s1 := Settings.act_eq_after m0
  have h1 : c.act s1 (.signal 1 .turn) = some s2 := Settings.act_eq_after m1
  have h2 : c.act s2 (.signal 1 (.reply (.ok (.indexed 5 l)))) = some s3 :=
    Settings.act_eq_after m2
  have h3 : c.act s3 (.signal 1 (.reply (.error (.store "down")))) = some s4 :=
    Settings.act_eq_after m3
  have h4 : c.act s4 (.signal 1 .elapsed) = some s5 := Settings.act_eq_after m4
  have h5 : c.act s5 (.signal 1 (.reply (.ok (.indexed 3 [⟨i, .passing⟩])))) = some s6 :=
    Settings.act_eq_after m5
  clear_value s6 s5 s4 s3 s2 s1
  have front : Run c.act s0 [(s0, .call (.instances "order"))] s1 := .single h0
  have run : Run c.act s1 turns s6 :=
    .cons h1 <| .cons h2 <| .cons h3 <| .cons h4 <| .cons h5 (.nil s6)
  have quiet (p : State × Act) (hp : p ∈ turns) (id : Nat) :
      p.1.process? id ≠ some (.querying "order") := by
    intro hq
    exact hquiet p hp (id, .querying "order") (Session.mem_of_process? hq) rfl
  have fresh (id : Nat) (w : Watch) (hid : s1.process? id = some (.watch "order" w)) :
      w = .fresh := by
    rw [Session.process?, hfresh, List.lookup_cons] at hid
    split at hid
    · exact (Process.watch.inj (Option.some.inj hid)).2.symm
    · cases hid
  obtain ⟨-, hbegin, hrun, -⟩ := watch_mirrors front run quiet
  have hmirror := hrun _ (hbegin fresh 7)
  rw [hnews] at hmirror
  exact ⟨_, s1, turns, s6, front, run, hlist, hmirror⟩

end Muster.Probed
