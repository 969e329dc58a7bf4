/-
  Watches: at most one, and the books of both backends are true of it.

  A lease backend has one watch for everything, a probing backend one for each service.  Both keep a book
  of what is watched, both raise a flag that the lifecycle shows, and both arm a watch wherever a query
  could be in need of it.  `Faithful` says, for each of them, what the books are worth:

  (1) what is in the book is watched by EXACTLY one process, and what is not is watched by none;
  (2) the flag is raised only while something is watched, so `watching` is never shown without a watch;
  (3) to arm a live watch is to do nothing: the state is the same, no process has begun, and nothing has
      been asked of the store.  A query, or the end of a load, is then what it would be without arming.
-/
import Muster.Proofs.Leased.Watching
import Muster.Proofs.Probed.Watching

namespace Muster

/-- A backend that shows that it watches has raised the flag. -/
theorem Flags.watching_of_state {f : Flags} (h : f.state = .watching) : f.watching = true := by
  unfold state at h
  split at h
  · cases h
  · split at h
    · assumption
    · split at h
      · cases h
      · split at h <;> cases h

/-! ## The lease backend -/

namespace Leased

/-- A process is the watch. -/
def State.IsWatch (s : State) (id : Nat) : Prop := ∃ w, s.process? id = some (.watch w)

/-- **There is one watch or none, and the books say which.** -/
structure State.Faithful (c : Settings) (s : State) : Prop where
  watching : s.own.watching = true ↔ ∃! id, s.IsWatch id
  single : ∀ id id', s.IsWatch id → s.IsWatch id' → id = id'
  flag : s.flags.watching = true → s.own.watching = true
  shown : s.flags.state = .watching → ∃ id, s.IsWatch id
  /-- To arm a live watch is to do nothing. -/
  arm : (∃ id, s.IsWatch id) → ∀ start, armWatch start s = s
  /-- A query is only a query. -/
  query : (∃ id, s.IsWatch id) → ∀ n, c.call s (.instances n) =
    match s.registry.get? n with
    | some m => s.instant (.instances m.list)
    | none => s.begin (.range (Layout.serviceLead c.scope n)) (.querying n)
  /-- A first load is only a load. -/
  load : (∃ id, s.IsWatch id) → ∀ id snap, s.process? id = some .starting →
    c.resume s id (.reply (.ok (.contents snap))) =
      some ((c.synchronise false snap s).succeed id)

/-- To be the watch is a role. -/
theorem State.isWatch_iff {s : State} {id : Nat} :
    s.IsWatch id ↔ ∃ w, s.role Process.watch? id = some w :=
  exists_congr fun _ => (Session.role_eq_some_iff fun _ => Process.watch?_eq_some_iff).symm

/-- Where a watch is known of, none is armed. -/
theorem armWatch_of_watching {s : State} (h : s.own.watching = true) (start : Option Int) :
    armWatch start s = s := by
  rw [armWatch, if_pos (by simp [h])]

theorem State.Watcher.faithful (c : Settings) {s : State} {o : Option (Nat × Watch)}
    (h : s.Watcher o) : s.Faithful c := by
  obtain ⟨hiff, hsingle⟩ := h.sole.existsUnique_iff h.watching
  simp only [← State.isWatch_iff] at hiff
  have hflag (hf : s.flags.watching = true) : s.own.watching = true := by
    rw [h.watching]
    exact h.flag hf
  have hlive : (∃ id, s.IsWatch id) → s.own.watching = true := by
    rintro ⟨id, hid⟩
    obtain ⟨w, hw⟩ := State.isWatch_iff.1 hid
    rw [h.watching, h.sole.eq_of_role hw]; rfl
  refine ⟨hiff, ?_, hflag, ?_, ?_, ?_, ?_⟩
  · intro id id' hid hid'
    obtain ⟨w, hw⟩ := State.isWatch_iff.1 hid
    obtain ⟨w', hw'⟩ := State.isWatch_iff.1 hid'
    exact hsingle id id' w w' hw hw'
  · intro hs
    obtain ⟨id, hid, -⟩ := hiff.1 (hflag (Flags.watching_of_state hs))
    exact ⟨id, hid⟩
  · intro hw start
    exact armWatch_of_watching (hlive hw) start
  · intro hw n
    have hbook := hlive hw
    show Leased.armWatch none _ = _
    cases s.registry.get? n with
    | some m => exact armWatch_of_watching (s := s.instant _) hbook none
    | none => exact armWatch_of_watching (s := s.begin _ _) hbook none
  · intro hw id snap hid
    -- what is merged does not touch the book
    have hbook : (c.synchronise false snap s).own.watching = true := by
      rw [(c.synchronise_alike false snap s).own]
      simpa using hlive hw
    show (s.process? id).bind _ = _
    rw [hid]
    show some ((Leased.armWatch _ (c.synchronise false snap s)).succeed id) = _
    rw [armWatch_of_watching hbook]

end Leased

/-! ## The probing backend -/

namespace Probed

/-- A process is the watch of a service. -/
def State.IsWatch (s : State) (n : String) (id : Nat) : Prop :=
  ∃ w, s.process? id = some (.watch n w)

/-- **Each service has one watch or none, and the books say which.** -/
structure State.Faithful (c : Settings) (s : State) : Prop where
  watching : ∀ n, n ∈ s.own.services ↔ ∃! id, s.IsWatch n id
  single : ∀ n id id', s.IsWatch n id → s.IsWatch n id' → id = id'
  flag : s.flags.watching = true → s.own.services ≠ []
  shown : s.flags.state = .watching → ∃ n id, s.IsWatch n id
  /-- To arm a live watch is to do nothing. -/
  arm : ∀ n, (∃ id, s.IsWatch n id) → ensureWatch n s = s
  /-- A query that is answered from the cache is only that. -/
  query : ∀ n, (∃ id, s.IsWatch n id) → ∀ m, s.registry.get? n = some m →
    c.call s (.instances n) = s.instant (.instances m.list)
  /-- A load is only a load. -/
  load : ∀ n, (∃ id, s.IsWatch n id) → ∀ id l, s.process? id = some (.querying n) →
    c.resume s id (.reply (.ok (.reports l))) =
      some ((merge n l s).answer id (.instances ((merge n l s).registry.members n).list))

/-- To be the watch of a service is a role. -/
theorem State.isWatch_iff {s : State} {n : String} {id : Nat} :
    s.IsWatch n id ↔ ∃ w, s.role (Process.watchOf? n) id = some w :=
  exists_congr fun _ => role_watchOf?_iff.symm

/-- Where a watch is known of, none is started. -/
theorem ensureWatch_of_isWatched {s : State} {n : String} (h : s.isWatched n = true) :
    ensureWatch n s = s := by
  rw [ensureWatch, if_pos (by rw [h, Bool.or_true])]

theorem State.Supervised.faithful (c : Settings) {s : State} (h : s.Supervised) :
    s.Faithful c := by
  have hbook (n : String) : n ∈ s.own.services ↔ s.isWatched n = true := by
    simp [State.isWatched]
  have hiff (n : String) : n ∈ s.own.services ↔ ∃! id, s.IsWatch n id := by
    obtain ⟨o, ho⟩ := h.watcher n
    have hone := (ho.sole.existsUnique_iff ho.watched).1
    simp only [← State.isWatch_iff] at hone
    rw [hbook, hone]
  have hlive (n : String) : (∃ id, s.IsWatch n id) → s.isWatched n = true := by
    rintro ⟨id, w, hw⟩
    exact h.isWatched hw
  refine ⟨hiff, ?_, h.flag, ?_, ?_, ?_, ?_⟩
  · intro n id id' hid hid'
    obtain ⟨o, ho⟩ := h.watcher n
    obtain ⟨w, hw⟩ := State.isWatch_iff.1 hid
    obtain ⟨w', hw'⟩ := State.isWatch_iff.1 hid'
    exact (ho.sole.existsUnique_iff ho.watched).2 id id' w w' hw hw'
  · intro hs
    obtain ⟨n, rest, hl⟩ := List.exists_cons_of_ne_nil (h.flag (Flags.watching_of_state hs))
    obtain ⟨id, hid, -⟩ := (hiff n).1 (by rw [hl]; exact List.mem_cons_self ..)
    exact ⟨n, id, hid⟩
  · intro n hw
    exact ensureWatch_of_isWatched (hlive n hw)
  · intro n hw m hm
    show (match s.registry.get? n with | some m => _ | none => _ : State) = _
    rw [hm]
    exact ensureWatch_of_isWatched (s := s.instant (.instances m.list)) (hlive n hw)
  · intro n hw id l hid
    -- what is merged does not touch the book
    have hmerged : (merge n l s).isWatched n = true := by
      rw [State.isWatched, (merge_alike n l s).own]
      exact hlive n hw
    show (s.process? id).bind _ = _
    rw [hid]
    show some ((ensureWatch n (merge n l s)).answer id _) = _
    rw [ensureWatch_of_isWatched hmerged]

end Probed

/-! ## Both -/

/-- **The books of a backend are true of its watches**, at the end of every run. -/
theorem watches_faithful {c : Leased.Settings} {d : Probed.Settings} {s : Leased.State}
    {u : Probed.State} {turns : List (Leased.State × Leased.Act)}
    {others : List (Probed.State × Probed.Act)} (leased : Run c.act .initial turns s)
    (probed : Run d.act .initial others u) : s.Faithful c ∧ u.Faithful d := by
  obtain ⟨o, ho⟩ := Leased.watcher_run leased
  have hu := (Probed.supervised_run (g := .empty) probed).2
  exact ⟨ho.faithful c, hu.faithful d⟩

/-- Both backends watch: one after its first load, the other after a query that found nothing. -/
theorem watches_faithful_sample : ∃ turns s others u,
    Run Leased.Settings.sample.act .initial turns s ∧
      Run Probed.Settings.sample.act .initial others u ∧
      s.flags.state = .watching ∧ u.flags.state = .watching ∧
      s.Faithful .sample ∧ u.Faithful .sample := by
  have hleased : [Leased.Act.call .start, .signal 0 (.reply (.ok (.contents ⟨7, []⟩))),
      .signal 1 .turn, .signal 1 (.reply (.ok (.opened 0)))].foldlM
        Leased.Settings.sample.act .initial = some _ := rfl
  have hprobed : [Probed.Act.call (.instances "order"), .signal 0 (.reply (.ok (.reports []))),
      .signal 1 .turn, .signal 1 (.reply (.ok (.indexed 0 [])))].foldlM
        Probed.Settings.sample.act .initial = some _ := rfl
  obtain ⟨turns, hs, -⟩ := Run.of_foldlM hleased
  obtain ⟨others, hu, -⟩ := Run.of_foldlM hprobed
  exact ⟨turns, _, others, _, hs, hu, rfl, rfl, watches_faithful hs hu⟩

end Muster
