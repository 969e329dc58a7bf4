/-
  Shutdowns, in both backends.

  A shutdown cancels every background task and waits for their end.  A task ends if it notices that it is
  cancelled, at the latest when its request runs into its limit; one that waits for the store alone can keep
  the shutdown waiting for ever.

  (1) `shutdown_unblocked_iff` — a probing backend always shuts down, whatever the store does; a lease
      backend does EXACTLY when no watch is being set up: one that has not begun, or that waits for its
      snapshot or for its stream;
  (2) `shutdown_blocked` — so a store that never opens the stream of events blocks it.

  The watch that probes waits for the store and for the closing at the same time; the other one does so only
  once it has its stream, and the requests before that have no limit.
-/
import Muster.Proofs.Leased.Closing
import Muster.Proofs.Probed.Closing

namespace Muster

/-- **Which shutdowns nothing can block**: those of a probing backend, and EXACTLY those of a lease backend
    in which no watch is being set up. -/
theorem shutdown_unblocked_iff {c : Leased.Settings} {d : Probed.Settings} (x : Leased.ShutDown c)
    (y : Probed.ShutDown d) :
    ((c.Guarded x.now ∧ c.ReturnsUnaided x.id x.now) ↔
        ∀ k p, x.now.process? k = some p → p.isSettingUp = false) ∧
      d.Guarded y.now ∧ d.ReturnsUnaided y.id y.now :=
  ⟨Leased.unblocked_iff x, Probed.unblocked y⟩

/-- A lease backend that is registered shuts down, and so does a probing backend with a watch that waits for
    a change. -/
theorem shutdown_unblocked_registered :
    ∃ (x : Leased.ShutDown .sample) (y : Probed.ShutDown .sample),
      x.now.process? 1 = some (.renewal 100 0) ∧
        y.now.process? 1 = some (.watch "order" (.querying 0 0)) ∧
        Leased.Settings.sample.ReturnsUnaided x.id x.now ∧
        Probed.Settings.sample.ReturnsUnaided y.id y.now := by
  have hleased : (Leased.registerActs ++ [Leased.Act.call .shutdown]).foldlM
      Leased.Settings.sample.act Leased.State.initial = some _ := rfl
  have hprobed : [Probed.Act.call (.instances "order"), .signal 0 (.reply (.ok (.reports []))),
      .signal 1 .turn, .call .shutdown].foldlM Probed.Settings.sample.act Probed.State.initial =
      some _ := rfl
  obtain ⟨x, -, hx, -⟩ := ShutDown.of_foldlM hleased
    (show Session.process? _ 2 = some Leased.Process.closing from rfl)
  obtain ⟨y, -, hy, -⟩ := ShutDown.of_foldlM hprobed
    (show Session.process? _ 2 = some Probed.Process.closing from rfl)
  have horderly := (Leased.upright_run x.reached Leased.upright_initial).orderly
  have hclear : Leased.State.Clear x.now := (Leased.clear_iff horderly).2 (by rw [hx]; rfl)
  have hboth := shutdown_unblocked_iff x y
  exact ⟨x, y, by rw [hx]; rfl, by rw [hy]; rfl, (hboth.1.2 hclear).2, hboth.2.2⟩

/-- **A shutdown CAN be blocked**: the first load of a lease backend has been answered, its watch has asked
    for the stream of events, and the store never opens it. -/
theorem shutdown_blocked :
    ∃ x : Leased.ShutDown .sample,
      x.turns.map Prod.snd = [.call .start, .signal 0 (.reply (.ok (.contents ⟨7, []⟩))),
          .signal 1 .turn, .call .shutdown] ∧
        ¬ Leased.Settings.sample.Guarded x.now ∧
        ¬ Leased.Settings.sample.ReturnsUnaided x.id x.now := by
  have hacts : [Leased.Act.call .start, .signal 0 (.reply (.ok (.contents ⟨7, []⟩))),
      .signal 1 .turn, .call .shutdown].foldlM Leased.Settings.sample.act Leased.State.initial =
      some _ := rfl
  obtain ⟨x, hturns, hx, -⟩ := ShutDown.of_foldlM hacts
    (show Session.process? _ 2 = some Leased.Process.closing from rfl)
  have hopening : x.now.process? 1 = some (.watch (.opening 8)) := by rw [hx]; rfl
  refine ⟨x, hturns, fun hguarded => ?_, ?_⟩
  · -- it waits for the stream without a limit, and for nothing else
    rcases hguarded 1 _ hopening rfl with ⟨hwait, -⟩ | ⟨hwait, -⟩ | ⟨hwait, -⟩
    · cases hwait
    · cases hwait
    · cases hwait
  · have hblocked : Leased.State.Blocked x.id x.now :=
      ⟨Leased.upright_run x.reached Leased.upright_initial, x.waits, 1, _, hopening, rfl⟩
    exact hblocked.not_returns

end Muster
