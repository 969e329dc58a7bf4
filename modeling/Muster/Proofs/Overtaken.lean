/-
  Answers that are overtaken, in both backends.

  A query for a name that is not cached is answered from the store, and the answer is merged into the
  cache that the watch merges into.  The cache keeps no revision and no index, so an answer that is older
  than what the watch has merged is merged all the same.

  (1) `revived_iff` — an instance that was withdrawn after the answer was computed, and that nobody brought
      back, is nevertheless cached once the answer is merged, EXACTLY when the store held it as the answer
      was computed and it is not withdrawn yet another time;
  (2) `answers_revive` — and this happens, in both backends, with a store that is honest all along.

  What reads the store elsewhere keeps the order: a watch begins after the revision of the snapshot that was
  merged before it, and a watch that loads a service first applies its own, newer result afterwards.
-/
import Muster.Proofs.Leased.Overtaken
import Muster.Proofs.Probed.Overtaken

namespace Muster

/-- **An instance that was withdrawn is a member again EXACTLY when the answer to a query still held it**,
    and nothing has withdrawn it since that answer was merged. -/
theorem revived_iff {c : Leased.Settings} {d : Probed.Settings} {n e m f : String}
    (x : Leased.Overtaken c n e) (y : Probed.Overtaken d m f) :
    (x.last.session.registry.has n e = true ↔
        Leased.World.said c n e x.afterwards = none ∧
          ∃ i, i.endpoint = e ∧ x.asked.store.Held c.scope x.asked.store.revision n i) ∧
      (y.last.session.registry.has m f = true ↔
        Probed.World.said m f y.afterwards = none ∧
          Probed.offers (y.asked.held m).2 f = true) :=
  ⟨x.has_iff, y.has_iff⟩

/-- Where an instance was brought back, the store held it when it was asked, and nobody withdrew it again. -/
theorem revived_iff_sample : ∃ (x : Leased.Overtaken .sample "order" "10.0.0.1:9000")
    (y : Probed.Overtaken .sample "order" "10.0.0.1:9000"),
    (Leased.World.said .sample "order" "10.0.0.1:9000" x.afterwards = none ∧
        ∃ i, i.endpoint = "10.0.0.1:9000" ∧
          x.asked.store.Held Leased.Settings.sample.scope x.asked.store.revision "order" i) ∧
      (Probed.World.said "order" "10.0.0.1:9000" y.afterwards = none ∧
        Probed.offers (y.asked.held "order").2 "10.0.0.1:9000" = true) := by
  obtain ⟨x, -, -, -, hx⟩ := Leased.exists_revived
  obtain ⟨y, -, -, -, hy⟩ := Probed.exists_revived
  exact ⟨x, y, (revived_iff x y).1.1 hx, (revived_iff x y).2.1 hy⟩

/-- **Answers DO bring instances back.**  In both backends an answer that is overtaken by the withdrawal of
    an instance is merged, nothing happens afterwards, and the instance is cached. -/
theorem answers_revive :
    (∃ x : Leased.Overtaken .sample "order" "10.0.0.1:9000",
      x.Plausible ∧
        x.meanwhile.map Prod.snd =
          [.deliver 1 7, .commit (7, .delete Leased.Settings.sample.key), .deliver 1 8] ∧
        x.afterwards = [] ∧ x.last.session.registry.has "order" "10.0.0.1:9000" = true) ∧
    (∃ y : Probed.Overtaken .sample "order" "10.0.0.1:9000",
      y.Plausible ∧
        y.meanwhile.map Prod.snd =
          [.change "order" 5 [], .act (.signal 1 (.reply (.ok (.indexed 5 [])))),
            .act (.signal 1 (.reply (.ok (.reports []))))] ∧
        y.afterwards = [] ∧ y.last.session.registry.has "order" "10.0.0.1:9000" = true) :=
  ⟨Leased.exists_revived, Probed.exists_revived⟩

end Muster
