/-
  Deregistrations that fail, in both backends.

  A deregistration asks the store to remove the registration, and fails if the store does.  It can be made
  up for if the next one asks for the same removal; and it must not be forgotten, or a deregistration
  succeeds with the registration still in the store.

  (1) `removal_retried_iff` — a registry that probes is asked until it accepts, always; a store of leases is
      asked EXACTLY as long as nobody has deregistered, or its lease has been ended;
  (2) `removal_forgotten` — so a removal that fails once is never asked of a store of leases again.

  THE CRUX: one backend writes down that the registration is over before it asks, the other one after it
  has been answered.
-/
import Muster.Proofs.Leased.Removal
import Muster.Proofs.Probed.Removal

namespace Muster

/-- **Which removals are retried**: in a registry that probes, every one; in a store of leases, EXACTLY those
    of a registration from which nobody has deregistered yet, or whose lease has been ended. -/
theorem removal_retried_iff {c : Leased.Settings} {d : Probed.Settings} (x : Leased.Registered c)
    (y : Probed.Registered d) :
    (x.Retried ↔ (∀ p ∈ x.since, p.2 ≠ .call .deregister) ∨
        ∃ p ∈ x.since, p.1.Removes x.lease p.2) ∧ y.Retried :=
  ⟨x.retried_iff, y.retried⟩

/-- Nobody has deregistered from a store of leases; a registry that probes has failed to remove the
    registration, and is asked again. -/
theorem removal_retried_failing :
    ∃ (x : Leased.Registered .sample) (y : Probed.Registered .sample),
      x.since = [] ∧ x.Retried ∧
        y.since.map Prod.snd = [.call .deregister, .signal 1 (.reply (.error (.store "down")))] ∧
        y.Retried := by
  have hleased : (Leased.registerActs ++ []).foldlM Leased.Settings.sample.act .initial = some _ :=
    rfl
  have hprobed : [Probed.Act.call .register, .signal 0 (.reply (.ok .done)), .call .deregister,
      .signal 1 (.reply (.error (.store "down")))].foldlM Probed.Settings.sample.act .initial =
      some _ := rfl
  obtain ⟨x, -, hx, -⟩ := Leased.exists_registered hleased (fun _ ha => nomatch ha)
  obtain ⟨y, hy⟩ := Probed.exists_registered hprobed
  have hnone : x.since = [] := List.map_eq_nil_iff.1 hx
  have hboth := removal_retried_iff x y
  exact ⟨x, y, hnone, hboth.1.2 (.inl fun p hp => by rw [hnone] at hp; cases hp), hy, hboth.2⟩

/-- **A removal that fails is forgotten** by a backend that holds a lease: the deregistration has returned
    the failure, and the next one sends nothing and succeeds. -/
theorem removal_forgotten :
    ∃ x : Leased.Registered .sample,
      x.since.map Prod.snd = [.call .deregister, .signal 2 (.reply (.error (.store "down")))] ∧
        (2, .status (.error (.store "down"))) ∈ x.now.returns ∧
        (Leased.Settings.sample.call x.now .deregister).requests = x.now.requests ∧
        (x.now.nextId, .status (.ok ())) ∈
          (Leased.Settings.sample.call x.now .deregister).returns ∧
        ¬ x.Retried := by
  have hacts : (Leased.registerActs ++ [Leased.Act.call .deregister,
      .signal 2 (.reply (.error (.store "down")))]).foldlM Leased.Settings.sample.act .initial =
      some _ := rfl
  obtain ⟨x, -, hx, hnow⟩ := Leased.exists_registered hacts fun a ha s => by
    rcases List.mem_cons.1 ha with rfl | ha
    · exact id
    · obtain rfl := List.mem_singleton.1 ha
      exact id
  have hmem {s : Leased.State} {a : Leased.Act} (hp : (s, a) ∈ x.since) :
      a = .call .deregister ∨ a = .signal 2 (.reply (.error (.store "down"))) := by
    simpa [hx] using List.mem_map_of_mem (f := Prod.snd) hp
  obtain ⟨⟨s, a⟩, hp, rfl⟩ : ∃ p ∈ x.since, p.2 = Leased.Act.call .deregister :=
    List.mem_map.1 (hx ▸ List.mem_cons_self ..)
  have hnext := Leased.succeeds_of_no_lease .sample (x.lease_lost hp rfl)
  refine ⟨x, hx, by rw [hnow]; exact List.mem_cons_self .., hnext.1, hnext.2, fun hretried => ?_⟩
  -- somebody has deregistered, and nothing was removed
  rcases x.retried_iff.1 hretried with hkept | ⟨⟨u, b⟩, hq, hremoves⟩
  · exact hkept _ hp rfl
  · rcases hmem hq with rfl | rfl
    · exact hremoves
    · exact hremoves

end Muster
