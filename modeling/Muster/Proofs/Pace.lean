/-
  Are the times that a backend computes while it runs times at all?

  Two of them come out of the configuration by arithmetic: the pause between the renewals of a lease, a third of its
  time to live, in milliseconds; and the limit of a blocking query, half a minute beyond the time for which the
  registry may hold it back.  A configuration is read in one place, accepted in another, and counted with in two more.

  (1) `Renewals.Paced`, `Renewals.paced_of_open?` — a stream that is opened has a pause, three of which fit into the
      time to live;
  (2) `exists_limit_iff` — a query has a limit beyond its wait, unless that is no time;
  (3) `Leased.exists_renews`, `Probed.exists_queries` — every backend comes to ask for renewals, or for changes;
  (4) `arithmetic_fits_iff` — for an accepted configuration each of the two goes well along every run EXACTLY if its
      field is below a bound, of which acceptance knows nothing.

  THE CRUX: along every run the times in the requests are those of the configuration (`ttl_eq_of_mem_requests`,
  `asks_run`), so that what can be asked for is known before anything is.
-/
import Muster.Proofs.Leased.Configured
import Muster.Proofs.Leased.Publishing
import Muster.Proofs.Leased.Subscriptions
import Muster.Proofs.Probed.Sending

namespace Muster

/-! ## Renewals -/

namespace Leased

/-- **Renewals keep pace with a time to live**: the pause is a third of it, rounded down to milliseconds, and never
    nothing; three of them fit; and all renewals but the first are sent after it. -/
structure Remote.Renewals.Paced (r : Remote.Renewals) (ttl : Int) : Prop where
  exact : r.pause.toNanos = ttl.toNat * 1000 / 3 * 1000000
  positive : 0 < r.pause.toNanos
  thrice : 3 * r.pause.toNanos ≤ ttl.toNat * 1000000000
  first : ∀ ts p, (r.pulls ts).head? = some p → p.waited = none
  others : ∀ ts, ∀ p ∈ (r.pulls ts).tail, p.waited = p.sent.map fun _ => r.pause

/-- Every stream of renewals that is ever asked for is opened, and keeps pace with the configured time to live. -/
def Settings.Renewable (c : Settings) : Prop :=
  ∀ turns s, Run c.act .initial turns s → ∀ id lease ttl, (id, Request.keepAlive lease ttl) ∈ s.requests →
    ∀ keeper, ∃ r, Remote.Renewals.open? lease keeper ttl = some r ∧ r.Paced c.lease.ttlSecs

section Renewing

variable {c : Settings} {lease keeper ttl : Int} {r : Remote.Renewals}

/-- **A stream that is opened keeps pace**, for every time to live that is one. -/
theorem Remote.Renewals.paced_of_open? (h : open? lease keeper ttl = some r) (hpos : 0 < ttl) : r.Paced ttl := by
  obtain ⟨hle, hr⟩ := open?_eq_some_iff.1 h
  have hmax : max ttl 1 = ttl := by omega
  have hexact : r.pause.toNanos = ttl.toNat * 1000 / 3 * 1000000 := by
    have hfits : ttl.toNat * 1000 / 3 < 18446744073709551616 := by omega
    rw [hr, Duration.toNanos_ofMillis, hmax, UInt64.toNat_ofNat_of_lt' hfits]
  have hwaits (ts : List Remote.RenewalTurn) := waited_pulls (s := r) (by rw [hr]) (by rw [hr]) ts
  refine ⟨hexact, ?_, ?_, fun ts => (hwaits ts).1, fun ts => (hwaits ts).2⟩
  · rw [hexact]
    omega
  · rw [hexact]
    omega

/-- **Every backend comes to ask for renewals**, for the time to live in its settings. -/
theorem exists_renews (c : Settings) : ∃ turns s, Run c.act .initial turns s ∧
    (0, Request.keepAlive 1 c.lease.ttlSecs) ∈ s.requests := by
  let acts : List Act :=
    [.call .register, .signal 0 (.reply (.ok (.granted 1))), .signal 0 (.reply (.ok .done))]
  obtain ⟨turns, hrun, -⟩ := Run.of_foldlM (show acts.foldlM c.act .initial = some _ from rfl)
  exact ⟨turns, _, hrun, List.mem_cons_self ..⟩

/-- **The renewals go well EXACTLY if the time to live can be counted in milliseconds.** -/
theorem renewable_iff (hpos : 0 < c.lease.ttlSecs) : c.Renewable ↔ c.lease.ttlSecs ≤ 18446744073709551 := by
  constructor
  · intro hall
    obtain ⟨turns, s, hrun, hmem⟩ := exists_renews c
    obtain ⟨r, hr, -⟩ := hall turns s hrun 0 1 _ hmem 1
    exact (Remote.Renewals.open?_eq_some_iff.1 hr).1
  · intro hle turns s hrun id lease ttl hmem keeper
    obtain rfl := ttl_eq_of_mem_requests hrun hmem
    have hopen : Remote.Renewals.open? lease keeper c.lease.ttlSecs = some _ :=
      Remote.Renewals.open?_eq_some_iff.2 ⟨hle, rfl⟩
    exact ⟨_, hopen, Remote.Renewals.paced_of_open? hopen hpos⟩

end Renewing

end Leased

/-! ## Blocking queries -/

namespace Probed

/-- Every query for changes that is ever asked for can be sent, says the configured wait, and has a limit half a
    minute beyond it. -/
def Settings.Queryable (c : Settings) : Prop :=
  ∀ turns s, Run c.act .initial turns s → ∀ id service scope index wait,
    (id, Request.changes service scope index wait) ∈ s.requests → ∀ base, ∃ m limit,
      Remote.message? base (.changes service scope index wait) = some m ∧
        ("wait", Decimal.ofInt c.watch.waitSecs.toNat ++ "s") ∈ m.query ∧ m.limit = some limit ∧
        limit.toNanos = (c.watch.waitSecs.toNat + 30) * 1000000000

section Querying

variable {c : Settings} {w : UInt64}

/-- The limit of a wait, if it has one. -/
theorem add?_grace_eq_some_iff {limit : Duration} :
    (Duration.ofSecs w).add? Remote.grace = some limit ↔ limit.toNanos = (w.toNat + 30) * 1000000000 := by
  have hgrace : (30 : UInt64).toNat = 30 := rfl
  rw [Duration.add?_eq_some_iff, Remote.grace, Duration.toNanos_ofSecs, Duration.toNanos_ofSecs, hgrace,
    ← Nat.add_mul]

/-- **A wait has a limit EXACTLY if half a minute more is a time.** -/
theorem exists_limit_iff : (∃ limit, (Duration.ofSecs w).add? Remote.grace = some limit) ↔
    w.toNat ≤ 18446744073709551585 := by
  constructor
  · rintro ⟨limit, hlimit⟩
    have hsum := add?_grace_eq_some_iff.1 hlimit
    have hsecs := limit.secs_le
    have hnanos := limit.nanos_lt
    rw [Duration.toNanos] at hsum
    omega
  · intro hle
    let limit : Duration := ⟨w.toNat + 30, 0, by omega, by decide⟩
    exact ⟨limit, add?_grace_eq_some_iff.2 (Nat.add_zero _)⟩

/-- **Every backend comes to ask for changes**, with the wait in its settings. -/
theorem exists_queries (c : Settings) : ∃ turns s, Run c.act .initial turns s ∧
    (1, Request.changes "order" c.scope 0 c.watch.wait) ∈ s.requests := by
  let acts : List Act := [.call (.instances "order"), .signal 0 (.reply (.ok (.reports []))), .signal 1 .turn]
  obtain ⟨turns, hrun, -⟩ := Run.of_foldlM (show acts.foldlM c.act .initial = some _ from rfl)
  exact ⟨turns, _, hrun, List.mem_cons_self ..⟩

/-- **The blocking queries go well EXACTLY if their limit is a time.** -/
theorem queryable_iff : c.Queryable ↔ c.watch.waitSecs.toNat ≤ 18446744073709551585 := by
  constructor
  · intro hall
    obtain ⟨turns, s, hrun, hmem⟩ := exists_queries c
    obtain ⟨m, -, hm, -⟩ := hall turns s hrun 1 _ _ _ _ hmem ""
    obtain ⟨limit, hlimit, -⟩ := Remote.message?_changes_eq_some_iff.1 hm
    exact exists_limit_iff.1 ⟨limit, hlimit⟩
  · intro hle turns s hrun id service scope index wait hmem base
    obtain ⟨⟩ : c.Asks (.changes service scope index wait) := asks_run hrun _ hmem
    obtain ⟨limit, hlimit⟩ := exists_limit_iff.2 hle
    refine ⟨_, limit, Remote.message?_changes_eq_some_iff.2 ⟨limit, hlimit, rfl⟩, ?_, rfl,
      add?_grace_eq_some_iff.1 hlimit⟩
    exact List.mem_append_right _ (List.mem_cons_of_mem _ (List.mem_singleton.2 rfl))

end Querying

end Probed

/-! ## Both -/

/-- **An accepted configuration makes the times of both backends times EXACTLY below two bounds**: the renewals of a
    lease if its time to live can be counted in milliseconds, and the blocking queries if half a minute more than
    their wait is a time. -/
theorem arithmetic_fits_iff {text : String} {d : Config} (accepted : Config.parse text = .ok d)
    (self : Registrant) :
    ((Leased.Settings.ofConfig self d.discovery).Renewable ↔
        d.discovery.lease.ttlSecs ≤ 18446744073709551) ∧
      ((Probed.Settings.ofConfig self d.discovery).Queryable ↔
        d.discovery.watch.waitSecs.toNat ≤ 18446744073709551585) := by
  obtain ⟨-, -, hpos⟩ := Config.validate_eq_ok_iff.1 (Config.validate_of_parse accepted)
  exact ⟨Leased.renewable_iff hpos, Probed.queryable_iff⟩

/-- A configuration of a backend with a time to live and a wait, both in seconds. -/
def paceText (backend ttl wait : String) : String :=
  "[application]\nname = \"order\"\nport = 9000\n[discovery]\nbackend = \"" ++ backend ++
    "\"\n[discovery.lease]\nttl_secs = " ++ ttl ++ "\n[discovery.watch]\nwait_secs = " ++ wait ++ "\n"

/-- What it is read as. -/
def paceConfig (backend : Config.Backend) (ttl : Int) (wait : UInt64) : Config where
  application := ⟨"order", 9000, .grpc, none⟩
  discovery := { backend, lease := { ttlSecs := ttl }, watch := { waitSecs := wait } }

/-- The longest times with which all goes well. -/
theorem arithmetic_fits_iff_longest :
    let d := paceConfig .etcd 18446744073709551 18446744073709551585
    Config.parse (paceText "etcd" "18446744073709551" "18446744073709551585") = .ok d ∧
      (Leased.Settings.ofConfig (d.application.registrant "10.0.0.1") d.discovery).Renewable ∧
      (Probed.Settings.ofConfig (d.application.registrant "10.0.0.1") d.discovery).Queryable := by
  intro d
  have hparse : Config.parse (paceText "etcd" "18446744073709551" "18446744073709551585") = .ok d := by
    decide +kernel
  obtain ⟨hrenewable, hqueryable⟩ := arithmetic_fits_iff hparse (d.application.registrant "10.0.0.1")
  exact ⟨hparse, hrenewable.2 (by decide), hqueryable.2 (by decide)⟩

/-- **Accepted configurations with times that are none.**  A backend that was given a lease asks for its renewals, and
    no stream is opened; a backend that was asked for a service asks for its changes, and nothing can be sent. -/
theorem arithmetic_overflows :
    (∃ d, Config.parse (paceText "etcd" "9223372036854775807" "55") = .ok d ∧
      let c := Leased.Settings.ofConfig (d.application.registrant "10.0.0.1") d.discovery
      ∃ turns s, Run c.act .initial turns s ∧ (0, .keepAlive 1 9223372036854775807) ∈ s.requests ∧
        ∀ keeper, Leased.Remote.Renewals.open? 1 keeper 9223372036854775807 = none) ∧
    ∃ d, Config.parse (paceText "consul" "2" "18446744073709551615") = .ok d ∧
      let c := Probed.Settings.ofConfig (d.application.registrant "10.0.0.1") d.discovery
      ∃ turns s, Run c.act .initial turns s ∧
        (1, .changes "order" "" 0 (.ofSecs 18446744073709551615)) ∈ s.requests ∧
        ∀ net base, Probed.Remote.perform net base
          (.changes "order" "" 0 (.ofSecs 18446744073709551615)) = none := by
  have hetcd : Config.parse (paceText "etcd" "9223372036854775807" "55") =
      .ok (paceConfig .etcd 9223372036854775807 55) := by decide +kernel
  have hconsul : Config.parse (paceText "consul" "2" "18446744073709551615") =
      .ok (paceConfig .consul 2 18446744073709551615) := by decide +kernel
  have hlimit : (Duration.ofSecs 18446744073709551615).add? Probed.Remote.grace = none := by decide +kernel
  constructor
  · obtain ⟨turns, s, hrun, hmem⟩ := Leased.exists_renews (.ofConfig _ (paceConfig .etcd _ _).discovery)
    exact ⟨_, hetcd, turns, s, hrun, hmem, fun keeper => rfl⟩
  · obtain ⟨turns, s, hrun, hmem⟩ := Probed.exists_queries (.ofConfig _ (paceConfig .consul _ _).discovery)
    refine ⟨_, hconsul, turns, s, hrun, hmem, fun net base => ?_⟩
    rw [Probed.Remote.perform, Probed.Remote.message?, hlimit]
    rfl

end Muster
