/-
  Configuration of service discovery.

  Six records, one inside the other, and every field with a default: an empty configuration is a
  complete one.  `read` takes each out of a datum; the methods beside the records turn numbers into
  durations, and blank texts into the backend's defaults.
-/
import Muster.Backoff
import Muster.Datum
import Muster.AppType
import Muster.Text.Blank

namespace Muster.Config

/-! ## Backends -/

/-- The two kinds of registries. -/
inductive Backend where
  /-- Leases and a watch on keys. -/
  | etcd
  /-- Health checks and blocking queries. -/
  | consul
deriving DecidableEq, Repr, Inhabited

namespace Backend

/-- The name of a backend, which is also the scheme of its targets. -/
def text : Backend → String
  | etcd => "etcd"
  | consul => "consul"

/-- A backend and its URL in one text, `scheme://url`. -/
def schemeUrl (b : Backend) (url : String) : String := b.text ++ "://" ++ url

/-- Where a backend is expected when no URL is configured. -/
def defaultUrl : Backend → String
  | etcd => "127.0.0.1:2379"
  | consul => "127.0.0.1:8500"

/-- The namespace when none is configured. -/
def defaultNamespace : Backend → String
  | etcd => "default"
  | consul => ""

/-- The backend with a name, spelled exactly. -/
def ofText? (s : String) : Option Backend := [etcd, consul].find? fun b => b.text == s

/-- **The backend that a text names**, in any case. -/
def parse (s : String) : Except String Backend :=
  match ofText? (lowerAscii s) with
  | some b => .ok b
  | none => .error ("Unknown backend type: " ++ s)

end Backend

/-! ## The records -/

/-- Leases, and the restoring of a lost registration. -/
structure Lease where
  /-- How long a lease lives without renewal, in seconds. -/
  ttlSecs : Int := 2
  /-- How long to wait before a lost registration is restored, in milliseconds. -/
  reregisterDelayMs : UInt64 := 1000
  /-- How often restoring is attempted. -/
  reregisterMaxAttempts : UInt64 := 5
  /-- The first delay between attempts, in milliseconds. -/
  backoffBaseMs : UInt64 := 1000
  /-- The longest delay between attempts, in seconds. -/
  backoffMaxSecs : UInt64 := 30
deriving DecidableEq, Repr, Inhabited

/-- The health check that is registered with a service. -/
structure Check where
  /-- How often the check runs. -/
  interval : String := "3s"
  /-- How long one run may take. -/
  timeout : String := "5s"
  /-- How long a failing service stays registered. -/
  deregisterCriticalAfter : String := "300s"
  /-- The path that is probed. -/
  path : String := "/ping"
deriving DecidableEq, Repr, Inhabited

/-- Blocking queries. -/
structure Watch where
  /-- How long one query may block, in seconds. -/
  waitSecs : UInt64 := 300
  /-- How many failures in a row end a watch. -/
  maxConsecutiveFailures : UInt64 := 10
  /-- The first delay after a failure, in milliseconds. -/
  backoffBaseMs : UInt64 := 1000
  /-- The longest delay after a failure, in seconds. -/
  backoffMaxSecs : UInt64 := 20
deriving DecidableEq, Repr, Inhabited

/-- Resolving of targets. -/
structure Resolver where
  /-- The interval at which addresses are resolved again, in seconds. -/
  refreshIntervalSecs : Option UInt64 := none
deriving DecidableEq, Repr, Inhabited

/-- **Everything about discovery.** -/
structure Discovery where
  backend : Backend := .etcd
  url : Option String := none
  scope : Option String := none
  dialTimeoutSecs : UInt64 := 5
  requestTimeoutSecs : UInt64 := 3
  lease : Lease := {}
  check : Check := {}
  watch : Watch := {}
  resolver : Resolver := {}
deriving DecidableEq, Repr, Inhabited

/-! ## Derived values -/

/-- How long to wait before a lost registration is restored. -/
def Lease.reregisterDelay (l : Lease) : Duration := .ofMillis l.reregisterDelayMs

/-- The policy for restoring a registration: at least one attempt. -/
def Lease.policy (l : Lease) : Backoff where
  attempts := max l.reregisterMaxAttempts.toNat 1
  base := .ofMillis l.backoffBaseMs
  longest := .ofSecs l.backoffMaxSecs

/-- How long one query may block. -/
def Watch.wait (w : Watch) : Duration := .ofSecs w.waitSecs

/-- The policy for failing queries: at least one attempt. -/
def Watch.policy (w : Watch) : Backoff where
  attempts := max w.maxConsecutiveFailures.toNat 1
  base := .ofMillis w.backoffBaseMs
  longest := .ofSecs w.backoffMaxSecs

/-- The interval at which addresses are resolved again; an interval of zero is none. -/
def Resolver.refreshInterval (r : Resolver) : Option Duration :=
  (r.refreshIntervalSecs.filter (· > 0)).map .ofSecs

/-- **The URL of the registry**: the configured one without blanks around it, or the default. -/
def Discovery.urlOrDefault (d : Discovery) : String :=
  (d.url.bind Text.nonBlank?).getD d.backend.defaultUrl

/-- The backend and its URL in one text. -/
def Discovery.schemeUrl (d : Discovery) : String := d.backend.schemeUrl d.urlOrDefault

/-- **The namespace**: the configured one without blanks around it, or the backend's default. -/
def Discovery.namespaceOrDefault (d : Discovery) : String :=
  (d.scope.bind Text.nonBlank?).getD d.backend.defaultNamespace

/-- How long connecting may take. -/
def Discovery.dialTimeout (d : Discovery) : Duration := .ofSecs d.dialTimeoutSecs

/-- How long a single request may take. -/
def Discovery.requestTimeout (d : Discovery) : Duration := .ofSecs d.requestTimeoutSecs

/-! ## Reading -/

open Datum

/-- An optional value out of a datum: in TOML nothing is null, so whatever stands there is a value. -/
def optionalField {α : Type} (read : Datum → Option α) (r : Record) (field : String) :
    Option (Option α) :=
  r.withDefault field (Datum.optional read) none

/-- A lease record. -/
def Lease.read (f : Format) (d : Datum) : Option Lease := do
  let r ← d.record? f ["ttl_secs", "reregister_delay_ms", "reregister_max_attempts",
    "backoff_base_ms", "backoff_max_secs"]
  let base : Lease := {}
  let ttlSecs ← r.withDefault "ttl_secs" int64? base.ttlSecs
  let reregisterDelayMs ← r.withDefault "reregister_delay_ms" uint64? base.reregisterDelayMs
  let reregisterMaxAttempts ←
    r.withDefault "reregister_max_attempts" uint64? base.reregisterMaxAttempts
  let backoffBaseMs ← r.withDefault "backoff_base_ms" uint64? base.backoffBaseMs
  let backoffMaxSecs ← r.withDefault "backoff_max_secs" uint64? base.backoffMaxSecs
  return { ttlSecs, reregisterDelayMs, reregisterMaxAttempts, backoffBaseMs, backoffMaxSecs }

/-- A check record. -/
def Check.read (f : Format) (d : Datum) : Option Check := do
  let r ← d.record? f ["interval", "timeout", "deregister_critical_after", "path"]
  let base : Check := {}
  let interval ← r.withDefault "interval" text? base.interval
  let timeout ← r.withDefault "timeout" text? base.timeout
  let deregisterCriticalAfter ←
    r.withDefault "deregister_critical_after" text? base.deregisterCriticalAfter
  let path ← r.withDefault "path" text? base.path
  return { interval, timeout, deregisterCriticalAfter, path }

/-- A watch record. -/
def Watch.read (f : Format) (d : Datum) : Option Watch := do
  let r ← d.record? f ["wait_secs", "max_consecutive_failures", "backoff_base_ms",
    "backoff_max_secs"]
  let base : Watch := {}
  let waitSecs ← r.withDefault "wait_secs" uint64? base.waitSecs
  let maxConsecutiveFailures ←
    r.withDefault "max_consecutive_failures" uint64? base.maxConsecutiveFailures
  let backoffBaseMs ← r.withDefault "backoff_base_ms" uint64? base.backoffBaseMs
  let backoffMaxSecs ← r.withDefault "backoff_max_secs" uint64? base.backoffMaxSecs
  return { waitSecs, maxConsecutiveFailures, backoffBaseMs, backoffMaxSecs }

/-- A resolver record. -/
def Resolver.read (f : Format) (d : Datum) : Option Resolver := do
  let r ← d.record? f ["refresh_interval_secs"]
  let refreshIntervalSecs ← optionalField uint64? r "refresh_interval_secs"
  return { refreshIntervalSecs }

/-- A backend, by its name. -/
def Backend.read (f : Format) (d : Datum) : Option Backend := (d.choice? f).bind Backend.ofText?

/-- **A discovery record.** -/
def Discovery.read (f : Format) (d : Datum) : Option Discovery := do
  let r ← d.record? f ["backend", "url", "namespace", "dial_timeout_secs", "request_timeout_secs",
    "lease", "health_check", "watch", "resolver"]
  let base : Discovery := {}
  let backend ← r.withDefault "backend" (Backend.read f) base.backend
  let url ← optionalField text? r "url"
  let scope ← optionalField text? r "namespace"
  let dialTimeoutSecs ← r.withDefault "dial_timeout_secs" uint64? base.dialTimeoutSecs
  let requestTimeoutSecs ← r.withDefault "request_timeout_secs" uint64? base.requestTimeoutSecs
  let lease ← r.withDefault "lease" (Lease.read f) base.lease
  let check ← r.withDefault "health_check" (Check.read f) base.check
  let watch ← r.withDefault "watch" (Watch.read f) base.watch
  let resolver ← r.withDefault "resolver" (Resolver.read f) base.resolver
  return { backend, url, scope, dialTimeoutSecs, requestTimeoutSecs, lease, check, watch, resolver }

end Muster.Config
