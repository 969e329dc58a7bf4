/-
  The lease backend as a machine: what each process does between two waits.

  `Settings.resume` is one step — a waiting process gets a signal and runs to its next wait — and
  `Settings.call` starts a call.  A backend does nothing else, so a run of it is a sequence of these.

  The parts, in their order here:

  (1) `scheduleRestore` — the registration is lost: degraded at once, restored later, ONE task at most;
  (2) `observe` — an event changes the cache; the withdrawal of the own endpoint is a loss;
  (3) `synchronise` — a snapshot changes the cache; a full one takes stale members away, and a missing
      own endpoint is a loss;
  (4) `progress` and `enrol` — a registration: three requests, and what its success changes.
-/
import Muster.Leased.Basic

namespace Muster.Leased

open Logging (Line)

/-! ## The cache -/

/-- The fields of a line about a value that announces nothing.  What the decoder says of the value is left out: it is
    the decoder's own text, and nobody goes by it. -/
def garbledFields (key : String) (value : ByteArray) : List (String × String) :=
  [("key", key), ("value", Utf8.lossy value)]

/-- Makes a service known. -/
def known (service : String) (s : State) : State := { s with registry := s.registry.create service }

/-- A line for each member that `announced` does not hold. -/
def staleLines (announced : List (String × Instance)) (r : Registry) : List Line :=
  r.entries.flatMap fun e =>
    (e.2.list.filter fun i => !holds announced e.1 i.endpoint).map fun i =>
      .about e.1 "stale service instance removed" i

/-- Takes away every member that a snapshot does not announce. -/
def sweep (announced : List (String × Instance)) (s : State) : State :=
  { s with registry := s.registry.restrict (holds announced) }.notes
    (staleLines announced s.registry)

/-! ## Tasks that begin and end -/

/-- Starts a watch, unless there is one or the backend is closed. -/
def armWatch (start : Option Int) (s : State) : State :=
  if s.closed || s.own.watching then s
  else
    let s : State := { s with own := { s.own with watching := true } }
    s.spawn (.watch (.fresh start))

/-- The watch is over. -/
def endWatch (s : State) (id : Nat) : State :=
  let s := (s.finish id).setWatching false
  { s with own := { s.own with watching := false } }

/-- Restoring is over. -/
def endRestore (s : State) (id : Nat) : State :=
  let s := s.finish id
  { s with own := { s.own with restoring := false } }

/-! ## Registrations -/

/-- What the answer to one request of a registration leads to. -/
inductive Progress where
  /-- The next request. -/
  | asks (r : Request) (next : Registering)
  /-- The end: renewals of the lease come from a stream. -/
  | opened (lease : Int) (stream : Nat)
  /-- A failure. -/
  | failed (f : Failure)

/-- A deregistration: the registration is given up at once, and its lease, if there is one, is ended. -/
def deregister (s : State) : State :=
  let lease := s.own.lease
  let s : State := (s.setRegistered false)
  let s : State := { s with own := { s.own with called := false, renewal := none, lease := none } }
  match lease with
  | some lease => s.begin (.revoke lease) (.revoking lease)
  | none => s.instant (.status (.ok ()))

namespace Settings

variable (c : Settings)

/-! ## A lost registration -/

/-- **Arranges that the registration is restored.**  `forced` if even the own instance in the cache
    shall not keep it from that. -/
def scheduleRestore (forced : Bool) (s : State) : State :=
  let s := s.setDegraded true
  let s := if forced then { s with own := { s.own with forced := true } } else s
  if s.own.restoring then
    s.log .debug "re-registration already scheduled" [("service", c.self.name)]
  else
    let s : State := { s with own := { s.own with restoring := true } }
    (s.log .warn "own registration lost, scheduling re-registration"
      [("service", c.self.name), ("endpoint", c.self.endpoint),
        ("delay_ms", Decimal.ofInt (c.lease.reregisterDelay.toMillis % 18446744073709551616))]).spawn
      (.restore .delaying)

/-! ## Events -/

/-- **An event changes the cache.** -/
def observe (s : State) (e : Event) : State :=
  match e.finding c.scope with
  | .foreign => s.log .warn "ignoring event for unrecognized key" [("key", e.key)]
  | .garbled service =>
    (known service s).log .error "failed to decode service info, event skipped"
      (garbledFields e.key e.value)
  | .announced service i => s.insertNoted service i.name i
  | .misplaced service =>
    (known service s).log .warn "ignoring delete event with malformed endpoint" [("key", e.key)]
  | .withdrawn service i =>
    let s := s.eraseNoted service i (.about i.name "service instance removed" i)
    if s.flags.registered && i.isAt c.self.address c.self.port then c.scheduleRestore false s else s

/-- The events of a batch, in their order. -/
def observeAll (s : State) (batch : List Event) : State := batch.foldl c.observe s

/-! ## Snapshots -/

/-- One pair of a snapshot changes the cache. -/
def absorb (s : State) (p : String × ByteArray) : State :=
  match findPut c.scope p.1 p.2 with
  | .announced service i => s.insertNoted service i.name i
  | .garbled _ => s.log .error "failed to decode service info" (garbledFields p.1 p.2)
  | _ => s.log .warn "ignoring unrecognized discovery key" [("key", p.1)]

/-- **A snapshot changes the cache.**  A full one is the whole truth: what it does not announce goes,
    and a registration that it does not announce is lost. -/
def synchronise (full : Bool) (snap : Snapshot) (s : State) : State :=
  let s := snap.pairs.foldl c.absorb s
  if full then
    let announced := snap.announced c.scope
    let s := sweep announced s
    if s.flags.registered && !holds announced c.self.name c.self.endpoint then
      c.scheduleRestore false
        (s.log .warn "own registration missing after resync"
          [("service", c.self.name), ("endpoint", c.self.endpoint)])
    else s
  else s

/-! ## Registrations -/

/-- **The order of a registration's requests.**  All three concern ONE lease. -/
def progress : Registering → Except Failure Reply → Option Progress
  | .granting, .ok (.granted lease) => some (.asks (.put c.key c.value lease) (.putting lease))
  | .putting lease, .ok .done => some (.asks (.keepAlive lease c.lease.ttlSecs) (.opening lease))
  | .opening lease, .ok (.opened stream) => some (.opened lease stream)
  | stage, .error f => some (.failed (.registration stage.operation f))
  | _, .ok _ => none

/-- **A registration succeeded**: the lease is taken on, and a task renews it from the stream. -/
def enrol (lease : Int) (stream : Nat) (s : State) : State :=
  let s : State := { s with own := { s.own with lease := some lease } }
  let s := (s.setRegistered true).setDegraded false
  let s : State := { s with own := { s.own with renewal := some s.nextId } }
  (s.spawn (.renewal lease stream)).log .info "service registered with etcd"
    [("service", c.self.name), ("endpoint", c.self.endpoint), ("url", c.url),
      ("lease_id", Decimal.ofInt lease)]

/-- A registration that was called for goes on. -/
def stepRegistering (s : State) (id : Nat) : Progress → State
  | .asks r next => s.ask id r (.registering next)
  | .opened lease stream => (c.enrol lease stream s).succeed id
  | .failed f =>
    let s : State := { s with own := { s.own with called := false } }
    (s.log .error "failed to register service with etcd"
      [("service", c.self.name), ("endpoint", c.self.endpoint), ("error", f.message)]).fail id f

/-! ## The watch -/

/-- The watch asks for the stream of events. -/
def openWatch (s : State) (id : Nat) (start : Int) : State :=
  s.ask id (.watch c.lead start) (.watch (.opening start))

/-- Logs a failure of the watch and ends it. -/
def breakWatch (s : State) (id : Nat) (message : String) (f : Failure) : State :=
  endWatch (s.log .warn message [("prefix", c.lead), ("error", f.message)]) id

/-- **The watch goes on.** -/
def stepWatch (s : State) (id : Nat) : Watch → Signal Reply Item → Option State
  | .fresh (some start), .turn => some (c.openWatch s id start)
  | .fresh none, .turn => some (s.ask id (.range c.lead) (.watch .syncing))
  | .syncing, .reply (.ok (.contents snap)) =>
    some (c.openWatch (c.synchronise true snap s) id (snap.revision + 1))
  | .syncing, .reply (.error f) =>
    some (c.breakWatch s id "failed to resync services, watch will be retried on next query" f)
  | .opening start, .reply (.ok (.opened stream)) =>
    some (((s.setWatching true).log .info "etcd watch started"
      [("prefix", c.lead), ("revision", Decimal.ofInt start)]).become id (.watch (.reading stream)))
  | .opening _, .reply (.error f) =>
    some (c.breakWatch s id "failed to start etcd watch, will be retried on next query" f)
  | .reading _, .item (some (.ok (.changes batch))) => some (c.observeAll s batch)
  | .reading _, .item (some (.error f)) =>
    some (c.breakWatch s id "etcd watch failed, live updates paused" f)
  | .reading _, .item none =>
    some (endWatch (s.log .warn "etcd watch stream closed, live updates paused"
      [("prefix", c.lead)]) id)
  | .reading _, .cancelled =>
    if s.closed then some (endWatch (s.log .debug "etcd watch stopped" [("prefix", c.lead)]) id)
    else none
  | _, _ => none

/-! ## Renewals -/

/-- **The renewals of a lease have ended.**  If it is still the lease of the registration, the
    registration is lost. -/
def endRenewal (s : State) (id : Nat) (lease : Int) : State :=
  let s := s.finish id
  if !s.flags.registered || s.own.lease != some lease then
    s.log .debug "keepalive ended for a lease no longer in use" [("lease_id", Decimal.ofInt lease)]
  else
    c.scheduleRestore true
      (s.log .error "etcd connection lost, lease keepalive terminated"
        [("service", c.self.name), ("lease_id", Decimal.ofInt lease)])

/-- A renewal task goes on. -/
def stepRenewal (s : State) (id : Nat) (lease : Int) : Signal Reply Item → Option State
  | .item (some (.ok (.renewed ttl))) =>
    some (s.log .debug "lease renewed"
      [("lease_id", Decimal.ofInt lease), ("ttl", Decimal.ofInt ttl)])
  | .item (some (.error f)) =>
    some (c.endRenewal
      (s.log .error "lease keepalive failed"
        [("lease_id", Decimal.ofInt lease), ("error", f.message)]) id lease)
  | .item none => some (c.endRenewal s id lease)
  | .cancelled =>
    if s.isCancelled id then
      some ((s.log .debug "lease keepalive stopped" [("lease_id", Decimal.ofInt lease)]).finish id)
    else none
  | _ => none

/-! ## Restoring -/

/-- Another attempt after some failures, unless the process has deregistered. -/
def attempt (s : State) (id failures : Nat) : State :=
  if s.flags.registered then
    s.ask id (.grant c.lease.ttlSecs) (.restore (.attempting failures .granting))
  else
    endRestore (s.log .debug "service deregistered, re-registration abandoned"
      [("service", c.self.name)]) id

/-- The delay has passed: nothing needs to be done if the own instance has been seen again. -/
def afterDelay (s : State) (id : Nat) : State :=
  let forced := s.own.forced
  let s : State := { s with own := { s.own with forced := false } }
  if !forced && s.registry.has c.self.name c.self.endpoint then
    endRestore ((s.log .info "own registration observed again, skipping re-registration"
      [("service", c.self.name), ("endpoint", c.self.endpoint)]).setDegraded false) id
  else c.attempt s id 0

/-- An attempt failed, the last of `failures`. -/
def afterFailure (s : State) (id failures : Nat) (f : Failure) : State :=
  if c.lease.policy.retries failures then
    (s.log .warn "re-registration failed, retrying"
      [("service", c.self.name), ("attempt", Decimal.ofInt failures),
        ("backoff_ms",
          Decimal.ofInt ((c.lease.policy.delay failures).toMillis % 18446744073709551616)),
        ("error", f.message)]).become id (.restore (.backingOff failures))
  else
    endRestore (s.log .error "re-registration attempts exhausted, staying degraded"
      [("service", c.self.name), ("attempts", Decimal.ofInt failures), ("error", f.message)]) id

/-- A registration that restores a lost one goes on. -/
def stepAttempt (s : State) (id failures : Nat) : Progress → State
  | .asks r next => s.ask id r (.restore (.attempting failures next))
  | .opened lease stream =>
    endRestore ((c.enrol lease stream s).log .info "service re-registered"
      [("service", c.self.name), ("attempt", Decimal.ofInt (failures + 1))]) id
  | .failed f => c.afterFailure s id (failures + 1) f

/-- **Restoring goes on.** -/
def stepRestore (s : State) (id : Nat) : Restore → Signal Reply Item → Option State
  | .delaying, .elapsed => some (c.afterDelay s id)
  | .backingOff failures, .elapsed => some (c.attempt s id failures)
  | .delaying, .cancelled | .backingOff _, .cancelled =>
    if s.closed then some (endRestore s id) else none
  | .attempting failures stage, sig =>
    ((sig.result? stage.operation c.requestTimeout).bind (c.progress stage)).map
      (c.stepAttempt s id failures)
  | _, _ => none

/-! ## Calls that wait -/

/-- The first load has been answered. -/
def stepStarting (s : State) (id : Nat) : Except Failure Reply → Option State
  | .ok (.contents snap) =>
    some ((armWatch (some (snap.revision + 1)) (c.synchronise false snap s)).succeed id)
  | .ok _ => none
  | .error f =>
    some ((s.log .error "failed to load services from etcd"
      [("prefix", c.lead), ("error", f.message)]).fail id f)

/-- The end of the lease has been answered. -/
def stepRevoking (s : State) (id : Nat) (lease : Int) : Except Failure Reply → Option State
  | .ok .done =>
    some ((s.log .info "service deregistered from etcd"
      [("service", c.self.name), ("lease_id", Decimal.ofInt lease)]).succeed id)
  | .ok _ => none
  | .error f => some (s.fail id f)

/-- A query has been answered. -/
def stepQuerying (s : State) (id : Nat) (service : String) : Except Failure Reply → Option State
  | .ok (.contents snap) =>
    let s := c.synchronise false snap s
    some <| match s.registry.get? service with
      | some m => s.answer id (.instances m.list)
      | none =>
        (s.log .warn "no service instances found in etcd" [("service", service)]).answer id
          (.instances [])
  | .ok _ => none
  | .error f =>
    some ((s.log .error "failed to load service instances from etcd"
      [("service", service), ("error", f.message)]).answer id (.instances []))

/-- The tasks are over. -/
def stepClosing (s : State) (id : Nat) : Signal Reply Item → Option State
  | .tasksDone =>
    if s.hasTasks then none
    else
      some (((s.setWatching false).log .debug "etcd discovery shut down"
        [("service", c.self.name)]).succeed id)
  | _ => none

/-! ## The machine -/

/-- A process runs from a signal to its next wait. -/
def advance (s : State) (id : Nat) (sig : Signal Reply Item) : Process → Option State
  | .starting => sig.reply?.bind (c.stepStarting s id)
  | .registering stage =>
    ((sig.result? stage.operation c.requestTimeout).bind (c.progress stage)).map
      (c.stepRegistering s id)
  | .revoking lease => (sig.result? "lease revoke" c.requestTimeout).bind (c.stepRevoking s id lease)
  | .querying service =>
    (sig.result? "service bootstrap" c.requestTimeout).bind (c.stepQuerying s id service)
  | .closing => c.stepClosing s id sig
  | .watch w => c.stepWatch s id w sig
  | .renewal lease _ => c.stepRenewal s id lease sig
  | .restore r => c.stepRestore s id r sig

/-- **One step**: the process with a number gets a signal.  `none` when there is no such process, or
    it does not wait for that. -/
def resume (s : State) (id : Nat) (sig : Signal Reply Item) : Option State :=
  (s.process? id).bind (c.advance s id sig)

/-! ## Calls -/

end Settings

/-- The calls of a backend. -/
inductive Call where
  /-- Loads the cache and starts the watch. -/
  | start
  /-- Registers the process. -/
  | register
  /-- Takes the registration back. -/
  | deregister
  /-- Asks for the instances of a service. -/
  | instances (service : String)
  /-- Cancels every task and waits for its end. -/
  | shutdown
deriving DecidableEq, Repr

namespace Settings

variable (c : Settings)

/-- **Starts a call**; it gets the number that was next. -/
def call (s : State) : Call → State
  | .start => s.begin (.range c.lead) .starting
  | .register =>
    if s.own.called then
      (s.log .warn "service already registered, ignoring" [("service", c.self.name)]).instant
        (.status (.ok ()))
    else
      let s : State := { s with own := { s.own with called := true } }
      s.begin (.grant c.lease.ttlSecs) (.registering .granting)
  | .deregister => deregister s
  | .instances service =>
    armWatch none <| match s.registry.get? service with
      | some m => s.instant (.instances m.list)
      | none => s.begin (.range (Layout.serviceLead c.scope service)) (.querying service)
  | .shutdown => (s.close).spawn .closing

end Settings

end Muster.Leased
