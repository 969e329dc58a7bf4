/-
  The probing backend as a machine: what each process does between two waits.

  (1) `merge` — a first load fills the cache: the passing instances, or all if none passes;
  (2) `apply` — a changed result of a blocking query changes it: passing instances come in, others go,
      and a member that the result does not mention goes too;
  (3) `stepWatch` — the loop.  A result with the index that was asked for says that nothing changed; a
      smaller one says that the registry started afresh, and the next query starts from 0.

  Failures in a row are counted; too many end the watch, and the next query for the service starts
  another.
-/
import Muster.Probed.Basic

namespace Muster.Probed

/-! ## The cache -/

/-- **The instances that a first load takes**: the passing ones, or all if none passes. -/
def eligible (l : List Report) : List Instance :=
  let passing := l.filter fun r => r.status.isPassing
  (if passing.isEmpty then l else passing).map (·.service)

/-- Adds instances under a service. -/
def insertAll (r : Registry) (service : String) (l : List Instance) : Registry :=
  l.foldl (fun r i => r.insert service i) (r.create service)

/-- **A first load fills the cache.**  An answer without instances changes nothing. -/
def merge (service : String) (l : List Report) (s : State) : State :=
  if l.isEmpty then
    s.log .warn "no service instances found in consul" [("service", service)]
  else
    let s := if l.any fun r => r.status.isPassing then s
      else s.log .warn "no passing instances, falling back to all instances"
        [("service", service), ("total", Decimal.ofInt l.length)]
    let s : State := { s with registry := insertAll s.registry service (eligible l) }
    s.log .info "service instances loaded from consul"
      [("service", service), ("instances", Instance.encodeList (eligible l))]

/-- One report of a changed result. -/
def applyReport (service : String) (s : State) (r : Report) : State :=
  if r.status.isPassing then s.insertNoted service service r.service
  else
    let line := Logging.Line.about service "service instance removed" r.service
    s.eraseNoted service r.service
      { line with fields := line.fields ++ [("status", r.status.text)] }

/-- Whether a result mentions an endpoint. -/
def mentions (l : List Report) (endpoint : String) : Bool :=
  l.any fun r => r.service.endpoint == endpoint

/-- Takes away the members of a service that a result does not mention. -/
def sweep (service : String) (l : List Report) (s : State) : State :=
  { s with registry := s.registry.modify service (·.restrict (mentions l)) }.notes
    (((s.registry.members service).list.filter fun (i : Instance) => !mentions l i.endpoint).map
      (.about service "service instance deregistered"))

/-- **A changed result changes the cache.** -/
def apply (service : String) (l : List Report) (s : State) : State :=
  let s : State := { s with registry := s.registry.create service }
  sweep service l (l.foldl (applyReport service) s)

/-! ## The watch -/

/-- Starts a watch for a service, unless it has one or the backend is closed. -/
def ensureWatch (service : String) (s : State) : State :=
  if s.closed || s.isWatched service then s
  else
    let s : State := { s with own := ⟨s.own.services ++ [service]⟩ }
    s.spawn (.watch service .fresh)

/-- The watch of a service is over; with the last one the backend watches no more. -/
def endWatch (s : State) (id : Nat) (service : String) : State :=
  let s : State := { s.finish id with own := ⟨s.own.services.filter (· != service)⟩ }
  if s.own.services.isEmpty then s.setWatching false else s

/-- The index to ask with after a result: a smaller one than was asked with starts from 0. -/
def nextIndex (index new : UInt64) : UInt64 := if new < index then 0 else new

namespace Settings

variable (c : Settings)

/-- The watch asks for changes after an index. -/
def query (s : State) (id : Nat) (service : String) (index : UInt64) (failures : Nat) : State :=
  s.ask id (.changes service c.scope index c.watch.wait) (.watch service (.querying index failures))

/-- **A query was answered.** -/
def afterResult (s : State) (id : Nat) (service : String) (index : UInt64) (failures : Nat)
    (new : UInt64) (l : List Report) : State :=
  let s := if failures > 0 then s.log .info "consul watch recovered" [("service", service)] else s
  let s := (s.setWatching true).setDegraded false
  if new = index then c.query s id service index 0
  else
    let next := nextIndex index new
    if s.registry.contains service then c.query (apply service l s) id service next 0
    else s.ask id (.instances service c.scope) (.watch service (.loading next l))

/-- A query failed, the last of `failures` in a row. -/
def afterFailure (s : State) (id : Nat) (service : String) (index : UInt64) (failures : Nat)
    (f : Failure) : State :=
  if c.watch.policy.retries failures then
    (s.log .warn "consul watch failed, retrying"
      [("service", service), ("failures", Decimal.ofInt failures),
        ("backoff_ms",
          Decimal.ofInt ((c.watch.policy.delay failures).toMillis % 18446744073709551616)),
        ("error", f.message)]).become id (.watch service (.backingOff index failures))
  else
    endWatch ((s.log .error "consul watch giving up, will be restarted on next query"
      [("service", service), ("failures", Decimal.ofInt failures),
        ("error", f.message)]).setDegraded true) id service

/-- The load of a service that was seen for the first time is over; the reports are applied to
    whatever it brought. -/
def afterLoad (s : State) (id : Nat) (service : String) (index : UInt64) (l : List Report) : State :=
  c.query (apply service l s) id service index 0

/-- **The watch of a service goes on.** -/
def stepWatch (s : State) (id : Nat) (service : String) : Watch → Signal Reply Item → Option State
  | .fresh, .turn =>
    some (c.query (s.log .info "consul watch started" [("service", service)]) id service 0 0)
  | .querying index failures, .reply (.ok (.indexed new l)) =>
    some (c.afterResult s id service index failures new l)
  | .querying index failures, .reply (.error f) =>
    some (c.afterFailure s id service index (failures + 1) f)
  | .querying .., .cancelled =>
    if s.closed then
      some (endWatch (s.log .debug "consul watch stopped" [("service", service)]) id service)
    else none
  | .loading index l, sig =>
    match sig.result? "service bootstrap" c.requestTimeout with
    | some (.ok (.reports loaded)) => some (c.afterLoad (merge service loaded s) id service index l)
    | some (.error f) =>
      some (c.afterLoad (s.log .warn "failed to load service instances from consul"
        [("service", service), ("error", f.message)]) id service index l)
    | _ => none
  | .backingOff index failures, .elapsed => some (c.query s id service index failures)
  | .backingOff .., .cancelled => if s.closed then some (endWatch s id service) else none
  | _, _ => none

/-! ## Calls that wait -/

/-- A registration has been answered. -/
def stepRegistering (s : State) (id : Nat) : Except Failure Reply → Option State
  | .ok .done =>
    some (((s.setRegistered true).log .info "service registered with consul"
      [("service", c.self.name), ("endpoint", c.self.endpoint), ("url", c.url)]).succeed id)
  | .ok _ => none
  | .error f =>
    some ((s.log .error "failed to register service with consul"
      [("service", c.self.name), ("endpoint", c.self.endpoint), ("error", f.message)]).fail id
      (.registration "service register" f))

/-- A deregistration has been answered. -/
def stepDeregistering (s : State) (id : Nat) : Except Failure Reply → Option State
  | .ok .done =>
    some (((s.setRegistered false).log .info "service deregistered from consul"
      [("service", c.self.name), ("endpoint", c.self.endpoint)]).succeed id)
  | .ok _ => none
  | .error f => some (s.fail id f)

/-- A query has been answered. -/
def stepQuerying (s : State) (id : Nat) (service : String) : Except Failure Reply → Option State
  | .ok (.reports l) =>
    let s := ensureWatch service (merge service l s)
    some (s.answer id (.instances (s.registry.members service).list))
  | .ok _ => none
  | .error f =>
    some ((s.log .error "failed to load service instances from consul"
      [("service", service), ("error", f.message)]).answer id (.instances []))

/-- The tasks are over. -/
def stepClosing (s : State) (id : Nat) : Signal Reply Item → Option State
  | .tasksDone =>
    if s.hasTasks then none
    else
      some (((s.setWatching false).log .debug "consul discovery shut down"
        [("service", c.self.name)]).succeed id)
  | _ => none

/-! ## The machine -/

/-- A process runs from a signal to its next wait. -/
def advance (s : State) (id : Nat) (sig : Signal Reply Item) : Process → Option State
  | .registering =>
    (sig.result? "service register" c.requestTimeout).bind (c.stepRegistering s id)
  | .deregistering =>
    (sig.result? "service deregister" c.requestTimeout).bind (c.stepDeregistering s id)
  | .querying service =>
    (sig.result? "service bootstrap" c.requestTimeout).bind (stepQuerying s id service)
  | .closing => c.stepClosing s id sig
  | .watch service w => c.stepWatch s id service w sig

/-- **One step**: the process with a number gets a signal.  `none` when there is no such process, or
    it does not wait for that. -/
def resume (s : State) (id : Nat) (sig : Signal Reply Item) : Option State :=
  (s.process? id).bind (c.advance s id sig)

end Settings

/-! ## Calls -/

/-- The calls of a backend. -/
inductive Call where
  /-- Registers the process. -/
  | register
  /-- Takes the registration back. -/
  | deregister
  /-- Asks for the instances of a service. -/
  | instances (service : String)
  /-- Cancels every task and waits for its end. -/
  | shutdown
deriving DecidableEq, Repr

/-- **Starts a call**; it gets the number that was next. -/
def Settings.call (c : Settings) (s : State) : Call → State
  | .register => s.begin (.register c.registration) .registering
  | .deregister => s.begin (.deregister c.self.endpoint) .deregistering
  | .instances service =>
    match s.registry.get? service with
    | some m => ensureWatch service (s.instant (.instances m.list))
    | none => s.begin (.instances service c.scope) (.querying service)
  | .shutdown => s.close.spawn .closing

end Muster.Probed
