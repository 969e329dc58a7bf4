/-
  The probing backend: its settings, what it asks of a store, and its processes.

  The registry probes the instances itself, so a registration is one request.  What goes on in the
  background is one WATCH for each service that was asked for: a loop of blocking queries, each of which
  returns when something changed after an index, or when its time is up.

  A watch waits for its queries without a limit, but closing the backend ends that wait.
-/
import Muster.Announcement
import Muster.Probed.Registration
import Muster.Probed.Status
import Muster.Session

namespace Muster.Probed

/-! ## Settings -/

/-- **What a probing backend is set up with.** -/
structure Settings where
  /-- What the process announces. -/
  self : Registrant
  /-- Where the registry is. -/
  url : String
  /-- The namespace of all requests; none if empty. -/
  scope : String
  check : Config.Check
  watch : Config.Watch
  /-- The limit of a single request. -/
  requestTimeout : Duration
deriving DecidableEq, Repr, Inhabited

namespace Settings

/-- The settings in a configuration. -/
def ofConfig (self : Registrant) (d : Config.Discovery) : Settings where
  self := self
  url := d.urlOrDefault
  scope := d.namespaceOrDefault
  check := d.check
  watch := d.watch
  requestTimeout := d.requestTimeout

/-- What the process submits. -/
def registration (c : Settings) : Registration := .ofRegistrant c.self c.scope c.check

end Settings

/-! ## Requests and answers -/

/-- An instance and its status. -/
structure Report where
  service : Instance
  status : Status
deriving DecidableEq, Repr

/-- **A request to a health store.** -/
inductive Request where
  /-- Submits a registration. -/
  | register (r : Registration)
  /-- Takes the registration with an identifier back. -/
  | deregister (id : String)
  /-- Asks for the instances of a service. -/
  | instances (name scope : String)
  /-- Asks for the instances of a service as soon as they change after an index. -/
  | changes (name scope : String) (index : UInt64) (wait : Duration)
deriving DecidableEq, Repr

/-- What a health store answers. -/
inductive Reply where
  | done
  | reports (l : List Report)
  /-- The reports at an index. -/
  | indexed (index : UInt64) (l : List Report)

/-- A health store has no streams. -/
inductive Item where

/-! ## Processes -/

/-- How far a watch is. -/
inductive Watch where
  /-- Not begun. -/
  | fresh
  /-- Waiting for a change after an index, after some failures in a row. -/
  | querying (index : UInt64) (failures : Nat)
  /-- Loading a service that is seen for the first time, with the reports to apply afterwards. -/
  | loading (index : UInt64) (l : List Report)
  /-- Waiting after a failure. -/
  | backingOff (index : UInt64) (failures : Nat)
deriving DecidableEq, Repr

/-- **The processes of a probing backend.** -/
inductive Process where
  | registering
  | deregistering
  /-- A query for a service that is not cached. -/
  | querying (service : String)
  /-- The shutdown, waiting for the tasks. -/
  | closing
  /-- The task that watches a service. -/
  | watch (service : String) (w : Watch)
deriving DecidableEq, Repr

namespace Process

/-- Whether a process is a background task, and not a call. -/
def isTask : Process → Bool
  | watch .. => true
  | _ => false

/-- **What a process waits for.** -/
def wait (c : Settings) : Process → Wait
  | registering | deregistering | querying _ => .reply (some c.requestTimeout) false
  | closing => .tasks
  | watch _ .fresh => .turn
  | watch _ (.querying ..) => .reply none true
  | watch _ (.loading ..) => .reply (some c.requestTimeout) false
  | watch _ (.backingOff _ failures) => .pause (c.watch.policy.delay failures)

end Process

/-! ## The state -/

/-- What only a probing backend keeps: the services that have a watch. -/
structure Watched where
  services : List String := []
deriving DecidableEq, Repr, Inhabited

/-- **The state of a probing backend.** -/
abbrev State := Session Watched Process Request

namespace State

/-- A new backend: connected, with nothing cached. -/
def initial : State := { own := {} }

/-- Whether a background task is left. -/
def hasTasks (s : State) : Bool := s.processes.any fun p => p.2.isTask

/-- Whether a service has a watch. -/
def isWatched (s : State) (service : String) : Bool := s.own.services.contains service

end State

end Muster.Probed
