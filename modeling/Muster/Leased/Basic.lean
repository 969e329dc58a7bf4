/-
  The lease backend: its settings, what it asks of a store, and its processes.

  A registration is three requests, one after the other: a lease is granted, the key is put under it,
  and a stream of renewals is opened.  Three kinds of background tasks go with it:

  (1) `Watch` — synchronises with the store if it has to, opens a stream of events, and reads it;
  (2) a renewal, which reads the stream of one lease;
  (3) `Restore` — waits, and then registers again, with growing delays between attempts.

  `Process.wait` says of each stage what it waits for.  Synchronising and opening have NO limit; all
  requests of a registration do.
-/
import Muster.Config.Discovery
import Muster.Leased.Event
import Muster.Session

namespace Muster.Leased

/-! ## Settings -/

/-- **What a lease backend is set up with.** -/
structure Settings where
  /-- What the process announces. -/
  self : Registrant
  /-- Where the store is. -/
  url : String
  /-- The namespace of all keys. -/
  scope : String
  lease : Config.Lease
  /-- The limit of a single request. -/
  requestTimeout : Duration
deriving DecidableEq, Repr, Inhabited

namespace Settings

/-- The settings in a configuration. -/
def ofConfig (self : Registrant) (d : Config.Discovery) : Settings where
  self := self
  url := d.urlOrDefault
  scope := d.namespaceOrDefault
  lease := d.lease
  requestTimeout := d.requestTimeout

/-- The key under which the process registers. -/
def key (c : Settings) : String := Layout.key c.scope c.self

/-- The value that it puts there. -/
def value (c : Settings) : String := c.self.self.encode

/-- The lead of all keys. -/
def lead (c : Settings) : String := Layout.lead c.scope

end Settings

/-! ## Requests and answers -/

/-- **A request to a lease store.** -/
inductive Request where
  /-- Grants a lease for some seconds. -/
  | grant (ttl : Int)
  /-- Puts a value under a lease. -/
  | put (key value : String) (lease : Int)
  /-- Opens the stream of a lease's renewals. -/
  | keepAlive (lease ttl : Int)
  /-- Ends a lease, and with it the keys under it. -/
  | revoke (lease : Int)
  /-- Reads all pairs under a lead. -/
  | range (lead : String)
  /-- Opens the stream of changes under a lead, from a revision on. -/
  | watch (lead : String) (start : Int)
deriving DecidableEq, Repr

/-- What a lease store answers. -/
inductive Reply where
  | granted (lease : Int)
  | done
  /-- A stream, known by a number. -/
  | opened (stream : Nat)
  | contents (snap : Snapshot)

/-- What the streams of a lease store carry. -/
inductive Item where
  /-- A lease was renewed, and lives for some seconds more. -/
  | renewed (ttl : Int)
  /-- Some keys changed. -/
  | changes (batch : List Event)

/-! ## Processes -/

/-- How far a registration is: the request that it waits for. -/
inductive Registering where
  | granting
  | putting (lease : Int)
  | opening (lease : Int)
deriving DecidableEq, Repr

/-- The name of the request, which is also the name of the stage. -/
def Registering.operation : Registering → String
  | granting => "lease grant"
  | putting _ => "key put"
  | opening _ => "keepalive"

/-- How far a watch is. -/
inductive Watch where
  /-- Not begun; it will start at a revision, or synchronise first. -/
  | fresh (start : Option Int)
  /-- Waiting for a snapshot. -/
  | syncing
  /-- Waiting for the stream from a revision on. -/
  | opening (start : Int)
  /-- Reading a stream. -/
  | reading (stream : Nat)
deriving DecidableEq, Repr

/-- How far the restoring of a registration is. -/
inductive Restore where
  /-- Waiting before anything is tried. -/
  | delaying
  /-- Registering, after some failures. -/
  | attempting (failures : Nat) (stage : Registering)
  /-- Waiting after a failure. -/
  | backingOff (failures : Nat)
deriving DecidableEq, Repr

/-- **The processes of a lease backend.** -/
inductive Process where
  /-- The first load of the cache. -/
  | starting
  /-- A registration. -/
  | registering (stage : Registering)
  /-- A deregistration, waiting for the end of a lease. -/
  | revoking (lease : Int)
  /-- A query for a service that is not cached. -/
  | querying (service : String)
  /-- The shutdown, waiting for the tasks. -/
  | closing
  /-- The task that watches the store. -/
  | watch (w : Watch)
  /-- A task that renews a lease. -/
  | renewal (lease : Int) (stream : Nat)
  /-- The task that restores a lost registration. -/
  | restore (r : Restore)
deriving DecidableEq, Repr

namespace Process

/-- Whether a process is a background task, and not a call. -/
def isTask : Process → Bool
  | watch _ | renewal .. | restore _ => true
  | _ => false

/-- **What a process waits for.** -/
def wait (c : Settings) : Process → Wait
  | starting => .reply none false
  | registering _ | revoking _ | querying _ => .reply (some c.requestTimeout) false
  | closing => .tasks
  | watch (.fresh _) => .turn
  | watch .syncing | watch (.opening _) => .reply none false
  | watch (.reading stream) | renewal _ stream => .item stream
  | restore .delaying => .pause c.lease.reregisterDelay
  | restore (.attempting ..) => .reply (some c.requestTimeout) false
  | restore (.backingOff failures) => .pause (c.lease.policy.delay failures)

end Process

/-! ## The state -/

/-- What only a lease backend keeps. -/
structure Ledger where
  /-- Whether a registration has been asked for. -/
  called : Bool := false
  /-- The lease of the registration. -/
  lease : Option Int := none
  /-- The task in charge of the renewals; every other one counts as cancelled. -/
  renewal : Option Nat := none
  /-- Whether a lost registration is being restored. -/
  restoring : Bool := false
  /-- Whether restoring goes on even if the own instance shows up again. -/
  forced : Bool := false
  /-- Whether there is a watch. -/
  watching : Bool := false
deriving DecidableEq, Repr, Inhabited

/-- **The state of a lease backend.** -/
abbrev State := Session Ledger Process Request

namespace State

/-- A new backend: connected, with nothing cached. -/
def initial : State := { own := {} }

/-- Whether a background task is left. -/
def hasTasks (s : State) : Bool := s.processes.any fun p => p.2.isTask

/-- Whether the renewal task with a number is cancelled. -/
def isCancelled (s : State) (id : Nat) : Bool := s.closed || s.own.renewal != some id

end State

end Muster.Leased
