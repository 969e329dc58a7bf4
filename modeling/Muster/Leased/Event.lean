/-
  What a lease store reports: snapshots and events.

  A store holds pairs of a key and bytes.  It reports them all at once, as a snapshot with a revision,
  or one by one, as events.  Of each, only the FINDING matters to the cache:

  (1) a key that is none of this namespace is foreign;
  (2) a put announces the instance in its value — under the service in the KEY — or nothing readable;
  (3) a delete carries no value: it withdraws the instance that is rebuilt from the key alone.
-/
import Muster.Announcement
import Muster.Leased.Layout
import Muster.Registry

namespace Muster.Leased

/-- The contents of a store under a lead, at a revision. -/
structure Snapshot where
  revision : Int
  pairs : List (String × ByteArray)

/-- A change of one key. -/
inductive Event where
  | put (key : String) (value : ByteArray)
  | delete (key : String)

/-- The key that changed. -/
def Event.key : Event → String
  | put k _ | delete k => k

/-- The bytes of the change; a removal carries none. -/
def Event.value : Event → ByteArray
  | put _ v => v
  | delete _ => .empty

/-- **What a key, with or without a value, says about the cache.** -/
inductive Finding where
  /-- It is no key of this namespace. -/
  | foreign
  /-- The value announces nothing. -/
  | garbled (service : String)
  /-- An instance is announced. -/
  | announced (service : String) (i : Instance)
  /-- The key ends in something that is no endpoint. -/
  | misplaced (service : String)
  /-- An instance is withdrawn. -/
  | withdrawn (service : String) (i : Instance)
deriving DecidableEq

/-- What a key and its value say. -/
def findPut (scope key : String) (value : ByteArray) : Finding :=
  match Layout.parse scope key with
  | none => .foreign
  | some (service, _) =>
    match Instance.decode? value with
    | none => .garbled service
    | some i => .announced service i

/-- What the removal of a key says. -/
def findDelete (scope key : String) : Finding :=
  match Layout.parse scope key with
  | none => .foreign
  | some (service, endpoint) =>
    match Instance.ofEndpoint service endpoint with
    | none => .misplaced service
    | some i => .withdrawn service i

/-- **What an event says.** -/
def Event.finding (scope : String) : Event → Finding
  | put k v => findPut scope k v
  | delete k => findDelete scope k

/-- **The cache after an event.**  A service is known as soon as an event names it. -/
def Finding.apply (r : Registry) : Finding → Registry
  | foreign => r
  | garbled service | misplaced service => r.create service
  | announced service i => r.insert service i
  | withdrawn service i => r.erase service i.endpoint

/-- The instances that a snapshot announces, each with its service. -/
def Snapshot.announced (scope : String) (snap : Snapshot) : List (String × Instance) :=
  snap.pairs.filterMap fun p =>
    match findPut scope p.1 p.2 with
    | .announced service i => some (service, i)
    | _ => none

/-- Whether a list of announcements holds an endpoint under a service. -/
def holds (announced : List (String × Instance)) (service endpoint : String) : Bool :=
  announced.any fun p => p.1 == service && p.2.endpoint == endpoint

end Muster.Leased
