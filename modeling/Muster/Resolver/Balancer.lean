/-
  The balancer: a set of addresses kept up to date by changes.

  A client holds the addresses that it has been told of.  An update names the addresses that it should
  hold; the balancer sends one change for each difference, first all insertions, then all removals.

  (1) `Balancer.current` — what the client has been told of so far.
  (2) `Balancer.update` — one update.  It stops at the first address that cannot be dialled, and at the
      first change that cannot be sent because the client is gone.

  THE CRUX: `current` moves with each change that is sent, not with the update as a whole.  Whatever
  stops an update, `current` is what the client holds, and the next update starts from there.  In which
  order the differences come is nobody's business; `order` is a parameter.
-/
import Muster.Failure
import Muster.Resolver.Address
import Muster.Instance
import Muster.Logging.Line

namespace Muster

/-- An address as a resolver hands it out. -/
structure ResolvedAddress where
  /-- `address:port`. -/
  address : String
  /-- The name that the instance must prove to be its own. -/
  serverName : String
deriving DecidableEq, Repr

/-- The addresses of some instances, in their order. -/
def ResolvedAddress.ofInstances (l : List Instance) : List ResolvedAddress :=
  l.map fun i => ⟨i.endpoint, i.name⟩

/-- **A change that is sent to the client.** -/
inductive Change where
  | insert (address url : String)
  | remove (address : String)
deriving DecidableEq, Repr

/-- A set of addresses that is kept up to date. -/
structure Balancer where
  /-- The service whose addresses these are. -/
  service : String
  /-- What the client has been told of. -/
  current : List String := []
deriving DecidableEq, Repr

namespace Balancer

/-- What an update did. -/
structure Result where
  balancer : Balancer
  /-- The changes that were sent, in their order. -/
  sent : List Change := []
  /-- Why the update stopped. -/
  failure : Option Failure := none
  lines : List Logging.Line := []

/-- A line about an address. -/
def line (service message address : String) : Logging.Line :=
  ⟨.debug, message, [("service", service), ("addr", address)]⟩

/-- How an address becomes a URL, and whether the client takes the change after some others. -/
structure Channel where
  /-- The URL of an address, or what the transport says of one that cannot be dialled. -/
  url : String → Except String String
  /-- Whether the client is still there after a number of changes in this update. -/
  takes : Nat → Bool

/-- A channel to a client that takes some changes; `refusal` is what the transport says of an address that cannot
    be dialled. -/
def Channel.to (refusal : String → String) (takes : Nat → Bool) : Channel :=
  ⟨fun a => (Address.url? a).elim (.error (refusal a)) .ok, takes⟩

/-- Sends the insertions. -/
def insertAll (ch : Channel) : List String → Result → Result
  | [], r => r
  | a :: as, r =>
    match ch.url a with
    | .error reason => { r with failure := some (.invalidTarget a reason) }
    | .ok url =>
      if ch.takes r.sent.length then
        insertAll ch as
          { r with
            balancer := { r.balancer with current := r.balancer.current ++ [a] }
            sent := r.sent ++ [.insert a url]
            lines := r.lines ++ [line r.balancer.service "endpoint added to balancer" a] }
      else { r with failure := some (.resolverClosed r.balancer.service) }

/-- Sends the removals. -/
def removeAll (ch : Channel) : List String → Result → Result
  | [], r => r
  | a :: as, r =>
    if ch.takes r.sent.length then
      removeAll ch as
        { r with
          balancer := { r.balancer with current := r.balancer.current.filter (· != a) }
          sent := r.sent ++ [.remove a]
          lines := r.lines ++ [line r.balancer.service "endpoint removed from balancer" a] }
    else { r with failure := some (.resolverClosed r.balancer.service) }

/-- The addresses of one list that are not in another, each once. -/
def difference (a b : List String) : List String := (a.filter fun x => !b.contains x).eraseDups

/-- **One update**: the client is told of the differences.  `order` puts the differences into the order
    in which they are sent. -/
def update (ch : Channel) (order : List String → List String) (b : Balancer)
    (next : List String) : Result :=
  let r := insertAll ch (order (difference next b.current)) { balancer := b }
  match r.failure with
  | some _ => r
  | none => removeAll ch (order (difference b.current next)) r

end Balancer

end Muster
