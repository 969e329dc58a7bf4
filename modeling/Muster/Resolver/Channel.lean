/-
  Balanced channels: resolvers whose client is a balancer.

  Building one resolves at once, and hands the addresses to a new balancer; resolving again hands it the
  addresses of that moment.  Either stops with the first thing that fails, and the balancer stands
  where it stopped.
-/
import Muster.Resolver.Step

namespace Muster

namespace Balancer

/-- One update with resolved addresses. -/
def updateTo (ch : Channel) (order : List String → List String) (b : Balancer)
    (l : List ResolvedAddress) : Result :=
  b.update ch order (l.map (·.address))

/-- **Resolves the balancer's service again.** -/
def resolve (ch : Channel) (order : List String → List String) (b : Balancer)
    (instances : List Instance) : Balancer × Option Failure :=
  let r := Resolver.resolve b.service instances fun l => (b.updateTo ch order l).failure
  ((r.pushed.map fun l => (b.updateTo ch order l).balancer).getD b, r.failure)

/-- **A balanced channel for a service** at a backend with a scheme. -/
def build (ch : Channel) (order : List String → List String) (scheme service : String)
    (instances : List Instance) : Except Failure Balancer :=
  let b : Balancer := { service }
  let c : Resolver.Settings := { scheme, target := .of scheme service, interval := none }
  let built := c.inOneGo .build instances (fun l => (b.updateTo ch order l).failure) c.start
  match (built.result? .build).join with
  | some f => .error f
  | none => .ok (b.resolve ch order instances).1

end Balancer

end Muster
