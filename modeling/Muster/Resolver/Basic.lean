/-
  Resolving: the instances of a service become addresses for a client.

  (1) `Resolver.state` — what a resolving hands to the client.  No instances are a failure, and nothing is
      handed out; so a client keeps the addresses that it has.
  (2) `Resolver.resolve` — one resolving, where discovery and the client answer at once.
  (3) `foreignScheme` — a target is only resolved by the discovery that its scheme names.
-/
import Muster.Resolver.Balancer
import Muster.Resolver.Target

namespace Muster.Resolver

/-- **What a resolving hands to the client**, or why there is nothing to hand over. -/
def state (service : String) (instances : List Instance) : Except Failure (List ResolvedAddress) :=
  if instances.isEmpty then .error (.noAvailableInstance service)
  else .ok (ResolvedAddress.ofInstances instances)

/-- The line about a service without instances. -/
def emptyLine (service : String) : Logging.Line := ⟨.warn, "no available instance", [("service", service)]⟩

/-- The line about addresses that are handed out. -/
def resolvedLine (service : String) (addresses : List ResolvedAddress) : Logging.Line :=
  ⟨.debug, "resolved service addresses",
    [("service", service), ("addresses", Decimal.ofInt addresses.length)]⟩

/-- What a resolving did. -/
structure Result where
  /-- The addresses that were handed to the client, if any were. -/
  pushed : Option (List ResolvedAddress)
  failure : Option Failure
  lines : List Logging.Line

/-- **One resolving**, given what discovery knows and what the client says to the addresses. -/
def resolve (service : String) (instances : List Instance)
    (client : List ResolvedAddress → Option Failure) : Result :=
  match state service instances with
  | .error f => ⟨none, some f, [emptyLine service]⟩
  | .ok addresses => ⟨some addresses, client addresses, [resolvedLine service addresses]⟩

/-- Why a target cannot be built for a scheme. -/
def foreignScheme (scheme : String) (t : Target) : Failure :=
  .invalidTarget t.render ("scheme " ++ t.scheme ++ " is not handled by " ++ scheme)

end Muster.Resolver
