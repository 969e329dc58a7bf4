/-
  Service instances.

  An instance is one process of a service: the service's name, and the address and port at which it
  answers.  Two instances of a service are the SAME member exactly when their endpoints agree; the
  name plays no part in that.
-/
import Muster.Endpoint

namespace Muster

/-- One running process of a service. -/
structure Instance where
  /-- The name of the service. -/
  name : String
  /-- The host at which it answers. -/
  address : String
  /-- The port at which it answers. -/
  port : UInt16
deriving DecidableEq, Repr, Inhabited

namespace Instance

/-- **The identity of a member**: `address:port`. -/
def endpoint (i : Instance) : String := Endpoint.render i.address i.port

/-- The instance of the named service at an endpoint, if the text is one. -/
def ofEndpoint (name endpoint : String) : Option Instance :=
  (Endpoint.split endpoint).map fun p => ⟨name, p.1, p.2⟩

/-- Whether the instance answers at this address and port. -/
def isAt (i : Instance) (address : String) (port : UInt16) : Bool :=
  i.address == address && i.port == port

/-- How an instance is shown to a reader: name, then endpoint. -/
def display (i : Instance) : String := i.name ++ " " ++ i.endpoint

/-- An instance is rebuilt from its name and endpoint, provided that its address is not empty. -/
theorem ofEndpoint_endpoint (i : Instance) (h : i.address ≠ "") :
    ofEndpoint i.name i.endpoint = some i := by
  simp [ofEndpoint, endpoint, Endpoint.split_render, h]

/-- Instances in the order in which lists of them are shown: address, then port, then name. -/
def shownBefore (a b : Instance) : Bool :=
  if a.address = b.address then
    if a.port = b.port then a.name ≤ b.name else a.port ≤ b.port
  else a.address ≤ b.address

/-- A list of instances in the order in which it is shown. -/
def sorted (l : List Instance) : List Instance := l.mergeSort shownBefore

end Instance

end Muster
