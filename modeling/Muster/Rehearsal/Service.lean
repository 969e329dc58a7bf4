/-
  A backend out of a configuration, at a network.

  The configuration decides which backend it is.  A lease backend is connected and loaded before it is
  handed out, so its store must answer; a probing backend is handed out at once, and its store is asked
  only when something is asked of the backend.
-/
import Muster.Leased.Remote
import Muster.Leased.Step
import Muster.Probed.Remote
import Muster.Probed.Step
import Muster.Rehearsal.Clock

namespace Muster.Rehearsal

/-- The networks behind which the stores are. -/
structure Networks where
  http : Http.Network
  rpc : Leased.Remote.Network
  /-- What the lease store's client says when there is no connection. -/
  words : Leased.Remote.Refusal → String

/-- The networks in which nothing can be reached; `words` is what is said when there is no connection. -/
def Networks.down (words : Leased.Remote.Refusal → String) : Networks := ⟨.down, .down, words⟩

/-- A network as a lease store; its streams stay silent. -/
def leaseStoreAt (net : Leased.Remote.Network) :
    Store Unit Leased.Request Leased.Reply Leased.Item where
  receive _ _ := ({}, ())
  act _ r _ := some (Leased.Remote.perform net r, ())
  item _ _ := none

/-- A network as a health store, at a URL. -/
def healthStoreAt (net : Http.Network) (url : String) :
    Store Unit Probed.Request Probed.Reply Probed.Item where
  receive _ _ := ({}, ())
  act _ q _ := (Probed.Remote.perform net (Probed.Remote.base url) q).map fun r => (r, ())
  item _ _ := none

/-- **A backend at a network.** -/
inductive Service where
  | leased (c : Leased.Settings) (w : World Leased.Ledger Leased.Process Leased.Request Unit)
  | probed (c : Probed.Settings) (w : World Probed.Watched Probed.Process Probed.Request Unit)

/-- What can be asked of either backend. -/
inductive ServiceCall where
  | register
  | deregister
  | instances (service : String)
  | shutdown
deriving DecidableEq, Repr

namespace Service

variable (net : Networks)

/-- A lease backend as a machine. -/
def leasedMachine (c : Leased.Settings) :
    Machine Leased.Ledger Leased.Process Leased.Request Leased.Reply Leased.Item :=
  ⟨Leased.Process.wait c, c.resume⟩

/-- A probing backend as a machine. -/
def probedMachine (c : Probed.Settings) :
    Machine Probed.Watched Probed.Process Probed.Request Probed.Reply Probed.Item :=
  ⟨Probed.Process.wait c, c.resume⟩

/-- **The backend that a configuration describes**, for a process that announces `self`. -/
def create (self : Registrant) (d : Config.Discovery) : Except Failure Service :=
  match d.backend with
  | .consul =>
    .ok (.probed (.ofConfig self d) { session := Probed.State.initial, store := () })
  | .etcd =>
    match Leased.Remote.connect net.words d.urlOrDefault with
    | .error f => .error f
    | .ok _ =>
      let c := Leased.Settings.ofConfig self d
      let r := World.call (leasedMachine c) (leaseStoreAt net.rpc)
        { session := Leased.State.initial, store := () } fun s => c.call s .start
      match r.2 with
      | some (.status (.error f)) => .error f
      | _ => .ok (.leased c r.1)

/-- The kind of backend. -/
def backend : Service → Config.Backend
  | leased .. => .etcd
  | probed .. => .consul

/-- Where the registry is. -/
def url : Service → String
  | leased c _ => c.url
  | probed c _ => c.url

/-- The scheme and the URL. -/
def schemeUrl (s : Service) : String := s.backend.schemeUrl s.url

/-- The state that the backend shows. -/
def state : Service → Lifecycle
  | leased _ w => w.session.flags.state
  | probed _ w => w.session.flags.state

/-- **Makes a call**; `none` when it does not return. -/
def call (s : Service) (k : ServiceCall) : Service × Option Outcome :=
  match s with
  | leased c w =>
    let k : Leased.Call := match k with
      | .register => .register
      | .deregister => .deregister
      | .instances n => .instances n
      | .shutdown => .shutdown
    let r := World.call (leasedMachine c) (leaseStoreAt net.rpc) w fun s => c.call s k
    (leased c r.1, r.2)
  | probed c w =>
    let k : Probed.Call := match k with
      | .register => .register
      | .deregister => .deregister
      | .instances n => .instances n
      | .shutdown => .shutdown
    let r := World.call (probedMachine c) (healthStoreAt net.http c.url) w fun s => c.call s k
    (probed c r.1, r.2)

end Service

end Muster.Rehearsal
