/-
  The status of a probed instance.

  Each instance has any number of checks, each with an identifier and a status.  Checks with one of two
  special identifiers say that somebody put the node, or the service, into maintenance.  The status of
  the instance is the WORST of its checks, in the order passing, warning, critical, maintenance; an
  instance without checks passes.
-/
import Muster.Text.Cut

namespace Muster.Probed

/-- The statuses, the best first. -/
inductive Status where
  | passing | warning | critical | maintenance
deriving DecidableEq, Repr, Inhabited

namespace Status

/-- The name of a status. -/
def text : Status → String
  | passing => "passing"
  | warning => "warning"
  | critical => "critical"
  | maintenance => "maintenance"

/-- Whether the instance may be used. -/
def isPassing (s : Status) : Bool := s == passing

/-- **The status that a text names**; a text that names none is critical. -/
def parse (s : String) : Status :=
  if s = "passing" then passing
  else if s = "warning" then warning
  else if s = "maintenance" then maintenance
  else critical

/-- **The worse of two statuses**: maintenance if either is, else critical if either is, else warning if either
    is. -/
def worse : Status → Status → Status
  | _, maintenance | maintenance, _ => maintenance
  | _, critical | critical, _ => critical
  | _, warning | warning, _ => warning
  | current, _ => current

end Status

/-- A check of an instance. -/
structure Check where
  /-- The identifier of the check. -/
  id : String
  /-- Its status, as the registry spells it. -/
  status : String
deriving DecidableEq, Repr

/-- Whether the check says that the node or the service is in maintenance. -/
def Check.isMaintenance (c : Check) : Bool :=
  c.id == "_node_maintenance" || Text.startsWith "_service_maintenance:" c.id

/-- **The status of an instance with these checks.**  A maintenance check ends the reading; until then
    the worst status so far is kept. -/
def Status.aggregate (checks : List Check) : Status := go .passing checks
where
  /-- The reading goes on, with the worst status so far. -/
  go (worst : Status) : List Check → Status
    | [] => worst
    | c :: cs => if c.isMaintenance then .maintenance else go (worst.worse (.parse c.status)) cs

end Muster.Probed
