/-
  Processes that wait.

  A backend is a state in which several processes stand: calls that have not returned, and background
  tasks.  A process runs, without interruption, from one point where it waits to the next.  What can
  happen between two such points is therefore a FUNCTION of the state and of the signal that ended the
  wait; this module names the waits and the signals.

  (1) `Wait` — what a process waits for.
  (2) `Signal` — what ends a wait.
  (3) `Entry` — what a process does that can be seen from outside: it sends a request, writes a log
      line, or returns.

  Only a process at a request without a limit can wait for ever on a store that does not answer.
-/
import Muster.Failure
import Muster.Logging.Line

namespace Muster

/-- **What a process waits for.** -/
inductive Wait where
  /-- Its first turn. -/
  | turn
  /-- The answer to its request, at most for the limit if there is one; `released` if closing the
      backend ends the wait. -/
  | reply (limit : Option Duration) (released : Bool)
  /-- Some time, or the closing of the backend. -/
  | pause (time : Duration)
  /-- The next item of a stream, or being cancelled. -/
  | item (stream : Nat)
  /-- The end of every background task. -/
  | tasks
deriving DecidableEq, Repr

/-- **What ends a wait.**  `ρ` is what a store answers, `ι` what its streams carry. -/
inductive Signal (ρ ι : Type) where
  /-- It is the process's turn. -/
  | turn
  /-- The store answered. -/
  | reply (r : Except Failure ρ)
  /-- The limit passed without an answer. -/
  | timeout
  /-- The time has passed. -/
  | elapsed
  /-- The stream gave an item, or `none` because it is over. -/
  | item (i : Option (Except Failure ι))
  /-- The process has been cancelled. -/
  | cancelled
  /-- No background task is left. -/
  | tasksDone

/-- **The result of a limited request**: running out of time is a failure of the named operation. -/
def Signal.result? {ρ ι : Type} (operation : String) (limit : Duration) :
    Signal ρ ι → Option (Except Failure ρ)
  | .reply r => some r
  | .timeout => some (.error (.timeout operation limit))
  | _ => none

/-- The result of a request without a limit. -/
def Signal.reply? {ρ ι : Type} : Signal ρ ι → Option (Except Failure ρ)
  | .reply r => some r
  | _ => none

/-- What a call returns. -/
inductive Outcome where
  /-- Success, or the failure. -/
  | status (r : Except Failure Unit)
  /-- The instances of a service. -/
  | instances (l : List Instance)

/-- **What can be seen of a process.**  `κ` is what it can ask of a store. -/
inductive Entry (κ : Type) where
  /-- A process sent a request. -/
  | request (process : Nat) (r : κ)
  /-- A line was logged. -/
  | line (l : Logging.Line)
  /-- A call returned. -/
  | returned (process : Nat) (o : Outcome)

end Muster
