/-
  Failures, their codes and their texts.

  (1) `Code` — twelve codes in six groups of a thousand numbers each; a code has an identifier, a
      number, a category, and is retryable or not.
  (2) `Failure` — what went wrong, one constructor per cause.  The failures of the lease store's
      client, of the HTTP client and of the JSON reader carry the text of that part.
  (3) `Failure.message` — the wording; `Failure.code` — the classification.

  A failed registration WRAPS its cause: its code is always that of a failed registration, but it is
  retryable exactly when the innermost cause is.
-/
import Muster.Duration

namespace Muster

/-! ## Codes -/

/-- The groups of codes. -/
inductive Category where
  | connection | registration | watch | resolve | system | serialization
deriving DecidableEq, Repr

/-- The identifier of a category. -/
def Category.text : Category → String
  | .connection => "CONNECTION"
  | .registration => "REGISTRATION"
  | .watch => "WATCH"
  | .resolve => "RESOLVE"
  | .system => "SYSTEM"
  | .serialization => "SERIALIZATION"

/-- The codes. -/
inductive Code where
  | connectionFailed | connectionTimeout
  | registrationFailed | leaseExpired
  | watchFailed | watchCanceled
  | noAvailableInstance | invalidTarget | resolverClosed
  | serviceUnavailable | configurationError
  | deserializationError
deriving DecidableEq, Repr

namespace Code

/-- The identifier of a code. -/
def text : Code → String
  | connectionFailed => "CONNECTION_FAILED"
  | connectionTimeout => "CONNECTION_TIMEOUT"
  | registrationFailed => "REGISTRATION_FAILED"
  | leaseExpired => "LEASE_EXPIRED"
  | watchFailed => "WATCH_FAILED"
  | watchCanceled => "WATCH_CANCELED"
  | noAvailableInstance => "NO_AVAILABLE_INSTANCE"
  | invalidTarget => "INVALID_TARGET"
  | resolverClosed => "RESOLVER_CLOSED"
  | serviceUnavailable => "SERVICE_UNAVAILABLE"
  | configurationError => "CONFIGURATION_ERROR"
  | deserializationError => "DESERIALIZATION_ERROR"

/-- The number of a code. -/
def number : Code → Nat
  | connectionFailed => 1000
  | connectionTimeout => 1001
  | registrationFailed => 2000
  | leaseExpired => 2001
  | watchFailed => 3000
  | watchCanceled => 3001
  | noAvailableInstance => 4000
  | invalidTarget => 4001
  | resolverClosed => 4002
  | serviceUnavailable => 6001
  | configurationError => 6003
  | deserializationError => 8001

/-- **The category of a code** is that of its thousand; thousands without one are the system's. -/
def category (c : Code) : Category :=
  match c.number / 1000 with
  | 1 => .connection
  | 2 => .registration
  | 3 => .watch
  | 4 => .resolve
  | 8 => .serialization
  | _ => .system

/-- Whether the same request may succeed later. -/
def isRetryable : Code → Bool
  | connectionTimeout | leaseExpired | watchFailed | serviceUnavailable => true
  | _ => false

/-- Every code. -/
def all : List Code :=
  [connectionFailed, connectionTimeout, registrationFailed, leaseExpired, watchFailed,
    watchCanceled, noAvailableInstance, invalidTarget, resolverClosed, serviceUnavailable,
    configurationError, deserializationError]

/-- The code with an identifier. -/
def ofText? (s : String) : Option Code := all.find? fun c => c.text == s

end Code

/-- Every category. -/
def Category.all : List Category :=
  [.connection, .registration, .watch, .resolve, .system, .serialization]

/-- The category with an identifier. -/
def Category.ofText? (s : String) : Option Category := Category.all.find? fun c => c.text == s

/-! ## Status codes of remote procedure calls -/

/-- The status codes to which failures are mapped. -/
inductive RpcCode where
  | invalidArgument | deadlineExceeded | aborted | internal | unavailable
deriving DecidableEq, Repr

namespace RpcCode

/-- The name of a status code. -/
def text : RpcCode → String
  | invalidArgument => "InvalidArgument"
  | deadlineExceeded => "DeadlineExceeded"
  | aborted => "Aborted"
  | internal => "Internal"
  | unavailable => "Unavailable"

/-- The number of a status code on the wire. -/
def number : RpcCode → Nat
  | invalidArgument => 3
  | deadlineExceeded => 4
  | aborted => 10
  | internal => 13
  | unavailable => 14

end RpcCode

/-- **The status code with which a failure is reported to a remote caller.** -/
def Code.rpc : Code → RpcCode
  | .connectionFailed | .serviceUnavailable | .noAvailableInstance | .resolverClosed => .unavailable
  | .connectionTimeout => .deadlineExceeded
  | .invalidTarget | .configurationError => .invalidArgument
  | .leaseExpired | .watchCanceled => .aborted
  | .registrationFailed | .watchFailed | .deserializationError => .internal

/-! ## Failures -/

/-- **What went wrong.** -/
inductive Failure where
  /-- A registry could not be reached. -/
  | connect (backend url reason : String)
  /-- A stage of a registration failed. -/
  | registration (stage : String) (source : Failure)
  /-- A watch could not be set up, or broke. -/
  | watch (target reason : String)
  /-- The registry ended a watch. -/
  | watchCanceled (target reason : String)
  /-- A lease is gone. -/
  | leaseExpired (id : Int)
  /-- An event or an answer could not be decoded. -/
  | decode (what reason : String)
  /-- A service has no instance. -/
  | noAvailableInstance (service : String)
  /-- A target is not one that can be resolved. -/
  | invalidTarget (target reason : String)
  /-- The receiver of resolved addresses is gone. -/
  | resolverClosed (service : String)
  /-- The configuration is wrong. -/
  | config (reason : String)
  /-- An operation took longer than allowed. -/
  | timeout (operation : String) (after : Duration)
  /-- A store refused a request. -/
  | store (reason : String)
  /-- The client of the lease store failed. -/
  | leaseClient (reason : String)
  /-- The HTTP client failed. -/
  | http (reason : String)
  /-- A JSON text could not be read. -/
  | json (reason : String)
deriving DecidableEq, Repr, Inhabited

namespace Failure

/-- **The code of a failure.** -/
def code : Failure → Code
  | connect .. => .connectionFailed
  | registration .. => .registrationFailed
  | watch .. => .watchFailed
  | watchCanceled .. => .watchCanceled
  | leaseExpired _ => .leaseExpired
  | decode .. | json _ => .deserializationError
  | noAvailableInstance _ => .noAvailableInstance
  | invalidTarget .. => .invalidTarget
  | resolverClosed _ => .resolverClosed
  | config _ => .configurationError
  | timeout .. => .connectionTimeout
  | store _ | leaseClient _ | http _ => .serviceUnavailable

/-- Whether trying again may help: for a failed registration its cause decides. -/
def isRetryable : Failure → Bool
  | registration _ source => source.isRetryable
  | f => f.code.isRetryable

/-- **The text of a failure.** -/
def message : Failure → String
  | connect backend url reason => "failed to connect to " ++ backend ++ " at " ++ url ++ ": " ++ reason
  | registration stage source => "registration " ++ stage ++ " failed: " ++ source.message
  | watch target reason => "watch on " ++ target ++ " failed: " ++ reason
  | watchCanceled target reason => "watch on " ++ target ++ " canceled: " ++ reason
  | leaseExpired id => "lease " ++ Decimal.ofInt id ++ " expired"
  | decode what reason => "failed to decode " ++ what ++ ": " ++ reason
  | noAvailableInstance service => "no available instance for service " ++ service
  | invalidTarget target reason => "invalid resolver target " ++ target ++ ": " ++ reason
  | resolverClosed service => "resolver for " ++ service ++ " is closed"
  | config reason => "configuration error: " ++ reason
  | timeout operation after => operation ++ " timed out after " ++ after.text
  | store reason => "store request failed: " ++ reason
  | leaseClient reason | http reason | json reason => reason

/-- Whether the wording belongs to a client or reader that is not part of this library. -/
def isForeign : Failure → Bool
  | leaseClient _ | http _ | json _ => true
  | registration _ source => source.isForeign
  | _ => false

/-- The failure that caused this one. -/
def source? : Failure → Option Failure
  | registration _ source => some source
  | _ => none

end Failure

end Muster
