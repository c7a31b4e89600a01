import OncePerKey.Observe.Metrics
import OncePerKey.Observe.Tally

set_option autoImplicit false

namespace OncePerKey

inductive Level where
  | trace
  | debug
  | info
  | warn
  | error
  deriving DecidableEq, Repr

inductive FieldValue where
  | shown (s : String)
  -- A text that is quoted where the log is for people.
  | quoted (s : String)
  | number (n : Nat)
  deriving DecidableEq, Repr

structure Event where
  level : Level
  target : String
  message : String
  fields : List (String × FieldValue) := []
  deriving DecidableEq, Repr

structure Span where
  method : String
  route : String
  key : String
  deriving DecidableEq, Repr

inductive Part where
  | handler
  | storage
  | lock
  | sweeper
  | middleware
  | handlers
  | logging
  deriving DecidableEq, Repr

def Part.target : Part → String
  | .handler => "idempotency_engine::idempotency::handler"
  | .storage => "idempotency_engine::idempotency::storage"
  | .lock => "idempotency_engine::idempotency::lock"
  | .sweeper => "idempotency_engine::idempotency::sweeper"
  | .middleware => "idempotency_engine::api::middleware"
  | .handlers => "idempotency_engine::api::handlers"
  | .logging => "idempotency_engine::observability::logging"

inductive Note where
  | event (e : Event)
  | enter (s : Span)
  | leave
  | tick (t : Tick)
  | measure (m : Measurement)
  deriving DecidableEq, Repr

def Note.log (level : Level) (part : Part) (message : String)
    (fields : List (String × FieldValue) := []) : Note :=
  .event { level, target := part.target, message, fields }

end OncePerKey
