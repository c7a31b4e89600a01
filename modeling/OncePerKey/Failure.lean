import OncePerKey.Key.Basic

set_option autoImplicit false

namespace OncePerKey

inductive StoreError where
  | database (detail : String)
  | redis (detail : String)
  | backend (detail : String)
  deriving DecidableEq, Repr

def StoreError.message : StoreError → String
  | .database detail => "database error: " ++ detail
  | .redis detail => "redis error: " ++ detail
  | .backend detail => detail

def noRow : String :=
  "no rows returned by a query that expected to return at least one row"

inductive Failure where
  | invalidKey (reason : InvalidKey)
  | storeUnavailable (cause : StoreError)
  | lockUnavailable (detail : String)
  | serialization (detail : String)
  | downstream (detail : String)
  | validation (detail : String)
  | config (detail : String)
  | internal (detail : String)
  deriving DecidableEq, Repr

def Failure.message : Failure → String
  | .invalidKey reason => "Invalid idempotency key: " ++ reason.message
  | .storeUnavailable cause => "Idempotency store unavailable: " ++ cause.message
  | .lockUnavailable detail => "Lock unavailable: " ++ detail
  | .serialization detail => "Serialization failure: " ++ detail
  | .downstream detail => "Downstream operation failed: " ++ detail
  | .validation detail => "Validation error: " ++ detail
  | .config detail => "Configuration error: " ++ detail
  | .internal detail => "Internal error: " ++ detail

def Failure.isStoreUnavailable : Failure → Bool
  | .storeUnavailable _ => true
  | _ => false

end OncePerKey
