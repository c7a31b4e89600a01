import OncePerKey.Lock.Token
import OncePerKey.Observe.Event
import OncePerKey.Program
import OncePerKey.Response.Basic
import OncePerKey.Settings.Basic

set_option autoImplicit false

namespace OncePerKey

structure Request where
  method : String
  route : String
  rawKey : Option String
  fingerprint : Option String
  deriving DecidableEq

inductive UncachedReason where
  | notEligible
  -- A look-up failed and was passed over, or the write failed.
  | storeUnavailable
  | serializationFailure
  deriving DecidableEq, Repr

def UncachedReason.text : UncachedReason → String
  | .notEligible => "NotEligible"
  | .storeUnavailable => "StoreUnavailable"
  | .serializationFailure => "SerializationFailure"

inductive Outcome where
  | rejectedInvalidKey (reason : InvalidKey)
  | replayed (cached : Cached)
  | executedCached (response : Captured) (expiresAt : Timestamp)
  | executedUncached (response : Captured) (reason : UncachedReason)
  | conflict (retryAfterSecs : Nat)
  | fingerprintMismatch
  deriving DecidableEq

namespace Outcome

def label : Outcome → String
  | .rejectedInvalidKey _ => "rejected_invalid_key"
  | .replayed _ => "replayed"
  | .executedCached _ _ => "executed_cached"
  | .executedUncached _ _ => "executed_uncached"
  | .conflict _ => "conflict"
  | .fingerprintMismatch => "fingerprint_mismatch"

def isReplay : Outcome → Bool
  | .replayed _ => true
  | _ => false

def executed : Outcome → Bool
  | .executedCached _ _ | .executedUncached _ _ => true
  | _ => false

end Outcome

inductive Ask where
  | now
  | sleep (ms : Nat)
  | lookup (key : CompositeKey)
  | write (key : CompositeKey) (response : Cached)
  | acquire (key : CompositeKey) (lifetime : Nat)
  | release (token : LockToken)
  | operate
  | report (note : Note)
  -- Give up: the request cannot go on, and never gets an answer.
  | abort

def Ask.Answer : Ask → Type
  | .now => Timestamp
  | .sleep _ => Unit
  | .lookup _ => Except Failure (Option Cached)
  | .write _ _ => Except Failure WriteOutcome
  | .acquire _ _ => Except Failure (Option LockToken)
  | .release _ => Except Failure Bool
  | .operate => Except Failure Captured
  | .report _ => Unit
  | .abort => Empty

abbrev Handling (α : Type) := Program Ask Ask.Answer α

def Handling.ask (q : Ask) : Handling q.Answer :=
  Program.perform q

end OncePerKey
