import OncePerKey.Key.Composite
import OncePerKey.Time.Timestamp
import OncePerKey.Uuid

set_option autoImplicit false

namespace OncePerKey

structure LockToken where
  key : CompositeKey
  holder : Uuid
  acquiredAt : Timestamp
  lifetime : Nat
  deriving DecidableEq, Inhabited

namespace LockToken

-- The whole milliseconds of the lifetime, as a signed word of 64 bits.
def lifetimeMs (t : LockToken) : Int :=
  (Int64.ofNat (t.lifetime / 1000000)).toInt

def expiresAt? (t : LockToken) : Option Timestamp :=
  t.acquiredAt.plus? (t.lifetimeMs * 1000000)

-- The lock is free at its last moment already.
def isExpiredAt? (t : LockToken) (now : Timestamp) : Option Bool :=
  t.expiresAt?.map fun end_ => !now.before end_

end LockToken

end OncePerKey
