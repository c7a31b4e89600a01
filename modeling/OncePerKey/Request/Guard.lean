import OncePerKey.Request.Execute

set_option autoImplicit false

namespace OncePerKey.Request

-- While a request waits for an answer. A release takes the token out of the guard before it waits.
def guardDuring (guard : Option LockToken) : Ask → Option LockToken
  | .release _ => none
  | _ => guard

def guardAfter (guard : Option LockToken) : (q : Ask) → q.Answer → Option LockToken
  | .acquire _ _, .ok (some token) => some token
  | q, _ => guardDuring guard q

-- The lock is given back beside everything else, where something runs that takes up new work.
def dropped (canSpawn : Bool) : Option LockToken → Handling Unit
  | none => return ()
  | some token =>
      if canSpawn then releaseToken token
      else report (.log .warn .lock "No runtime to release lock; it will expire by TTL"
        [("key", .shown token.key.shown)])

end OncePerKey.Request
