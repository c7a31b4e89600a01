import OncePerKey.Key.Mask
import OncePerKey.Request.Basic

set_option autoImplicit false

namespace OncePerKey.Request

structure Context where
  policy : Policy
  backend : String
  hasLocks : Bool

def Context.usesLock (c : Context) : Bool :=
  c.hasLocks && c.policy.useLock

def report (note : Note) : Handling Unit :=
  Handling.ask (.report note)

def tick (t : Tick) : Handling Unit :=
  report (.tick t)

def log (level : Level) (message : String) (fields : List (String × FieldValue) := []) :
    Handling Unit :=
  report (.log level .handler message fields)

def replay (c : Context) (fingerprint : Option String) (cached : Cached) : Handling Outcome :=
  match c.policy.fingerprintPolicy, cached.fingerprint, fingerprint with
  | .reject, some stored, some incoming =>
      if stored = incoming then return .replayed cached
      else do
        log .warn "Idempotency key reused with a different request body"
        return .fingerprintMismatch
  | _, _, _ => return .replayed cached

def Context.backendField (c : Context) : List (String × FieldValue) :=
  [("backend", .quoted c.backend)]

-- After a failed look-up: the failure, or nothing when the request may go on without a store.
def lookupFailed (c : Context) (failure : Failure) : Handling (Option Failure) := do
  tick .storeFailure
  if c.policy.failOpen then
    log .warn ("Idempotency lookup failed, proceeding uncached: " ++ failure.message) c.backendField
    return none
  else
    log .error ("Idempotency lookup failed, rejecting request: " ++ failure.message) c.backendField
    return some failure

inductive LockAttempt where
  | acquired (token : LockToken)
  | contended
  | skipped

def acquire (c : Context) (key : CompositeKey) : Handling LockAttempt :=
  if c.usesLock then do
    match ← Handling.ask (.acquire key (c.policy.lockTimeoutSecs.toNat * nanosPerSecond)) with
    | .ok (some token) =>
        report (.measure (.lockAcquisition true))
        return .acquired token
    | .ok none =>
        report (.measure (.lockAcquisition false))
        return .contended
    | .error failure =>
        log .warn ("Proceeding without lock: " ++ (Failure.lockUnavailable failure.message).message)
        return .skipped
  else return .skipped

-- Gives a lock back. How that ends is reported, and changes nothing for the request.
def releaseToken (token : LockToken) : Handling Unit := do
  let fields := [("key", FieldValue.shown token.key.shown)]
  match ← Handling.ask (.release token) with
  | .ok true => report (.log .debug .lock "Released idempotency lock" fields)
  | .ok false =>
      report (.log .debug .lock "Idempotency lock already expired or taken over" fields)
  | .error failure =>
      report (.log .warn .lock ("Failed to release idempotency lock: " ++ failure.message) fields)

def release (guard : Option LockToken) : Handling Unit :=
  match guard with
  | some token => releaseToken token
  | none => return ()

def conflict (c : Context) : Handling (Except Failure Outcome) := do
  tick .conflict
  return .ok (.conflict c.policy.lockTimeoutSecs.toNat)

def poll (c : Context) (key : CompositeKey) (fingerprint : Option String) :
    (left attempt : Nat) → Handling (Except Failure Outcome)
  | 0, _ => conflict c
  | left + 1, attempt => do
      let () ← Handling.ask (.sleep c.policy.pollIntervalMs.toNat)
      match ← Handling.ask (.lookup key) with
      | .ok (some cached) =>
          log .debug "In-flight request finished while polling" [("attempt", .number attempt)]
          return .ok (← replay c fingerprint cached)
      | .ok none => poll c key fingerprint left (attempt + 1)
      | .error failure =>
          match ← lookupFailed c failure with
          | some failure => return .error failure
          | none => conflict c

def resolveContention (c : Context) (key : CompositeKey) (fingerprint : Option String) :
    Handling (Except Failure Outcome) :=
  match c.policy.conflictPolicy with
  | .waitAndPoll => poll c key fingerprint c.policy.pollAttempts.toNat 1
  | .returnConflict => conflict c

def store (c : Context) (key : CompositeKey) (captured : Captured) (fingerprint : Option String) :
    Handling Outcome :=
  if !c.policy.isCacheable captured.status then
    return .executedUncached captured .notEligible
  else
    match c.policy.lifetime? with
    | none => do nomatch ← Handling.ask .abort
    | some lifetime => do
        match Cached.ofCaptured (← Handling.ask .now) captured lifetime fingerprint with
        | .error .neverExpires => do nomatch ← Handling.ask .abort
        | .error fault =>
            log .warn ("Response not cached: " ++ fault.toFailure.message)
            return .executedUncached captured .serializationFailure
        | .ok cached =>
            match ← Handling.ask (.write key cached) with
            | .ok .written =>
                tick .cached
                return .executedCached captured cached.expiresAt
            | .ok (.alreadyExists existing) =>
                tick .lostRace
                log .debug "Lost the write race, replaying the stored response"
                replay c fingerprint existing
            | .error failure =>
                tick .storeFailure
                log .error ("Failed to cache response: " ++ failure.message) c.backendField
                return .executedUncached captured .storeUnavailable

-- Runs the operation and gives the lock back, whatever came of it.
def operate (c : Context) (key : CompositeKey) (fingerprint : Option String)
    (guard : Option LockToken) (storeReachable : Bool) : Handling (Except Failure Outcome) := do
  tick .execution
  match ← Handling.ask .operate with
  | .error failure =>
      release guard
      return .error failure
  | .ok captured =>
      let outcome ←
        if storeReachable then store c key captured fingerprint
        else pure (.executedUncached captured .storeUnavailable)
      release guard
      return .ok outcome

-- The last holder may have written between the first look-up and the lock, so the store is asked again.
def underLock (c : Context) (key : CompositeKey) (fingerprint : Option String)
    (token : LockToken) : Handling (Except Failure Outcome) := do
  match ← Handling.ask (.lookup key) with
  | .ok (some cached) =>
      release (some token)
      return .ok (← replay c fingerprint cached)
  | .ok none => operate c key fingerprint (some token) true
  | .error failure =>
      match ← lookupFailed c failure with
      | some failure =>
          release (some token)
          return .error failure
      | none => operate c key fingerprint (some token) false

def course (c : Context) (key : CompositeKey) (fingerprint : Option String) :
    Handling (Except Failure Outcome) := do
  match ← Handling.ask (.lookup key) with
  | .ok (some cached) => return .ok (← replay c fingerprint cached)
  | .ok none =>
      match ← acquire c key with
      | .acquired token => underLock c key fingerprint token
      | .skipped => operate c key fingerprint none true
      | .contended => resolveContention c key fingerprint
  | .error failure =>
      match ← lookupFailed c failure with
      | some failure => return .error failure
      | none => operate c key fingerprint none false

def finish (outcome : Outcome) : Handling Outcome := do
  if outcome.isReplay then tick .replay
  report (.measure (.outcome outcome.label))
  return outcome

def parseKey (c : Context) (r : Request) : Except InvalidKey Key :=
  match r.rawKey with
  | none => .error .missing
  | some raw => Key.parse raw c.policy.maxKeyLength.toNat

def execute (c : Context) (r : Request) : Handling (Except Failure Outcome) := do
  tick .request
  match parseKey c r with
  | .error reason =>
      tick .rejectedKey
      log .debug ("Rejected idempotency key: " ++ reason.message)
        [("method", .shown r.method), ("route", .shown r.route)]
      return .ok (← finish (.rejectedInvalidKey reason))
  | .ok key =>
      -- The span shows the key masked; its end is noted before the outcome is counted.
      let composite := CompositeKey.build r.method r.route key
      report (.enter ⟨composite.method, composite.route, maskKey key.text⟩)
      let result ← course c composite r.fingerprint
      report .leave
      match result with
      | .ok outcome => return .ok (← finish outcome)
      | .error failure => return .error failure

end OncePerKey.Request
