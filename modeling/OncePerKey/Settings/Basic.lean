import OncePerKey.Time.Timestamp

set_option autoImplicit false

namespace OncePerKey

inductive ConflictPolicy where
  | returnConflict
  | waitAndPoll
  deriving DecidableEq, Repr, Inhabited

inductive FingerprintPolicy where
  | ignore
  | reject
  deriving DecidableEq, Repr, Inhabited

inductive StoreKind where
  | redis
  | postgres
  | memory
  deriving DecidableEq, Repr, Inhabited

structure Policy where
  headerName : String := "Idempotency-Key"
  maxKeyLength : UInt64 := 256
  expirationSecs : UInt64 := 86400
  cacheErrorResponses : Bool := false
  conflictPolicy : ConflictPolicy := .returnConflict
  pollAttempts : UInt32 := 5
  pollIntervalMs : UInt64 := 200
  lockTimeoutSecs : UInt64 := 30
  useLock : Bool := true
  failOpen : Bool := false
  requireKey : Bool := true
  fingerprintPolicy : FingerprintPolicy := .ignore
  backend : StoreKind := .redis
  keyPrefix : String := "idem"
  maxBodyBytes : UInt64 := 1048576
  deriving DecidableEq, Inhabited

structure SweepSettings where
  enabled : Bool := true
  intervalSecs : UInt64 := 60
  batchSize : Int64 := 1000
  maxBatchesPerSweep : UInt32 := 10
  deriving DecidableEq, Inhabited

structure DatabaseSettings where
  url : String
  poolSize : UInt32
  deriving DecidableEq

structure RedisSettings where
  url : String
  deriving DecidableEq

structure ServiceSettings where
  host : String
  port : UInt16
  logLevel : String
  logFormat : String := "pretty"
  deriving DecidableEq

structure Settings where
  database : DatabaseSettings
  redis : RedisSettings
  service : ServiceSettings
  policy : Policy := {}
  sweep : SweepSettings := {}
  deriving DecidableEq

namespace Policy

-- The lifetime of a stored response in nanoseconds, if it is not too long. The number of seconds is
-- taken as a signed word of 64 bits.
def lifetime? (p : Policy) : Option Int :=
  lapse? (p.expirationSecs.toInt64.toInt * nanosPerSecond)

def lockTimeoutMs (p : Policy) : Nat :=
  p.lockTimeoutSecs.toNat * 1000

-- Successes and redirections are stored, refusals of the request only when asked for, failures of the server
-- never.
def isCacheable (p : Policy) (status : UInt16) : Bool :=
  if 200 ≤ status && status ≤ 399 then true
  else if 400 ≤ status && status ≤ 499 then p.cacheErrorResponses
  else false

end Policy

def SweepSettings.intervalMs (s : SweepSettings) : Nat :=
  s.intervalSecs.toNat * 1000

inductive Violation where
  | range (field : String) (value : Int)
  | length (field : String) (value : String)
  deriving DecidableEq, Repr

def Violation.field : Violation → String
  | .range field _ | .length field _ => field

def Violation.ofRange (field : String) (value low : Int) (high : Option Int) : List Violation :=
  if low ≤ value && high.all (value ≤ ·) then [] else [.range field value]

def Violation.ofText (field value : String) : List Violation :=
  if value.isEmpty then [.length field value] else []

def Policy.violations (p : Policy) : List Violation :=
  Violation.ofText "header_name" p.headerName
    ++ Violation.ofRange "max_key_length" p.maxKeyLength.toNat 1 (some 4096)
    ++ Violation.ofRange "expiration_secs" p.expirationSecs.toNat 1 (some 31536000)
    ++ Violation.ofRange "poll_attempts" p.pollAttempts.toNat 1 (some 100)
    ++ Violation.ofRange "poll_interval_ms" p.pollIntervalMs.toNat 1 none
    ++ Violation.ofRange "lock_timeout_secs" p.lockTimeoutSecs.toNat 1 none
    ++ Violation.ofText "key_prefix" p.keyPrefix
    ++ Violation.ofRange "max_body_bytes" p.maxBodyBytes.toNat 1 none

def SweepSettings.violations (s : SweepSettings) : List Violation :=
  Violation.ofRange "interval_secs" s.intervalSecs.toNat 1 none
    ++ Violation.ofRange "batch_size" s.batchSize.toInt 1 (some 100000)
    ++ Violation.ofRange "max_batches_per_sweep" s.maxBatchesPerSweep.toNat 1 none

def Policy.Valid (p : Policy) : Prop :=
  p.violations = []

instance (p : Policy) : Decidable p.Valid :=
  inferInstanceAs (Decidable (_ = _))

def Settings.invalidSection? (s : Settings) : Option (String × List Violation) :=
  if !s.policy.violations.isEmpty then some ("idempotency settings", s.policy.violations)
  else if !s.sweep.violations.isEmpty then some ("sweeper settings", s.sweep.violations)
  else none

end OncePerKey
