import OncePerKey.Settings.Basic
import OncePerKey.Settings.Tree

set_option autoImplicit false

namespace OncePerKey.Settings

-- The fault of a field, and whether it is only that the field is not there.
structure FieldFault where
  isMissing : Bool
  fault : Fault

abbrev Field (α : Type) := Except FieldFault α

def Tree.foundPlainly : Tree → String
  | .leaf _ (.int n) => "integer `" ++ toString n ++ "`"
  | .leaf _ (.float x) => "floating point `" ++ Decimal.pointed.text x ++ "`"
  | t => t.found

structure Section where
  type : String
  size : Nat
  tree : Tree

def Section.of (r : Rules) (type : String) (size : Nat) (t : Tree) : Except Fault Section :=
  let fits : Bool :=
    match t with
    | .table _ => true
    | .leaf _ (.arr items) => r.longLists || items.length ≤ size
    | .leaf _ _ => false
  if fits then .ok ⟨type, size, t⟩ else .error (.notSection t.foundPlainly type)

-- Reads one field: by name from a table, by place from a list.
def Section.field {α : Type} (s : Section) (place : Nat) (name : String)
    (read : Tree → Except Fault α) (otherwise : Option α) : Field α :=
  let absent (fault : Fault) : Field α :=
    match otherwise with
    | some a => .ok a
    | none => .error ⟨true, fault⟩
  match s.tree with
  | .table members =>
      match members.lookup name with
      | some v => (read v).mapError fun f => ⟨false, f.under (.member name)⟩
      | none => absent (.missing name)
  | .leaf origin (.arr items) =>
      match items[place]? with
      | some v => (read (Tree.ofJson origin v)).mapError fun f => ⟨false, f.under (.item place)⟩
      | none => absent (.tooShort items.length s.type s.size)
  | .leaf _ _ => absent (.missing name)

def Field.fault? {α : Type} : Field α → Option FieldFault
  | .ok _ => none
  | .error f => some f

-- The first fault of a field that is there, else of one that is not.
def firstFault (faults : List (Option FieldFault)) : Except Fault Unit :=
  let found := faults.filterMap id
  match found.find? (!·.isMissing), found.head? with
  | some f, _ | none, some f => .error f.fault
  | none, none => .ok ()

def conflictPolicyAt : Nat → ConflictPolicy
  | 0 => .returnConflict
  | _ => .waitAndPoll

def fingerprintPolicyAt : Nat → FingerprintPolicy
  | 0 => .ignore
  | _ => .reject

def storeKindAt : Nat → StoreKind
  | 0 => .redis
  | 1 => .postgres
  | _ => .memory

def value {α : Type} (f : Field α) : Except Fault α :=
  f.mapError (·.fault)

def readPolicy (r : Rules) (t : Tree) : Except Fault Policy := do
  let s ← Section.of r "IdempotencySettings" 15 t
  let base : Policy := {}
  let natural (place : Nat) (name : String) (bits default : Nat) : Field Nat :=
    s.field place name (r.natural bits) (some default)
  let flag (place : Nat) (name : String) (default : Bool) : Field Bool :=
    s.field place name r.flag (some default)
  let choice {α : Type} (place : Nat) (name type : String) (names : List String) (pick : Nat → α)
      (default : α) : Field α :=
    s.field place name (fun v => (r.choice type names v).map pick) (some default)
  let headerName := s.field 0 "header_name" r.text (some base.headerName)
  let maxKeyLength := natural 1 "max_key_length" 64 base.maxKeyLength.toNat
  let expirationSecs := natural 2 "expiration_secs" 64 base.expirationSecs.toNat
  let cacheErrorResponses := flag 3 "cache_error_responses" base.cacheErrorResponses
  let conflictPolicy := choice 4 "conflict_policy" "ConflictPolicy"
    ["return_conflict", "wait_and_poll"] conflictPolicyAt base.conflictPolicy
  let pollAttempts := natural 5 "poll_attempts" 32 base.pollAttempts.toNat
  let pollIntervalMs := natural 6 "poll_interval_ms" 64 base.pollIntervalMs.toNat
  let lockTimeoutSecs := natural 7 "lock_timeout_secs" 64 base.lockTimeoutSecs.toNat
  let useLock := flag 8 "use_lock" base.useLock
  let failOpen := flag 9 "fail_open" base.failOpen
  let requireKey := flag 10 "require_key" base.requireKey
  let fingerprintPolicy := choice 11 "fingerprint_policy" "FingerprintPolicy"
    ["ignore", "reject"] fingerprintPolicyAt base.fingerprintPolicy
  let backend := choice 12 "backend" "StoreBackend"
    ["redis", "postgres", "memory"] storeKindAt base.backend
  let keyPrefix := s.field 13 "key_prefix" r.text (some base.keyPrefix)
  let maxBodyBytes := natural 14 "max_body_bytes" 64 base.maxBodyBytes.toNat
  firstFault
    [headerName.fault?, maxKeyLength.fault?, expirationSecs.fault?, cacheErrorResponses.fault?,
     conflictPolicy.fault?, pollAttempts.fault?, pollIntervalMs.fault?, lockTimeoutSecs.fault?,
     useLock.fault?, failOpen.fault?, requireKey.fault?, fingerprintPolicy.fault?, backend.fault?,
     keyPrefix.fault?, maxBodyBytes.fault?]
  return {
    headerName := ← value headerName
    maxKeyLength := .ofNat (← value maxKeyLength)
    expirationSecs := .ofNat (← value expirationSecs)
    cacheErrorResponses := ← value cacheErrorResponses
    conflictPolicy := ← value conflictPolicy
    pollAttempts := .ofNat (← value pollAttempts)
    pollIntervalMs := .ofNat (← value pollIntervalMs)
    lockTimeoutSecs := .ofNat (← value lockTimeoutSecs)
    useLock := ← value useLock
    failOpen := ← value failOpen
    requireKey := ← value requireKey
    fingerprintPolicy := ← value fingerprintPolicy
    backend := ← value backend
    keyPrefix := ← value keyPrefix
    maxBodyBytes := .ofNat (← value maxBodyBytes) }

def readSweep (r : Rules) (t : Tree) : Except Fault SweepSettings := do
  let s ← Section.of r "SweeperSettings" 4 t
  let base : SweepSettings := {}
  let enabled := s.field 0 "enabled" r.flag (some base.enabled)
  let intervalSecs := s.field 1 "interval_secs" (r.natural 64) (some base.intervalSecs.toNat)
  let batchSize := s.field 2 "batch_size" r.integer (some base.batchSize.toInt)
  let maxBatches := s.field 3 "max_batches_per_sweep" (r.natural 32)
    (some base.maxBatchesPerSweep.toNat)
  firstFault [enabled.fault?, intervalSecs.fault?, batchSize.fault?, maxBatches.fault?]
  return {
    enabled := ← value enabled
    intervalSecs := .ofNat (← value intervalSecs)
    batchSize := .ofInt (← value batchSize)
    maxBatchesPerSweep := .ofNat (← value maxBatches) }

def readDatabase (r : Rules) (t : Tree) : Except Fault DatabaseSettings := do
  let s ← Section.of r "DatabaseSettings" 2 t
  let url := s.field 0 "url" r.text none
  let poolSize := s.field 1 "pool_size" (r.natural 32) none
  firstFault [url.fault?, poolSize.fault?]
  return { url := ← value url, poolSize := .ofNat (← value poolSize) }

def readRedis (r : Rules) (t : Tree) : Except Fault RedisSettings := do
  let s ← Section.of r "RedisSettings" 1 t
  return { url := ← value (s.field 0 "url" r.text none) }

def readService (r : Rules) (t : Tree) : Except Fault ServiceSettings := do
  let s ← Section.of r "ApplicationSettings" 4 t
  let host := s.field 0 "host" r.text none
  let port := s.field 1 "port" (r.natural 16) none
  let logLevel := s.field 2 "log_level" r.text none
  let logFormat := s.field 3 "log_format" r.text (some "pretty")
  firstFault [host.fault?, port.fault?, logLevel.fault?, logFormat.fault?]
  return {
    host := ← value host
    port := .ofNat (← value port)
    logLevel := ← value logLevel
    logFormat := ← value logFormat }

def read (r : Rules) (t : Tree) : Except Fault Settings := do
  let s ← Section.of r "Settings" 5 t
  let database := s.field 0 "database" (readDatabase r) none
  let redis := s.field 1 "redis" (readRedis r) none
  let service := s.field 2 "application" (readService r) none
  let policy := s.field 3 "idempotency" (readPolicy r) (some {})
  let sweep := s.field 4 "sweeper" (readSweep r) (some {})
  firstFault [database.fault?, redis.fault?, service.fault?, policy.fault?, sweep.fault?]
  return {
    database := ← value database
    redis := ← value redis
    service := ← value service
    policy := ← value policy
    sweep := ← value sweep }

end OncePerKey.Settings
