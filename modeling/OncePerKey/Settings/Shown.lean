import OncePerKey.Json.Value
import OncePerKey.Settings.Basic

set_option autoImplicit false

namespace OncePerKey

def ConflictPolicy.name : ConflictPolicy → String
  | .returnConflict => "ReturnConflict"
  | .waitAndPoll => "WaitAndPoll"

def FingerprintPolicy.name : FingerprintPolicy → String
  | .ignore => "Ignore"
  | .reject => "Reject"

def StoreKind.name : StoreKind → String
  | .redis => "Redis"
  | .postgres => "Postgres"
  | .memory => "Memory"

def Policy.toJson (p : Policy) : Json :=
  .obj
    [("header_name", .str p.headerName),
     ("max_key_length", .ofNat p.maxKeyLength.toNat),
     ("expiration_secs", .ofNat p.expirationSecs.toNat),
     ("cache_error_responses", .bool p.cacheErrorResponses),
     ("conflict_policy", .str p.conflictPolicy.name),
     ("poll_attempts", .ofNat p.pollAttempts.toNat),
     ("poll_interval_ms", .ofNat p.pollIntervalMs.toNat),
     ("lock_timeout_secs", .ofNat p.lockTimeoutSecs.toNat),
     ("use_lock", .bool p.useLock),
     ("fail_open", .bool p.failOpen),
     ("require_key", .bool p.requireKey),
     ("fingerprint_policy", .str p.fingerprintPolicy.name),
     ("backend", .str p.backend.name),
     ("key_prefix", .str p.keyPrefix),
     ("max_body_bytes", .ofNat p.maxBodyBytes.toNat)]

def SweepSettings.toJson (s : SweepSettings) : Json :=
  .obj
    [("enabled", .bool s.enabled),
     ("interval_secs", .ofNat s.intervalSecs.toNat),
     ("batch_size", .int s.batchSize.toInt),
     ("max_batches_per_sweep", .ofNat s.maxBatchesPerSweep.toNat)]

def Settings.toJson (s : Settings) : Json :=
  .obj
    [("database", .obj
      [("url", .str s.database.url), ("pool_size", .ofNat s.database.poolSize.toNat)]),
     ("redis", .obj [("url", .str s.redis.url)]),
     ("application", .obj
      [("host", .str s.service.host), ("port", .ofNat s.service.port.toNat),
       ("log_level", .str s.service.logLevel), ("log_format", .str s.service.logFormat)]),
     ("idempotency", s.policy.toJson),
     ("sweeper", s.sweep.toJson)]

def Violation.toJson : Violation → Json
  | .range field value =>
      .obj [("code", .str "range"), ("field", .str field), ("value", .int value)]
  | .length field value =>
      .obj [("code", .str "length"), ("field", .str field), ("value", .str value)]

end OncePerKey
