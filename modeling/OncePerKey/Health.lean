import OncePerKey.Decimal.Shortest
import OncePerKey.Json.Schema
import OncePerKey.Program

set_option autoImplicit false

namespace OncePerKey

inductive HealthStatus where
  | healthy
  | degraded
  | unhealthy
  deriving DecidableEq, Repr, Inhabited

namespace HealthStatus

def rank : HealthStatus → Nat
  | .healthy => 0
  | .degraded => 1
  | .unhealthy => 2

def worse (a b : HealthStatus) : HealthStatus :=
  if a.rank < b.rank then b else a

def codec : Json.Codec HealthStatus where
  schema := .choice ["healthy", "degraded", "unhealthy"]
  toValue
    | .healthy => (0 : Fin 3)
    | .degraded => (1 : Fin 3)
    | .unhealthy => (2 : Fin 3)
  ofValue := fun (i : Fin 3) =>
    match i with
    | 0 => .healthy
    | 1 => .degraded
    | 2 => .unhealthy
  ofValue_toValue a := by cases a <;> rfl

end HealthStatus

structure DependencyHealth where
  name : String
  status : HealthStatus
  latencyMs : Option Float
  message : Option String

namespace DependencyHealth

def answered (name : String) (latencyMs slowAfterMs : Float) : DependencyHealth :=
  let slow := latencyMs > slowAfterMs
  { name, latencyMs := some latencyMs
    status := if slow then .degraded else .healthy
    message :=
      if slow then some ("Latency above " ++ Decimal.plain.text slowAfterMs ++ "ms") else none }

def unhealthy (name message : String) : DependencyHealth :=
  { name, status := .unhealthy, latencyMs := none, message := some message }

def codec : Json.Codec DependencyHealth where
  schema := .record <|
    .cons "name" .text <| .cons "status" HealthStatus.codec.schema <|
    .cons "latency_ms" (.optional .real) <| .cons "message" (.optional .text) .nil
  toValue d := (d.name, HealthStatus.codec.toValue d.status, d.latencyMs, d.message, ())
  ofValue := fun (name, status, latencyMs, message, ()) =>
    { name, status := HealthStatus.codec.ofValue status, latencyMs, message }
  ofValue_toValue d := by simp [HealthStatus.codec.ofValue_toValue]

end DependencyHealth

structure Health where
  status : HealthStatus
  version : String
  uptimeSeconds : UInt64
  dependencies : List DependencyHealth

def serviceVersion : String := "0.1.0"

namespace Health

def ofDependencies (version : String) (uptimeSeconds : UInt64)
    (dependencies : List DependencyHealth) : Health :=
  { status := dependencies.foldl (fun s d => s.worse d.status) .healthy
    version, uptimeSeconds, dependencies }

def isUnhealthy (h : Health) : Bool :=
  h.status = .unhealthy

def codec : Json.Codec Health where
  schema := .record <|
    .cons "status" HealthStatus.codec.schema <| .cons "version" .text <|
    .cons "uptime_seconds" (.natural UInt64.size) <|
    .cons "dependencies" (.list DependencyHealth.codec.schema) .nil
  toValue h :=
    (HealthStatus.codec.toValue h.status, h.version, h.uptimeSeconds.toFin,
     DependencyHealth.codec.list.toValue h.dependencies, ())
  ofValue := fun (status, version, uptimeSeconds, dependencies, ()) =>
    { status := HealthStatus.codec.ofValue status, version
      uptimeSeconds := .ofFin uptimeSeconds
      dependencies := DependencyHealth.codec.list.ofValue dependencies }
  ofValue_toValue h := by
    simp [HealthStatus.codec.ofValue_toValue, DependencyHealth.codec.list.ofValue_toValue]

end Health

inductive Dependency where
  | postgres
  | redis
  deriving DecidableEq, Repr

inductive ProbeResult where
  | answered (latencyMs : Float)
  | failed (detail : String)
  | timedOut

namespace Dependency

def name : Dependency → String
  | .postgres => "postgres"
  | .redis => "redis"

def slowAfterMs : Dependency → Float
  | .postgres => 100.0
  | .redis => 50.0

def probe : Dependency → String
  | .postgres => "Query"
  | .redis => "PING"

def probeTimeoutMs : Nat := 5000

def health (d : Dependency) : ProbeResult → DependencyHealth
  | .answered latencyMs => .answered d.name latencyMs d.slowAfterMs
  | .failed detail => .unhealthy d.name (d.probe ++ " failed: " ++ detail)
  | .timedOut => .unhealthy d.name (d.probe ++ " timed out")

end Dependency

abbrev Probing (α : Type) := Program Dependency (fun _ => ProbeResult) α

def probeAll : List Dependency → Probing (List DependencyHealth)
  | [] => return []
  | d :: rest => do
      let result ← Program.perform d
      return d.health result :: (← probeAll rest)

def checkHealth (dependencies : List Dependency) (uptimeSeconds : UInt64) : Probing Health := do
  return .ofDependencies serviceVersion uptimeSeconds (← probeAll dependencies)

end OncePerKey
