import OncePerKey.Health
import OncePerKey.Http.MediaType
import OncePerKey.Http.Site

set_option autoImplicit false

namespace OncePerKey.Http

inductive Endpoint where
  | health
  | readiness
  | liveness
  | metrics
  | statistics
  | orders
  deriving DecidableEq, Repr

namespace Endpoint

def path : Endpoint → String
  | .health => "/health"
  | .readiness => "/ready"
  | .liveness => "/live"
  | .metrics => "/metrics"
  | .statistics => "/idempotency/stats"
  | .orders => "/orders"

def isGuarded (e : Endpoint) : Bool :=
  e = .orders

def route (e : Endpoint) : Route Endpoint :=
  { pattern := .ofText e.path, methods := some [if e.isGuarded then "POST" else "GET"]
    guarded := e.isGuarded, endpoint := e }

end Endpoint

def serviceSite : Site Endpoint where
  routes := [.health, .readiness, .liveness, .metrics, .statistics, .orders].map Endpoint.route

inductive ServiceAsk where
  | now
  | newId
  | uptimeSeconds
  | probe (d : Dependency)
  | tally
  | counters
  | report (note : Note)

def ServiceAsk.Answer : ServiceAsk → Type
  | .now => Timestamp
  | .newId => Uuid
  | .uptimeSeconds => UInt64
  | .probe _ => ProbeResult
  | .tally => Tally
  | .counters => Counters
  | .report _ => Unit

abbrev Answering (α : Type) := Program ServiceAsk ServiceAsk.Answer α

def Answering.ask (q : ServiceAsk) : Answering q.Answer :=
  Program.perform q

structure ServiceParts where
  dependencies : List Dependency
  hasMetrics : Bool

def currentHealth (s : ServiceParts) : Answering Health := do
  let uptime ← Answering.ask .uptimeSeconds
  (checkHealth s.dependencies uptime).interpret fun d => Answering.ask (.probe d)

def success {α : Type} (status : UInt16) (c : Json.Codec α) (a : α) : Response :=
  .json status ((Envelope.codec c).render (.succeeded a))

def maxOrderBytes : Nat := 2097152

-- What follows the order does not matter. A byte that belongs to no character is where the text ends.
def readOrder (body : Bytes) : Except Json.Fault OrderRequest :=
  (OrderRequest.codec.schema.read (Utf8.wellFormedPart body)).map fun (v, _) =>
    OrderRequest.codec.ofValue v

def orderOf (r : Request) : Except Response OrderRequest :=
  if !(r.headers.text? "content-type").any MediaType.isJson then
    .error (.text 415 "Expected request with \x60Content-Type")
  else
    match r.body.collect maxOrderBytes with
    -- Here a limit counts only if nothing hides it.
    | .error fault =>
        .error (.text (if fault = .lengthLimit then 413 else 400) "Failed to buffer the request body")
    | .ok body =>
        match readOrder body with
        | .ok order => .ok order
        | .error .mismatched =>
            .error (.text 422 "Failed to deserialize the JSON body into the target type")
        | .error _ => .error (.text 400 "Failed to parse the request body as JSON")

def createOrder (r : Request) : Answering Response :=
  match orderOf r with
  | .error response => return response
  | .ok request => do
      let problems := request.problems
      if problems ≠ [] then
        return .json 400 ((Envelope.codec Envelope.unitCodec).render (.failed
          { code := "VALIDATION_ERROR", message := "Request validation failed"
            details := some problems }))
      else
        let id ← Answering.ask .newId
        let order := Order.ofRequest request id (← Answering.ask .now)
        let () ← Answering.ask (.report (.log .info .handlers "Order created"
          [("order_id", .shown id.render)]))
        return success 201 Order.codec order

def metricsText (c : Counters) : String :=
  String.join (c.lines.map (· ++ "\n"))

def answer (s : ServiceParts) : Endpoint → Request → Answering Response
  | .health, _ => do
      let health ← currentHealth s
      return success (if health.isUnhealthy then 503 else 200) Health.codec health
  | .readiness, _ => do
      return .ofStatus (if (← currentHealth s).isUnhealthy then 503 else 200)
  | .liveness, _ => return .ofStatus 200
  | .metrics, _ => do
      if s.hasMetrics then return .text 200 (metricsText (← Answering.ask .counters))
      else return .text 404 "metrics exporter not installed"
  | .statistics, _ => do
      return success 200 Tally.codec (← Answering.ask .tally)
  | .orders, r => createOrder r

end OncePerKey.Http
