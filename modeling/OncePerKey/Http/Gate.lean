import OncePerKey.Http.Envelope
import OncePerKey.Http.Message
import OncePerKey.Request.Execute

set_option autoImplicit false

namespace OncePerKey.Http

inductive Ask (E : Type) where
  | engine (q : OncePerKey.Ask)
  | forward (endpoint : E) (r : Request)

def Ask.Answer {E : Type} : Ask E → Type
  | .engine q => q.Answer
  | .forward _ _ => Response

abbrev Serving (E α : Type) := Program (Ask E) Ask.Answer α

variable {E : Type}

def Serving.ask (q : Ask E) : Serving E q.Answer :=
  Program.perform q

def report (note : Note) : Serving E Unit :=
  Serving.ask (.engine (.report note))

def log (level : Level) (message : String) (fields : List (String × FieldValue) := []) :
    Serving E Unit :=
  report (.log level .middleware message fields)

def statusHeader : String := "idempotency-status"

def expiresHeader : String := "idempotency-expires"

def refusal (status : UInt16) (code message : String) : Response :=
  .json status ((Envelope.codec Envelope.unitCodec).render (.failed { code, message }))

def knownStatus (status : UInt16) : UInt16 :=
  if 100 ≤ status && status ≤ 999 then status else 500

def Response.ofCaptured (c : Captured) : Response :=
  let contentType := c.contentType.map Utf8.encode
  { status := knownStatus c.status
    headers := ((contentType.filter (·.all isValueByte)).map fun v => ("content-type", v)).toList
    body := .whole c.body }

def Response.marked (r : Response) (status : String) : Response :=
  r.setHeader statusHeader status

def Response.expiring (r : Response) (at_ : Timestamp) : Response :=
  r.setHeader expiresHeader (Rfc3339.renderOffset at_)

def replayResponse (c : Cached) : Response :=
  ((Response.ofCaptured c.toCaptured).marked "cached").expiring c.expiresAt

def executedResponse (c : Captured) (kept : Option Response) : Response :=
  match kept with
  | some r => { r with body := .whole c.body }
  | none => .ofCaptured c

def outcomeResponse (kept : Option Response) : Outcome → Serving E Response
  | .rejectedInvalidKey reason => return refusal 400 "INVALID_IDEMPOTENCY_KEY" reason.message
  | .replayed cached => return replayResponse cached
  | .executedCached captured expiresAt =>
      return ((executedResponse captured kept).marked "created").expiring expiresAt
  | .executedUncached captured reason => do
      log .debug "Response returned without caching" [("reason", .shown reason.text)]
      return (executedResponse captured kept).marked "created"
  | .conflict retryAfterSecs =>
      return (refusal 409 "IDEMPOTENCY_CONFLICT"
          "A request with this idempotency key is already being processed").setHeader
        "retry-after" (toString (max 1 retryAfterSecs))
  | .fingerprintMismatch =>
      return refusal 422 "IDEMPOTENCY_KEY_REUSED"
        "Idempotency key was already used with a different request body"

def failureResponse : Failure → Serving E Response
  | .storeUnavailable cause => do
      log .error ("Idempotency store unavailable: " ++ cause.message)
      return refusal 503 "IDEMPOTENCY_STORE_UNAVAILABLE"
        "Idempotency store is unavailable, retry later"
  | failure => do
      log .error ("Protected operation failed: " ++ failure.message)
      return refusal 500 "INTERNAL_ERROR" "An internal error occurred"

def bodyRefusal (c : Request.Context) (fault : BodyFault) : Serving E Response :=
  if fault.exceedsLimit then do
    log .warn ("Rejected request body: " ++ fault.message)
    return refusal 413 "PAYLOAD_TOO_LARGE"
      s!"Request body exceeds {c.policy.maxBodyBytes.toNat} bytes"
  else do
    log .warn ("Failed to read request body: " ++ fault.message)
    return refusal 400 "INVALID_REQUEST_BODY" "Request body could not be read"

def Response.capture (r : Response) : Except BodyFault Captured :=
  r.body.read.map fun body =>
    { status := r.status, contentType := r.headers.text? "content-type", body }

-- Lets the endpoint answer as the protected operation. The response is kept for its headers.
def operate (next : Serving E Response) :
    (q : OncePerKey.Ask) → Option Response → Serving E (q.Answer × Option Response)
  | .operate, _ => do
      let r ← next
      match r.capture with
      | .ok captured => return (.ok captured, some r)
      | .error fault => return (.error (.downstream fault.message), none)
  -- All other questions are for the surroundings of the gate.
  | q, kept => do
      let a ← Serving.ask (.engine q)
      return (a, kept)

def rawKey (c : Request.Context) (r : Request) : Option String :=
  (r.headers.get? c.policy.headerName).map Utf8.decodeLossy

def gate (c : Request.Context) (route : String) (next : Request → Serving E Response)
    (r : Request) : Serving E Response :=
  let key := rawKey c r
  if isSafe r.method || (key.isNone && !c.policy.requireKey) then next r
  else
    match r.body.collect c.policy.maxBodyBytes.toNat with
    | .error fault => bodyRefusal c fault
    | .ok bytes => do
        let request : OncePerKey.Request :=
          { method := r.method, route, rawKey := key, fingerprint := some (fingerprint bytes) }
        let whole := { r with body := Body.whole bytes }
        let (result, kept) ← (Request.execute c request).interpretWith (operate (next whole)) none
        match result with
        | .ok outcome => outcomeResponse kept outcome
        | .error failure => failureResponse failure

end OncePerKey.Http
