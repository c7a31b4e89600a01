import OncePerKey.Digest.Sha256
import OncePerKey.Failure
import OncePerKey.Json.Schema

set_option autoImplicit false

namespace OncePerKey

structure Captured where
  status : UInt16
  contentType : Option String
  body : Bytes
  deriving DecidableEq, Inhabited

def Captured.json (status : UInt16) (value : Json) : Captured :=
  { status, contentType := some "application/json", body := Utf8.encode value.sortNames.render }

structure Cached where
  status : UInt16
  body : Option String
  contentType : Option String
  createdAt : Timestamp
  expiresAt : Timestamp
  fingerprint : Option String
  deriving DecidableEq, Inhabited

inductive SnapshotFault where
  | lifetimeNotPositive
  | notText (fault : Utf8.Fault)
  | neverExpires
  deriving DecidableEq

namespace Cached

def ofCaptured (now : Timestamp) (captured : Captured) (lifetime : Int)
    (fingerprint : Option String) : Except SnapshotFault Cached :=
  if lifetime ≤ 0 then .error .lifetimeNotPositive
  else
    match Utf8.decode captured.body, now.plus? lifetime with
    | .error fault, _ => .error (.notText fault)
    | .ok _, none => .error .neverExpires
    | .ok text, some expiresAt => .ok
        { status := captured.status
          body := if captured.body.isEmpty then none else some text
          contentType := captured.contentType
          createdAt := now, expiresAt, fingerprint }

def toCaptured (c : Cached) : Captured :=
  { status := c.status, contentType := c.contentType, body := (c.body.map Utf8.encode).getD [] }

-- A response lives until the moment it expires, which is no longer part of its life.
def isLiveAt (c : Cached) (now : Timestamp) : Bool :=
  now.before c.expiresAt

def remaining (c : Cached) (now : Timestamp) : Int :=
  max 0 (c.expiresAt.since now)

def codec : Json.Codec Cached where
  schema := .record <|
    .cons "status_code" (.natural 65536) <| .cons "body" (.optional .text) <|
    .cons "content_type" (.optional .text) <| .cons "created_at" .moment <|
    .cons "expires_at" .moment <| .cons "request_fingerprint" (.optional .text) .nil
  toValue c :=
    (c.status.toFin, c.body, c.contentType, c.createdAt, c.expiresAt, c.fingerprint, ())
  ofValue := fun (status, body, contentType, createdAt, expiresAt, fingerprint, ()) =>
    { status := UInt16.ofFin status, body, contentType, createdAt, expiresAt, fingerprint }
  ofValue_toValue _ := rfl

end Cached

def SnapshotFault.toFailure : SnapshotFault → Failure
  | .lifetimeNotPositive => .validation "Cached response TTL must be positive"
  | .notText fault => .serialization ("response body is not valid UTF-8: " ++ fault.message)
  | .neverExpires => .internal "expiry is beyond the calendar"

def fingerprint (body : Bytes) : String :=
  Hex.ofBytes (Sha256.digest body)

inductive WriteOutcome where
  | written
  | alreadyExists (existing : Cached)
  deriving DecidableEq

end OncePerKey
