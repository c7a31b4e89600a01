import OncePerKey.Http.Uri
import OncePerKey.Text.LowerCase
import OncePerKey.Text.Utf8

set_option autoImplicit false

namespace OncePerKey.Http

def isTokenChar (c : Char) : Bool :=
  c.isAlphanum
    || c ∈ ['!', '#', '$', '%', '&', '\'', '*', '+', '-', '.', '^', '_', '\x60', '|', '~']

def isToken (s : String) : Bool :=
  s ≠ "" && s.toList.all isTokenChar

def token? (bytes : Bytes) : Option String :=
  match Utf8.decode bytes with
  | .ok s => if isToken s then some s else none
  | .error _ => none

-- Methods that promise not to change anything. Their case matters.
def isSafe (method : String) : Bool :=
  method ∈ ["GET", "HEAD", "OPTIONS", "TRACE"]

def isStateChanging (method : String) : Bool :=
  !isSafe method

def isValueByte (b : UInt8) : Bool :=
  (32 ≤ b && b ≠ 127) || b = 9

def isShownByte (b : UInt8) : Bool :=
  (32 ≤ b && b < 127) || b = 9

abbrev Headers := List (String × Bytes)

namespace Headers

def get? (h : Headers) (name : String) : Option Bytes :=
  h.lookup (Text.asciiLowerText name)

def set (h : Headers) (name : String) (value : Bytes) : Headers :=
  h.filter (·.1 ≠ name) ++ [(name, value)]

def contains (h : Headers) (name : String) : Bool :=
  (h.get? name).isSome

def field? (name value : Bytes) : Option (String × Bytes) :=
  match token? name with
  | some n => if value.all isValueByte then some (Text.asciiLowerText n, value) else none
  | none => none

def text? (h : Headers) (name : String) : Option String := do
  let value ← h.get? name
  if value.all isShownByte then (Utf8.decode value).toOption else none

end Headers

-- One fault can come of another, whose text its own text hides.
inductive BodyFault where
  | lengthLimit
  | plain (text : String)
  | caused (text : String) (by_ : BodyFault)
  deriving DecidableEq, Repr

namespace BodyFault

def message : BodyFault → String
  | .lengthLimit => "length limit exceeded"
  | .plain text | .caused text _ => text

-- Somewhere down to the first cause a limit was exceeded, whoever set it.
def exceedsLimit : BodyFault → Bool
  | .lengthLimit => true
  | .plain _ => false
  | .caused _ cause => cause.exceedsLimit

end BodyFault

abbrev Body := List (Except BodyFault Bytes)

namespace Body

def whole (bytes : Bytes) : Body :=
  [.ok bytes]

-- Pieces are taken in order, so what comes first, too long a piece or a fault of the body itself, is the
-- fault.
def collect : (room : Nat) → Body → Except BodyFault Bytes
  | _, [] => .ok []
  | _, .error fault :: _ => .error fault
  | room, .ok piece :: rest =>
      if room < piece.length then .error .lengthLimit
      else (collect (room - piece.length) rest).map (piece ++ ·)

def read : Body → Except BodyFault Bytes
  | [] => .ok []
  | .error fault :: _ => .error fault
  | .ok piece :: rest => (read rest).map (piece ++ ·)

def bytes? (b : Body) : Option Bytes :=
  b.read.toOption

end Body

structure Request where
  method : String
  uri : Uri
  headers : Headers
  body : Body

structure Response where
  status : UInt16
  headers : Headers := []
  body : Body := []
  deriving Inhabited

namespace Response

def ofStatus (status : UInt16) : Response :=
  { status }

def text (status : UInt16) (s : String) : Response :=
  { status, headers := [("content-type", Utf8.encode "text/plain; charset=utf-8")]
    body := .whole (Utf8.encode s) }

def json (status : UInt16) (s : String) : Response :=
  { status, headers := [("content-type", Utf8.encode "application/json")]
    body := .whole (Utf8.encode s) }

def setHeader (r : Response) (name value : String) : Response :=
  { r with headers := r.headers.set name (Utf8.encode value) }

end Response

end OncePerKey.Http
