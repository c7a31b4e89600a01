import OncePerKey.Text.Blank

set_option autoImplicit false

namespace OncePerKey

abbrev Bytes := List UInt8

namespace Utf8

structure Pending where
  missing : Nat
  low : Nat
  high : Nat
  bits : Nat
  width : Nat

inductive Piece where
  | char (c : Char)
  -- A start that no character has, as long as it could still become one.
  | bad (width : Nat)
  | cut (width : Nat)
  deriving DecidableEq

-- The second byte is bounded more tightly where an overlong form, a surrogate or too large a code point
-- would begin.
def Pending.ofLead (b : Nat) : Option Pending :=
  if b < 0xC2 then none
  else if b < 0xE0 then some ⟨1, 0x80, 0xBF, b - 0xC0, 1⟩
  else if b = 0xE0 then some ⟨2, 0xA0, 0xBF, 0, 1⟩
  else if b = 0xED then some ⟨2, 0x80, 0x9F, 0xD, 1⟩
  else if b < 0xF0 then some ⟨2, 0x80, 0xBF, b - 0xE0, 1⟩
  else if b = 0xF0 then some ⟨3, 0x90, 0xBF, 0, 1⟩
  else if b < 0xF4 then some ⟨3, 0x80, 0xBF, b - 0xF0, 1⟩
  else if b = 0xF4 then some ⟨3, 0x80, 0x8F, 4, 1⟩
  else none

structure Reading where
  seen : List Piece
  pending : Option Pending

def Reading.start : Reading := ⟨[], none⟩

def Reading.takeLead (r : Reading) (b : Nat) : Reading :=
  if b < 0x80 then ⟨.char (Char.ofNat b) :: r.seen, none⟩
  else match Pending.ofLead b with
    | none => ⟨.bad 1 :: r.seen, none⟩
    | some p => ⟨r.seen, some p⟩

def Reading.take (r : Reading) (byte : UInt8) : Reading :=
  let b := byte.toNat
  match r.pending with
  | none => r.takeLead b
  | some p =>
      if p.low ≤ b && b ≤ p.high then
        let bits := p.bits * 64 + b % 64
        if p.missing ≤ 1 then ⟨.char (Char.ofNat bits) :: r.seen, none⟩
        else ⟨r.seen, some ⟨p.missing - 1, 0x80, 0xBF, bits, p.width + 1⟩⟩
      else Reading.takeLead ⟨.bad p.width :: r.seen, none⟩ b

def Reading.finish (r : Reading) : List Piece :=
  match r.pending with
  | none => r.seen.reverse
  | some p => (Piece.cut p.width :: r.seen).reverse

def pieces (bytes : Bytes) : List Piece :=
  (bytes.foldl Reading.take Reading.start).finish

def encodeChar (c : Char) : Bytes :=
  let n := c.toNat
  if n < 0x80 then [.ofNat n]
  else if n < 0x800 then [.ofNat (0xC0 + n / 64), .ofNat (0x80 + n % 64)]
  else if n < 0x10000 then
    [.ofNat (0xE0 + n / 4096), .ofNat (0x80 + n / 64 % 64), .ofNat (0x80 + n % 64)]
  else
    [.ofNat (0xF0 + n / 262144), .ofNat (0x80 + n / 4096 % 64), .ofNat (0x80 + n / 64 % 64),
     .ofNat (0x80 + n % 64)]

def encodeChars (s : List Char) : Bytes :=
  s.flatMap encodeChar

def encode (s : String) : Bytes :=
  encodeChars s.toList

inductive Fault where
  | malformed (width index : Nat)
  | incomplete (index : Nat)
  deriving DecidableEq, Repr

def Fault.message : Fault → String
  | .malformed width index =>
      s!"invalid utf-8 sequence of {width} bytes from index {index}"
  | .incomplete index => s!"incomplete utf-8 byte sequence from index {index}"

def collect : List Char → Nat → List Piece → Except Fault (List Char)
  | seen, _, [] => .ok seen.reverse
  | seen, index, .char c :: rest => collect (c :: seen) (index + c.utf8Size) rest
  | _, index, .bad width :: _ => .error (.malformed width index)
  | _, index, .cut _ :: _ => .error (.incomplete index)

def decodeChars (bytes : Bytes) : Except Fault (List Char) :=
  collect [] 0 (pieces bytes)

def decode (bytes : Bytes) : Except Fault String :=
  (decodeChars bytes).map String.ofList

def Piece.char? : Piece → Option Char
  | .char c => some c
  | .bad _ | .cut _ => none

def wellFormedPart (bytes : Bytes) : List Char :=
  ((pieces bytes).takeWhile (·.char?.isSome)).filterMap Piece.char?

def Piece.shown : Piece → Char
  | .char c => c
  | .bad _ | .cut _ => '\uFFFD'

def decodeLossy (bytes : Bytes) : String :=
  String.ofList ((pieces bytes).map Piece.shown)

end Utf8

end OncePerKey
