import OncePerKey.Text.Utf8

set_option autoImplicit false

namespace OncePerKey.Hex

def digit (n : Nat) : Char :=
  if n < 10 then Char.ofNat ('0'.toNat + n) else Char.ofNat ('a'.toNat + (n - 10))

def digit? (c : Char) : Option Nat :=
  if '0' ≤ c && c ≤ '9' then some (c.toNat - '0'.toNat)
  else if 'a' ≤ c && c ≤ 'f' then some (c.toNat - 'a'.toNat + 10)
  else if 'A' ≤ c && c ≤ 'F' then some (c.toNat - 'A'.toNat + 10)
  else none

def fixed : (width : Nat) → Nat → List Char
  | 0, _ => []
  | width + 1, n => fixed width (n / 16) ++ [digit (n % 16)]

def natural (n : Nat) : List Char :=
  (Nat.toDigits 16 n)

def ofBytes (bytes : Bytes) : String :=
  String.ofList (bytes.flatMap fun b => fixed 2 b.toNat)

def value? (cs : List Char) : Option Nat :=
  cs.foldl (fun acc c => do return (← acc) * 16 + (← digit? c)) (some 0)

def toBytes? : List Char → Option Bytes
  | [] => some []
  | [_] => none
  | a :: b :: rest => do
      let high ← digit? a
      let low ← digit? b
      return UInt8.ofNat (high * 16 + low) :: (← toBytes? rest)

end OncePerKey.Hex
