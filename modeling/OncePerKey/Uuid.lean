import OncePerKey.Text.Hex

set_option autoImplicit false

namespace OncePerKey

structure Uuid where
  bits : BitVec 128
  deriving DecidableEq, Inhabited

namespace Uuid

def ofSeed (n : Nat) : Uuid :=
  let low := n % Nat.pow 2 62
  let high := n / Nat.pow 2 62 % Nat.pow 2 48
  ⟨BitVec.ofNat 128 (high * Nat.pow 2 80 + 4 * Nat.pow 2 76 + 2 * Nat.pow 2 62 + low)⟩

def groups (cs : List Char) : List (List Char) :=
  [cs.take 8, (cs.drop 8).take 4, (cs.drop 12).take 4, (cs.drop 16).take 4, cs.drop 20]

def chars (u : Uuid) : List Char :=
  List.intercalate ['-'] (groups (Hex.fixed 32 u.bits.toNat))

def render (u : Uuid) : String :=
  String.ofList u.chars

def version (u : Uuid) : Nat :=
  u.bits.toNat / Nat.pow 2 76 % 16

def ofDigits? (cs : List Char) : Option Uuid :=
  (Hex.value? cs).map fun n => ⟨BitVec.ofNat 128 n⟩

def ofHyphenated? (cs : List Char) : Option Uuid :=
  let hyphens := [8, 13, 18, 23].all fun i => cs[i]? == some '-'
  if cs.length = 36 && hyphens then
    ofDigits? (cs.take 8 ++ (cs.drop 9).take 4 ++ (cs.drop 14).take 4 ++ (cs.drop 19).take 4
      ++ cs.drop 24)
  else none

def parseChars (cs : List Char) : Option Uuid :=
  if cs.length = 32 then ofDigits? cs
  else if cs.length = 36 then ofHyphenated? cs
  else if cs.length = 38 && cs.head? == some '\x7b' && cs.getLast? == some '\x7d' then
    ofHyphenated? ((cs.drop 1).take 36)
  else if cs.length = 45 && cs.take 9 == "urn:uuid:".toList then ofHyphenated? (cs.drop 9)
  else none

def parse? (s : String) : Option Uuid :=
  parseChars s.toList

end Uuid

end OncePerKey
