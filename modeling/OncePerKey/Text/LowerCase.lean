import OncePerKey.Text.Cased

set_option autoImplicit false

namespace OncePerKey.Text

def asciiLower (c : Char) : Char :=
  if 'A' ≤ c && c ≤ 'Z' then Char.ofNat (c.toNat + 32) else c

def asciiUpper (c : Char) : Char :=
  if 'a' ≤ c && c ≤ 'z' then Char.ofNat (c.toNat - 32) else c

def asciiLowerText (s : String) : String :=
  String.ofList (s.toList.map asciiLower)

def asciiUpperText (s : String) : String :=
  String.ofList (s.toList.map asciiUpper)

def lowerChar (c : Char) : List Char :=
  if c.toNat < 0x80 then [asciiLower c]
  else if c = 'İ' then ['i', '\u0307']
  else match caseRuns.find? (·.covers c.toNat) with
    | some run => [Char.ofNat (c.toNat + run.distance).toNat]
    | none => [c]

-- Leaving out characters that do not matter for case, the text begins with a cased one.
def meetsCased (s : List Char) : Bool :=
  match s.dropWhile fun c => inRanges caseIgnorableRanges c.toNat with
  | c :: _ => inRanges casedRanges c.toNat
  | [] => false

def lowerSigma (before after : List Char) : Char :=
  if meetsCased before && !meetsCased after then 'ς' else 'σ'

-- Lower-cases the rest of a text. `before` is the part already read and `lowered` its lower case,
-- both last character first.
def lowerFrom (before lowered : List Char) : List Char → List Char
  | [] => lowered.reverse
  | c :: rest =>
      if c = 'Σ' then lowerFrom (c :: before) (lowerSigma before rest :: lowered) rest
      else lowerFrom (c :: before) ((lowerChar c).reverse ++ lowered) rest

def lower (s : String) : String :=
  String.ofList (lowerFrom [] [] s.toList)

end OncePerKey.Text
