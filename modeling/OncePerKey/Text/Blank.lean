set_option autoImplicit false

namespace OncePerKey.Text

-- White_Space, both ends of each range included.
def blankRanges : List (Nat × Nat) :=
  [(0x09, 0x0D), (0x20, 0x20), (0x85, 0x85), (0xA0, 0xA0), (0x1680, 0x1680), (0x2000, 0x200A),
   (0x2028, 0x2029), (0x202F, 0x202F), (0x205F, 0x205F), (0x3000, 0x3000)]

def inRanges (ranges : List (Nat × Nat)) (n : Nat) : Bool :=
  ranges.any fun r => r.1 ≤ n && n ≤ r.2

def isBlank (c : Char) : Bool :=
  inRanges blankRanges c.toNat

def trimStart (p : Char → Bool) (s : List Char) : List Char :=
  s.dropWhile p

def trimEnd (p : Char → Bool) (s : List Char) : List Char :=
  (s.reverse.dropWhile p).reverse

def trimBoth (p : Char → Bool) (s : List Char) : List Char :=
  trimEnd p (trimStart p s)

def trim (s : String) : String :=
  String.ofList (trimBoth isBlank s.toList)

end OncePerKey.Text
