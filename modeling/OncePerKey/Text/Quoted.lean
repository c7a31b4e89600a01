import OncePerKey.Text.Hex
import OncePerKey.Text.Invisible

set_option autoImplicit false

namespace OncePerKey.Text

def isInvisible (c : Char) : Bool :=
  inRanges unprintedRanges c.toNat || inRanges extendingRanges c.toNat

-- A character between two marks `quote`, which alone of the two kinds of mark is escaped.
def quotedChar (quote : Char) (c : Char) : List Char :=
  if c = '\x00' then ['\\', '0']
  else if c = '\t' then ['\\', 't']
  else if c = '\r' then ['\\', 'r']
  else if c = '\n' then ['\\', 'n']
  else if c = '\\' || c = quote then ['\\', c]
  else if 0x20 ≤ c.toNat && c.toNat < 0x7F then [c]
  else if isInvisible c then '\\' :: 'u' :: '\x7b' :: (Hex.natural c.toNat ++ ['\x7d'])
  else [c]

def quoteChar (c : Char) : String :=
  String.ofList ('\'' :: (quotedChar '\'' c ++ ['\'']))

def quoteText (s : String) : String :=
  String.ofList ('"' :: (s.toList.flatMap (quotedChar '"') ++ ['"']))

end OncePerKey.Text
