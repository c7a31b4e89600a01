import OncePerKey.Decimal.Shortest
import OncePerKey.Json.Value
import OncePerKey.Text.Hex

set_option autoImplicit false

namespace OncePerKey.Json

def floatLayout : Decimal.Layout :=
  { positionalFrom := -5, positionalTo := 16, wholeEnd := ".0", exponentSign := "+"
    zero := "0.0", infinite := "null", notANumber := "null" }

def floatChars (x : Float) : List Char :=
  if x.isFinite then (floatLayout.text x).toList else "null".toList

def intChars (n : Int) : List Char :=
  if n < 0 then '-' :: Nat.toDigits 10 n.natAbs else Nat.toDigits 10 n.toNat

def unicodeEscape (n : Nat) : List Char :=
  '\\' :: 'u' :: Hex.fixed 4 n

def escapeChar (c : Char) : List Char :=
  if c = '"' then ['\\', '"']
  else if c = '\\' then ['\\', '\\']
  else if c = '\x08' then ['\\', 'b']
  else if c = '\t' then ['\\', 't']
  else if c = '\n' then ['\\', 'n']
  else if c = '\x0c' then ['\\', 'f']
  else if c = '\r' then ['\\', 'r']
  else if c.toNat < 0x20 then unicodeEscape c.toNat
  else [c]

-- Escapes what is not ASCII too, in two halves beyond the first 65536 code points.
def escapeAscii (c : Char) : List Char :=
  let n := c.toNat
  if n < 0x7F then escapeChar c
  else if n < 0x10000 then unicodeEscape n
  else unicodeEscape (0xD800 + (n - 0x10000) / 0x400) ++ unicodeEscape (0xDC00 + n % 0x400)

def quoteChars (escape : Char → List Char) (s : List Char) : List Char :=
  '"' :: (s.flatMap escape ++ ['"'])

def literalChars (b : Bool) : List Char :=
  if b then "true".toList else "false".toList

def commaSeparated : List (List Char) → List Char
  | [] => []
  | first :: rest => first ++ rest.flatMap fun piece => ',' :: piece

mutual

def chars (escape : Char → List Char) : Json → List Char
  | .null => "null".toList
  | .bool b => literalChars b
  | .int n => intChars n
  | .float x => floatChars x
  | .str s => quoteChars escape s.toList
  | .arr items => '[' :: (commaSeparated (itemChars escape items) ++ [']'])
  | .obj members => '\x7b' :: (commaSeparated (memberChars escape members) ++ ['\x7d'])

def itemChars (escape : Char → List Char) : List Json → List (List Char)
  | [] => []
  | item :: rest => chars escape item :: itemChars escape rest

def memberChars (escape : Char → List Char) : List (String × Json) → List (List Char)
  | [] => []
  | (name, value) :: rest =>
      (quoteChars escape name.toList ++ ':' :: chars escape value) :: memberChars escape rest

end

def render (j : Json) : String :=
  String.ofList (j.chars escapeChar)

def renderAscii (j : Json) : String :=
  String.ofList (j.chars escapeAscii)

def insertMember (name : String) (value : Json) : List (String × Json) → List (String × Json)
  | [] => [(name, value)]
  | (other, v) :: rest =>
      if name < other then (name, value) :: (other, v) :: rest
      else if name = other then (other, v) :: rest
      else (other, v) :: insertMember name value rest

mutual

-- The value with the members of every object in the order of their names, of two with one name the
-- last.
def sortNames : Json → Json
  | .arr items => .arr (sortItems items)
  | .obj members => .obj (sortMembers members)
  | j => j

def sortItems : List Json → List Json
  | [] => []
  | item :: rest => sortNames item :: sortItems rest

def sortMembers : List (String × Json) → List (String × Json)
  | [] => []
  | (name, value) :: rest => insertMember name (sortNames value) (sortMembers rest)

end

end OncePerKey.Json
