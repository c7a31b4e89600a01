import OncePerKey.Text.LowerCase

set_option autoImplicit false

namespace OncePerKey.Http

structure Uri where
  text : String
  path : String
  deriving DecidableEq, Inhabited

namespace Uri

def isBeyondAscii (c : Char) : Bool :=
  0x7F ≤ c.toNat

def isPathChar (c : Char) : Bool :=
  let n := c.toNat
  n = 0x21 || (0x24 ≤ n && n ≤ 0x3B) || n = 0x3D || (0x40 ≤ n && n ≤ 0x5F)
    || (0x61 ≤ n && n ≤ 0x7E) || c = '"' || isBeyondAscii c

def isQueryChar (c : Char) : Bool :=
  let n := c.toNat
  n = 0x21 || (0x24 ≤ n && n ≤ 0x3B) || n = 0x3D || (0x3F ≤ n && n ≤ 0x7E) || isBeyondAscii c

def pathAndQuery? (s : List Char) : Option (List Char × List Char) :=
  let s := s.takeWhile (· ≠ '#')
  let path := s.takeWhile (· ≠ '?')
  let query := (s.dropWhile (· ≠ '?')).drop 1
  if path.all isPathChar && query.all isQueryChar then some (path, s) else none

def isSchemeChar (c : Char) : Bool :=
  c.isAlphanum || c = '+' || c = '-' || c = '.'

structure Authority where
  colons : Nat := 0
  percent : Bool := false
  opened : Bool := false
  closed : Bool := false
  atSign : Bool := false

namespace Authority

def isPlain (c : Char) : Bool :=
  c.isAlphanum || c ∈ ['-', '.', '_', '~', '!', '$', '&', '\'', '(', ')', '*', '+', ',', ';', '=']

def maxColons : Nat := 8

def take (a : Authority) (c : Char) : Option Authority :=
  let a' := { a with atSign := c = '@' }
  if c = ':' then
    if maxColons ≤ a.colons then none else some { a' with colons := a.colons + 1 }
  else if c = '[' then
    if a.percent || a.opened then none else some { a' with opened := true }
  else if c = ']' then
    if !a.opened || a.closed then none
    else some { a' with closed := true, colons := 0, percent := false }
  else if c = '@' then some { a' with colons := 0, percent := false }
  else if c = '%' then some { a' with percent := true }
  else if isPlain c then some a'
  else none

-- Brackets come in pairs, a host has one port at most, and stands behind its user.
def isWhole (a : Authority) : Bool :=
  a.opened = a.closed && a.colons ≤ 1 && !a.atSign && !a.percent

def accepts (cs : List Char) : Bool :=
  ((cs.foldlM take {}).map isWhole).getD false

end Authority

def maxSchemeLength : Nat := 64

def splitScheme : (seen : List Char) → List Char → Option (List Char × List Char)
  | seen, ':' :: '/' :: '/' :: rest => some (seen.reverse, rest)
  | seen, c :: rest => if isSchemeChar c then splitScheme (c :: seen) rest else none
  | _, [] => none

-- The two usual schemes are written in lower case, all others as they are.
def schemeText (scheme : List Char) : List Char :=
  let lowered := scheme.map Text.asciiLower
  if lowered = "http".toList || lowered = "https".toList then lowered else scheme

def ofFull? (s : List Char) : Option Uri :=
  match splitScheme [] s with
  | some (scheme, rest) =>
      let authority := rest.takeWhile fun c => !(c = '/' || c = '?' || c = '#')
      let behind := rest.drop authority.length
      if maxSchemeLength < scheme.length || authority.isEmpty || !Authority.accepts authority then
        none
      else
        (pathAndQuery? behind).map fun (path, all) =>
          let root := if path.isEmpty then ['/'] else []
          { text := String.ofList (schemeText scheme ++ "://".toList ++ authority ++ root ++ all)
            path := String.ofList (root ++ path) }
  | none => if Authority.accepts s then some { text := String.ofList s, path := "" } else none

def maxLength : Nat := 65534

def parse? (s : String) : Option Uri :=
  if maxLength < s.utf8ByteSize then none
  else
    match s.toList with
    | [] => none
    | ['*'] => some { text := s, path := "*" }
    | '/' :: rest =>
        (pathAndQuery? ('/' :: rest)).map fun (path, all) =>
          { text := String.ofList all, path := String.ofList path }
    | cs => ofFull? cs

end Uri

end OncePerKey.Http
