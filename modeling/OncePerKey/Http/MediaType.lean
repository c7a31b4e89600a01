import OncePerKey.Http.Message

set_option autoImplicit false

namespace OncePerKey.Http.MediaType

inductive Place where
  | beforeName
  | name
  | beforeValue
  | value
  | opened
  | quoted
  | closed
  deriving DecidableEq

-- Blanks stand before a name and behind a quoted value only. What is quoted may be a quote itself.
def Place.next : Place → Char → Option Place
  | .beforeName, ' ' => some .beforeName
  | .beforeName, c => if isTokenChar c then some .name else none
  | .name, '=' => some .beforeValue
  | .name, c => if isTokenChar c then some .name else none
  | .beforeValue, '"' => some .opened
  | .beforeValue, c => if isTokenChar c then some .value else none
  | .value, ';' => some .beforeName
  | .value, c => if isTokenChar c then some .value else none
  | .opened, c => if 32 ≤ c.toNat then some .quoted else none
  | .quoted, '"' => some .closed
  | .quoted, c => if 32 ≤ c.toNat then some .quoted else none
  | .closed, ';' => some .beforeName
  | .closed, ' ' => some .closed
  | .closed, _ => none

-- The last parameter may have an empty value, and the list may end with a semicolon.
def Place.isEnd (p : Place) : Bool :=
  p = .beforeName || p = .beforeValue || p = .value || p = .closed

def areParameters (cs : List Char) : Bool :=
  (cs.foldlM Place.next .beforeName).any Place.isEnd

def names? (s : String) : Option (List Char × List Char) :=
  let cs := s.toList
  let first := cs.takeWhile isTokenChar
  match cs.drop first.length with
  | '/' :: behind =>
      let second := behind.takeWhile isTokenChar
      let good : Bool :=
        match behind.drop second.length with
        | [] => true
        | c :: rest => (c = ';' || c = ' ') && areParameters rest
      if first ≠ [] && second ≠ [] && good then
        some (first.map Text.asciiLower, second.map Text.asciiLower)
      else none
  | _ => none

def splitFormat (name : List Char) : List Char × Option (List Char) :=
  let format := (name.reverse.takeWhile (· ≠ '+')).reverse
  let before := name.take (name.length - format.length - 1)
  if format.length = name.length || before = [] then (name, none) else (before, some format)

def isJson (s : String) : Bool :=
  match names? s with
  | some (type, name) =>
      let (name, format) := splitFormat name
      type = "application".toList && (name = "json".toList || format = some "json".toList)
  | none => false

end OncePerKey.Http.MediaType
