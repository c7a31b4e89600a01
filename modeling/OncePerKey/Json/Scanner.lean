import OncePerKey.Json.Value
import OncePerKey.Text.Hex

set_option autoImplicit false

namespace OncePerKey.Json

inductive Fault where
  | malformed
  | mismatched
  | unfinished
  deriving DecidableEq, Repr

abbrev Scan (α : Type) := Except Fault (α × List Char)

def isSpace (c : Char) : Bool :=
  c == ' ' || c == '\n' || c == '\t' || c == '\r'

def skipSpace (s : List Char) : List Char :=
  s.dropWhile isSpace

def word : (letters : List Char) → List Char → Except Fault (List Char)
  | [], s => .ok s
  | _ :: _, [] => .error .unfinished
  | l :: letters, c :: s => if c = l then word letters s else .error .malformed

inductive StringState where
  | plain
  | escape
  | hex (bytesLeft : Nat) (value : Option Nat) (high : Option Nat)
  | pairMark (high : Nat)
  | pairLetter (high : Nat)

def simpleEscape (c : Char) : Option Char :=
  match c with
  | '"' => some '"'
  | '\\' => some '\\'
  | '/' => some '/'
  | 'b' => some '\x08'
  | 'f' => some '\x0c'
  | 'n' => some '\n'
  | 'r' => some '\r'
  | 't' => some '\t'
  | _ => none

abbrev StringStep := Except Fault (StringState × Option Char)

-- The number that four digits of an escape spell. With `paired`, the two halves of a pair are taken
-- only in order.
def escapeCode (paired : Bool) (high : Option Nat) (n : Nat) : StringStep :=
  if !paired then .ok (.plain, none)
  else match high with
    | none =>
        if 0xDC00 ≤ n && n ≤ 0xDFFF then .error .malformed
        else if 0xD800 ≤ n && n ≤ 0xDBFF then .ok (.pairMark n, none)
        else .ok (.plain, some (Char.ofNat n))
    | some h =>
        if 0xDC00 ≤ n && n ≤ 0xDFFF then
          .ok (.plain, some (Char.ofNat ((h - 0xD800) * 0x400 + (n - 0xDC00) + 0x10000)))
        else .error .malformed

-- An escape is looked at when its four bytes are there, so a faulty digit counts only then.
def hexStep (paired : Bool) (left : Nat) (value high : Option Nat) (c : Char) : StringStep :=
  let value := do return (← value) * 16 + (← Hex.digit? c)
  if c.utf8Size < left then .ok (.hex (left - c.utf8Size) value high, none)
  else match value with
    | some n => escapeCode paired high n
    | none => .error .malformed

def stringStep (paired : Bool) (state : StringState) (c : Char) : StringStep :=
  match state with
  | .plain =>
      if c = '\\' then .ok (.escape, none)
      else if c.toNat < 0x20 then .error .malformed
      else .ok (.plain, some c)
  | .escape =>
      if c = 'u' then .ok (.hex 4 (some 0) none, none)
      else match simpleEscape c with
        | some e => .ok (.plain, some e)
        | none => .error .malformed
  | .hex left value high => hexStep paired left value high c
  | .pairMark high => if c = '\\' then .ok (.pairLetter high, none) else .error .malformed
  | .pairLetter high =>
      if c = 'u' then .ok (.hex 4 (some 0) (some high), none) else .error .malformed

def stringFrom (paired : Bool) (state : StringState) (seen : List Char) :
    List Char → Scan (List Char)
  | [] => .error .unfinished
  | c :: s =>
      match state, c with
      | .plain, '"' => .ok (seen.reverse, s)
      | _, _ =>
          match stringStep paired state c with
          | .error e => .error e
          | .ok (state, some d) => stringFrom paired state (d :: seen) s
          | .ok (state, none) => stringFrom paired state seen s

def string (s : List Char) : Scan String :=
  (stringFrom true .plain [] s).map fun (cs, rest) => (String.ofList cs, rest)

def isDigit (c : Char) : Bool :=
  '0' ≤ c && c ≤ '9'

def digitValue (c : Char) : Nat :=
  c.toNat - '0'.toNat

structure Mantissa where
  digits : Nat
  exponent : Int

def wordLimit : Nat := UInt64.size

-- Takes the digits before the point. From the first that does not fit, all count as zeros.
def Mantissa.whole : Mantissa → List Char → Mantissa
  | m, [] => m
  | m, c :: rest =>
      let next := m.digits * 10 + digitValue c
      if next < wordLimit then whole { m with digits := next } rest
      else { m with exponent := m.exponent + (rest.length + 1 : Nat) }

-- Takes the digits behind the point, up to the first that does not fit.
def Mantissa.places : Mantissa → List Char → Mantissa
  | m, [] => m
  | m, c :: rest =>
      let next := m.digits * 10 + digitValue c
      if next < wordLimit then places { digits := next, exponent := m.exponent - 1 } rest else m

def powerOfTen (n : Nat) : Float :=
  Float.ofScientific 1 false n

def Mantissa.toFloat? (m : Mantissa) : Option Float :=
  let x := Float.ofNat m.digits
  if 0 ≤ m.exponent then
    if m.exponent ≤ 308 then
      let y := x * powerOfTen m.exponent.toNat
      if y.isInf then none else some y
    else if m.digits = 0 then some 0.0 else none
  else
    let places := (-m.exponent).toNat
    if places ≤ 308 then some (x / powerOfTen places)
    else if places ≤ 616 then some (x / powerOfTen 308 / powerOfTen (places - 308))
    else some 0.0

inductive Number where
  | whole (n : Int)
  | real (x : Float)

def Number.toFloat : Number → Float
  | .whole n => if n < 0 then - Float.ofNat n.natAbs else Float.ofNat n.toNat
  | .real x => x

def Number.ofMantissa (negative : Bool) (m : Mantissa) : Except Fault Number :=
  match m.toFloat? with
  | some x => .ok (.real (if negative then -x else x))
  | none => .error .malformed

def digits (s : List Char) : Scan (List Char) :=
  match s with
  | [] => .error .unfinished
  | c :: _ =>
      if isDigit c then .ok (s.takeWhile isDigit, s.dropWhile isDigit) else .error .malformed

def wholeDigits (s : List Char) : Scan (List Char) :=
  match s with
  | '0' :: c :: rest => if isDigit c then .error .malformed else .ok (['0'], c :: rest)
  | _ => digits s

def placeDigits (s : List Char) : Scan (List Char) :=
  match s with
  | '.' :: rest => digits rest
  | _ => .ok ([], s)

def isExponentMark (c : Char) : Bool :=
  c == 'e' || c == 'E'

def signed (s : List Char) : Bool × List Char :=
  match s with
  | '+' :: rest => (false, rest)
  | '-' :: rest => (true, rest)
  | _ => (false, s)

def decimalValue (cs : List Char) : Nat :=
  cs.foldl (fun n c => n * 10 + digitValue c) 0

def exponent (s : List Char) : Except Fault (Option Int × List Char) :=
  match s with
  | c :: rest =>
      if isExponentMark c then do
        let (negative, rest) := signed rest
        let (cs, rest) ← digits rest
        let n : Int := decimalValue cs
        return (some (if negative then -n else n), rest)
      else .ok (none, s)
  | [] => .ok (none, s)

-- A number whose sign was read. Whole numbers are kept exactly when they fit in 64 bits.
def number (negative : Bool) (s : List Char) : Except Fault (Number × List Char) := do
  let (whole, s) ← wholeDigits s
  let (places, s) ← placeDigits s
  let (power, s) ← exponent s
  let m := (Mantissa.whole ⟨0, 0⟩ whole).places places
  -- A zero with a minus sign is no whole number.
  if places.isEmpty && power.isNone && m.exponent == 0 then
    if !negative then return (.whole m.digits, s)
    else if 0 < m.digits && m.digits ≤ Nat.pow 2 63 then return (.whole (-(m.digits : Int)), s)
  let n ← Number.ofMantissa negative { m with exponent := m.exponent + power.getD 0 }
  return (n, s)

-- A number that nobody wants. A number is not told from its beginning here, so that one cut off
-- breaks the grammar.
def skipNumber (s : List Char) : Except Fault (List Char) :=
  let strict (r : Scan (List Char)) : Except Fault (List Char) :=
    match r with
    | .ok (_, rest) => .ok rest
    | .error _ => .error .malformed
  do
    let s ← strict (wholeDigits s)
    let s ← strict (placeDigits s)
    match s with
    | c :: rest => if isExponentMark c then strict (digits (signed rest).2) else return s
    | [] => return s

inductive Bracket where
  | array
  | object

inductive SkipState where
  | value
  | opened
  | name
  | done

def Bracket.isClosedBy : Bracket → Char → Bool
  | .array, c => c == ']'
  | .object, c => c == '\x7d'

def Bracket.next : Bracket → SkipState
  | .array => .value
  | .object => .name

def skipString (s : List Char) : Except Fault (List Char) :=
  (stringFrom false .plain [] s).map (·.2)

def skipName (s : List Char) : Except Fault (List Char) :=
  match skipSpace s with
  | '"' :: s => do
      match skipSpace (← skipString s) with
      | ':' :: s => .ok s
      | [] => .error .unfinished
      | _ => .error .malformed
  | [] => .error .unfinished
  | _ => .error .malformed

-- Brackets are kept in a list, so a value may nest to any depth.
def skipFrom : (fuel : Nat) → (enclosing : List Bracket) → SkipState → List Char →
    Except Fault (List Char)
  | 0, _, _, _ => .error .unfinished
  | _ + 1, [], .done, s => .ok s
  | fuel + 1, bracket :: outer, .done, s =>
      match skipSpace s with
      | [] => .error .unfinished
      | c :: rest =>
          if c = ',' then skipFrom fuel (bracket :: outer) bracket.next rest
          else if bracket.isClosedBy c then skipFrom fuel outer .done rest
          else .error .malformed
  | fuel + 1, bracket :: outer, .opened, s =>
      match skipSpace s with
      | [] => .error .unfinished
      | c :: rest =>
          if bracket.isClosedBy c then skipFrom fuel outer .done rest
          else skipFrom fuel (bracket :: outer) bracket.next (c :: rest)
  | fuel + 1, enclosing, .name, s => do
      skipFrom fuel enclosing .value (← skipName s)
  | fuel + 1, enclosing, _, s =>
      match skipSpace s with
      | [] => .error .unfinished
      | 'n' :: s => do skipFrom fuel enclosing .done (← word ['u', 'l', 'l'] s)
      | 't' :: s => do skipFrom fuel enclosing .done (← word ['r', 'u', 'e'] s)
      | 'f' :: s => do skipFrom fuel enclosing .done (← word ['a', 'l', 's', 'e'] s)
      | '"' :: s => do skipFrom fuel enclosing .done (← skipString s)
      | '[' :: s => skipFrom fuel (.array :: enclosing) .opened s
      | '\x7b' :: s => skipFrom fuel (.object :: enclosing) .opened s
      | '-' :: s => do skipFrom fuel enclosing .done (← skipNumber s)
      | c :: s =>
          if isDigit c then do skipFrom fuel enclosing .done (← skipNumber (c :: s))
          else .error .malformed

def skipValue (s : List Char) : Except Fault (List Char) :=
  skipFrom (2 * s.length + 2) [] .value s

end OncePerKey.Json
