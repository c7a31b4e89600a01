import OncePerKey.Text.Blank
import OncePerKey.Time.Timestamp

set_option autoImplicit false

namespace OncePerKey.Rfc3339

def fixedDigits : (width : Nat) → Nat → List Char
  | 0, _ => []
  | width + 1, n => fixedDigits width (n / 10) ++ [Char.ofNat ('0'.toNat + n % 10)]

def paddedDigits (width n : Nat) : List Char :=
  if n < Nat.pow 10 width then fixedDigits width n else Nat.toDigits 10 n

def yearChars (year : Int) : List Char :=
  if 0 ≤ year && year ≤ 9999 then fixedDigits 4 year.toNat
  else if year < 0 then '-' :: paddedDigits 4 (-year).toNat
  else '+' :: paddedDigits 4 year.toNat

-- No fraction, or a point and three, six or nine digits: the fewest that are exact.
def fractionChars (nanos : Nat) : List Char :=
  if nanos = 0 then []
  else if nanos % 1000000 = 0 then '.' :: fixedDigits 3 (nanos / 1000000)
  else if nanos % 1000 = 0 then '.' :: fixedDigits 6 (nanos / 1000)
  else '.' :: fixedDigits 9 nanos

def dateChars (d : Date) : List Char :=
  yearChars d.year ++ '-' :: fixedDigits 2 d.month ++ '-' :: fixedDigits 2 d.day

def momentWith (fraction : Nat → List Char) (t : Timestamp) : List Char :=
  let date := Date.ofDays (t.seconds / 86400)
  let ofDay := (t.seconds % 86400).toNat
  let leap := t.nanos / nanosPerSecond
  dateChars date ++ 'T' :: fixedDigits 2 (ofDay / 3600) ++ ':' :: fixedDigits 2 (ofDay / 60 % 60)
    ++ ':' :: fixedDigits 2 (ofDay % 60 + leap) ++ fraction (t.nanos % nanosPerSecond)

def momentChars (t : Timestamp) : List Char :=
  momentWith fractionChars t

def render (t : Timestamp) : String :=
  String.ofList (momentChars t ++ ['Z'])

def renderMicros (t : Timestamp) : String :=
  String.ofList (momentWith (fun nanos => '.' :: fixedDigits 6 (nanos / 1000)) t ++ ['Z'])

def renderOffset (t : Timestamp) : String :=
  String.ofList (momentChars t ++ "+00:00".toList)

def isDigit (c : Char) : Bool :=
  '0' ≤ c && c ≤ '9'

def digitsValue (cs : List Char) : Nat :=
  cs.foldl (fun n c => n * 10 + (c.toNat - '0'.toNat)) 0

def number? (width : Nat) (s : List Char) : Option (Nat × List Char) :=
  let s := Text.trimStart Text.isBlank s
  let digits := (s.take width).takeWhile isDigit
  if digits.isEmpty then none else some (digitsValue digits, s.drop digits.length)

def longNumber? (s : List Char) : Option (Nat × List Char) :=
  let digits := s.takeWhile isDigit
  if digits.isEmpty then none else some (digitsValue digits, s.drop digits.length)

def year? (s : List Char) : Option (Int × List Char) :=
  match Text.trimStart Text.isBlank s with
  | '-' :: rest => (longNumber? rest).map fun (n, rest) => (-(n : Int), rest)
  | '+' :: rest => (longNumber? rest).map fun (n, rest) => ((n : Int), rest)
  | rest => (number? 4 rest).map fun (n, rest) => ((n : Int), rest)

def mark? (c : Char) (s : List Char) : Option (List Char) :=
  match Text.trimStart Text.isBlank s with
  | d :: rest => if d = c then some rest else none
  | [] => none

-- Reads a fraction of a second in nanoseconds. Digits beyond the ninth are read and dropped.
def fraction? (s : List Char) : Option (Nat × List Char) :=
  match s with
  | '.' :: rest =>
      let digits := rest.takeWhile isDigit
      if digits.isEmpty then none
      else
        let kept := digits.take 9
        some (digitsValue kept * Nat.pow 10 (9 - kept.length), rest.drop digits.length)
  | _ => some (0, s)

def twoDigits? : List Char → Option (Nat × List Char)
  | a :: b :: rest =>
      if isDigit a && isDigit b then some (digitsValue [a, b], rest) else none
  | _ => none

def offset? (s : List Char) : Option (Int × List Char) :=
  let signed (sign : Int) (rest : List Char) : Option (Int × List Char) := do
    let (hours, rest) ← twoDigits? rest
    let (minutes, rest) ← twoDigits? (rest.dropWhile fun c => c == ':' || Text.isBlank c)
    if 60 ≤ minutes then none
    else return (sign * (hours * 3600 + minutes * 60 : Nat), rest)
  match s with
  | 'Z' :: rest | 'z' :: rest => some (0, rest)
  | '+' :: rest => signed 1 rest
  | '-' :: rest | '\u2212' :: rest => signed (-1) rest
  | u :: t :: c :: rest =>
      if (u == 'U' || u == 'u') && (t == 'T' || t == 't') && (c == 'C' || c == 'c') then
        some (0, rest)
      else none
  | _ => none

def separator? : List Char → Option (List Char)
  | c :: rest => if c == 'T' || c == 't' || c == ' ' then some rest else none
  | [] => none

def dateYearOk (year : Int) : Bool :=
  Timestamp.firstYear ≤ year && year ≤ Timestamp.lastYear

def parseChars (s : List Char) : Option Timestamp := do
  let (year, s) ← year? s
  let (month, s) ← number? 2 (← mark? '-' s)
  let (day, s) ← number? 2 (← mark? '-' s)
  let (hour, s) ← number? 2 (← separator? s)
  let (minute, s) ← number? 2 (← mark? ':' s)
  let (second, s) ← number? 2 (← mark? ':' s)
  let (nanos, s) ← fraction? s
  let (offset, s) ← offset? (Text.trimStart Text.isBlank s)
  let date : Date := ⟨year, month, day⟩
  guard (dateYearOk year && decide date.Valid && hour < 24 && minute < 60 && second ≤ 60)
  guard (-86400 < offset && offset < 86400 && s.all Text.isBlank)
  -- Second 60 is kept as second 59 with another second of nanoseconds.
  let leap := if second = 60 then 1 else 0
  let ofDay : Nat := hour * 3600 + minute * 60 + (second - leap)
  Timestamp.make? (date.toDays * 86400 + ofDay - offset) (nanos + leap * nanosPerSecond)

def parse? (s : String) : Option Timestamp :=
  parseChars s.toList

end OncePerKey.Rfc3339
