import OncePerKey.Decimal.Shortest
import OncePerKey.Json.Value
import OncePerKey.Text.LowerCase
import OncePerKey.Text.Quoted

set_option autoImplicit false

namespace OncePerKey.Settings

inductive Tree where
  | leaf (origin : Option String) (value : Json)
  | table (members : List (String × Tree))
  deriving Inhabited

-- A file has whole numbers of 63 bits and a sign, and keeps a larger one as the nearest floating-point
-- number.
def keep (origin : Option String) : Json → Json
  | .int n =>
      if origin.isSome && Int64.maxValue.toInt < n then .float (Float.ofNat n.toNat) else .int n
  | j => j

mutual

def Tree.ofJson (origin : Option String) : Json → Tree
  | .obj members => .table (Tree.ofMembers origin members)
  | j => .leaf origin (keep origin j)

def Tree.ofMembers (origin : Option String) : List (String × Json) → List (String × Tree)
  | [] => []
  | (name, j) :: rest => (name, Tree.ofJson origin j) :: Tree.ofMembers origin rest

end

inductive Step where
  | member (name : String)
  | item (place : Nat)
  deriving DecidableEq

inductive Fault where
  | wrongType (found wanted : String) (path : List Step) (origin : Option String)
  | notSection (found type : String)
  | tooShort (length : Nat) (type : String) (size : Nat)
  | unknownVariant (type variant : String)
  | notVariant (type : String)
  | missing (field : String)
  | unreadable
  deriving DecidableEq

def Step.text : Step → String
  | .member name => "." ++ name
  | .item place => "[" ++ toString place ++ "]"

-- A path starts with a name, which has no dot before it.
def pathText : List Step → String
  | .member name :: rest => name ++ String.join (rest.map Step.text)
  | path => String.join (path.map Step.text)

def Fault.message? : Fault → Option String
  | .wrongType found wanted path origin =>
      let place := if path.isEmpty then "" else " for key `" ++ pathText path ++ "`"
      let source := (origin.map fun o => " in " ++ o).getD ""
      some ("invalid type: " ++ found ++ ", expected " ++ wanted ++ place ++ source)
  | .notSection found type => some ("invalid type: " ++ found ++ ", expected struct " ++ type)
  | .tooShort length type size =>
      some ("invalid length " ++ toString length ++ ", expected struct " ++ type ++ " with "
        ++ toString size ++ (if size = 1 then " element" else " elements"))
  | .unknownVariant type variant =>
      some ("enum " ++ type ++ " does not have variant constructor " ++ variant)
  | .notVariant type =>
      some ("value of enum " ++ type
        ++ " should be represented by either string or table with exactly one key")
  | .missing field => some ("missing field `" ++ field ++ "`")
  | .unreadable => none

def Fault.under (step : Step) : Fault → Fault
  | .wrongType found wanted path origin => .wrongType found wanted (step :: path) origin
  | f => f

structure Rules where
  -- A list may have more values than the section that it stands for.
  longLists : Bool
  flag : Tree → Except Fault Bool
  natural : (bits : Nat) → Tree → Except Fault Nat
  integer : Tree → Except Fault Int
  text : Tree → Except Fault String
  choice : (type : String) → (names : List String) → Tree → Except Fault Nat

def Tree.found : Tree → String
  | .table _ => "map"
  | .leaf _ value =>
      match value with
      | .null => "unit value"
      | .bool b => "boolean `" ++ toString b ++ "`"
      | .int n => "64-bit integer `" ++ toString n ++ "`"
      | .float x => "floating point `" ++ Decimal.plain.text x ++ "`"
      | .str s => "string " ++ Text.quoteText s
      | .arr _ => "sequence"
      | .obj _ => "map"

def Tree.origin : Tree → Option String
  | .leaf origin _ => origin
  | .table _ => none

def Tree.wrongType (t : Tree) (wanted : String) : Fault :=
  .wrongType t.found wanted [] t.origin

def strictNatural (bits : Nat) (t : Tree) : Except Fault Nat :=
  match t with
  | .leaf _ (.int n) =>
      if 0 ≤ n && n < Nat.pow 2 bits then .ok n.toNat else .error (t.wrongType "an integer")
  | t => .error (t.wrongType "an integer")

def strictInteger (t : Tree) : Except Fault Int :=
  match t with
  | .leaf _ (.int n) =>
      if Int64.minValue.toInt ≤ n && n ≤ Int64.maxValue.toInt then .ok n
      else .error (t.wrongType "an integer")
  | t => .error (t.wrongType "an integer")

def strictChoice (type : String) (names : List String) (t : Tree) : Except Fault Nat :=
  let find (name : String) : Except Fault Nat :=
    match names.idxOf? name with
    | some i => .ok i
    | none => .error (.unknownVariant type name)
  match t with
  | .leaf _ (.str name) => find name
  | .table [(name, .leaf _ .null)] => find name
  | _ => .error (.notVariant type)

def strict : Rules where
  longLists := false
  flag
    | .leaf _ (.bool b) => .ok b
    | t => .error (t.wrongType "a boolean")
  natural := strictNatural
  integer := strictInteger
  text
    | .leaf _ (.str s) => .ok s
    | t => .error (t.wrongType "a string")
  choice := strictChoice

def decimal? (s : String) : Option Int :=
  let digits (cs : List Char) : Option Nat :=
    if cs.isEmpty || !cs.all Char.isDigit then none
    else some (cs.foldl (fun n c => n * 10 + (c.toNat - '0'.toNat)) 0)
  match s.toList with
  | '+' :: cs => (digits cs).map fun n => n
  | '-' :: cs => (digits cs).map fun n => -(n : Int)
  | cs => (digits cs).map fun n => n

def hasMinus (s : String) : Bool :=
  s.toList.head? == some '-'

-- The nearest whole number, a half away from zero, kept within the limits.
def roundWithin (low high : Int) (x : Float) : Int :=
  let nearest := x.abs.round
  let magnitude : Int :=
    match Decimal.parts nearest.toBits with
    | .finite b =>
        if 0 ≤ b.exponent then b.mantissa * Nat.pow 2 b.exponent.toNat
        else b.mantissa / Nat.pow 2 (-b.exponent).toNat
    | .infinite => high
    | _ => 0
  max low (min high (if x < 0 then -magnitude else magnitude))

def lenientWhole (low high : Int) (t : Tree) : Except Fault Int :=
  match t with
  | .leaf _ (.int n) =>
      if low ≤ n && n ≤ high then .ok n
      else .error (t.wrongType "an unsigned 64 bit or less integer")
  | .leaf _ (.bool b) => .ok (if b then 1 else 0)
  | .leaf _ (.float x) => .ok (roundWithin low high x)
  | .leaf _ (.str s) =>
      let word := Text.lower s
      if ["true", "on", "yes"].contains word then .ok 1
      else if ["false", "off", "no"].contains word then .ok 0
      else match decimal? s with
        | some n =>
            -- Where no number is negative, there is no minus sign, even before a zero.
            if low ≤ n && n ≤ high && !(low == 0 && hasMinus s) then .ok n
            else .error (t.wrongType "an integer")
        | none => .error (t.wrongType "an integer")
  | t => .error (t.wrongType "an integer")

-- A natural number of at most 64 bits, which must then fit in the bits of its field.
def lenientNatural (bits : Nat) (t : Tree) : Except Fault Nat := do
  let n ← lenientWhole 0 (UInt64.size - 1) t
  if n < Nat.pow 2 bits then return n.toNat
  else
    throw (.wrongType ("64-bit unsigned integer `" ++ toString n ++ "`")
      ("an unsigned " ++ toString bits ++ " bit integer") [] none)

def lenientFlag (t : Tree) : Except Fault Bool :=
  match t with
  | .leaf _ (.bool b) => .ok b
  | .leaf _ (.int n) => .ok (n != 0)
  | .leaf _ (.float x) => .ok (x != 0)
  | .leaf origin (.str s) =>
      let word := Text.lower s
      if ["1", "true", "on", "yes"].contains word then .ok true
      else if ["0", "false", "off", "no"].contains word then .ok false
      else .error ((Tree.leaf origin (.str word)).wrongType "a boolean")
  | t => .error (t.wrongType "a boolean")

def lenientText (t : Tree) : Except Fault String :=
  match t with
  | .leaf _ (.str s) => .ok s
  | .leaf _ (.bool b) => .ok (toString b)
  | .leaf _ (.int n) => .ok (toString n)
  | .leaf _ (.float x) => .ok (Decimal.plain.text x)
  | t => .error (t.wrongType "a string")

def lenientChoice (type : String) (names : List String) (t : Tree) : Except Fault Nat :=
  let find (name : String) : Except Fault Nat :=
    match names.findIdx? fun n => Text.lower n == Text.lower name with
    | some i => .ok i
    | none => .error (.unknownVariant type name)
  match t with
  | .leaf _ (.str name) => find name
  | .table [(name, _)] => find name
  | _ => .error (.notVariant type)

def lenient : Rules where
  longLists := true
  flag := lenientFlag
  natural := lenientNatural
  integer := lenientWhole Int64.minValue.toInt Int64.maxValue.toInt
  text := lenientText
  choice := lenientChoice

end OncePerKey.Settings
