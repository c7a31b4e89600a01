set_option autoImplicit false

namespace OncePerKey

inductive Json where
  | null
  | bool (b : Bool)
  | int (n : Int)
  | float (x : Float)
  | str (s : String)
  | arr (items : List Json)
  | obj (members : List (String × Json))
  deriving Inhabited

namespace Json

def get (j : Json) (name : String) : Json :=
  match j with
  | .obj members => (members.lookup name).getD .null
  | _ => .null

def isNull : Json → Bool
  | .null => true
  | _ => false

def text? : Json → Option String
  | .str s => some s
  | _ => none

def int? : Json → Option Int
  | .int n => some n
  | _ => none

def bool? : Json → Option Bool
  | .bool b => some b
  | _ => none

def items : Json → List Json
  | .arr items => items
  | _ => []

def members : Json → List (String × Json)
  | .obj members => members
  | _ => []

def float? : Json → Option Float
  | .float x => some x
  | .int n => some (if n < 0 then - Float.ofNat n.natAbs else Float.ofNat n.toNat)
  | _ => none

def ofOption {α : Type} (f : α → Json) : Option α → Json
  | none => .null
  | some a => f a

def ofNat (n : Nat) : Json := .int n

end Json

end OncePerKey
