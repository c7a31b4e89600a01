set_option autoImplicit false

namespace OncePerKey.Decimal

structure Scaled where
  digits : Nat
  exponent : Int
  deriving DecidableEq, Repr

-- A positive number `mantissa * 2 ^ exponent`, as a floating-point number holds it.
structure Binary where
  mantissa : Nat
  exponent : Int

def digitCount (n : Nat) : Nat :=
  if n = 0 then 0 else (Nat.toDigits 10 n).length

structure Ratio where
  num : Nat
  den : Nat

def Ratio.scale2 (r : Ratio) (e : Int) : Ratio :=
  if 0 ≤ e then ⟨r.num * Nat.pow 2 e.toNat, r.den⟩ else ⟨r.num, r.den * Nat.pow 2 (-e).toNat⟩

def Ratio.scale10 (r : Ratio) (e : Int) : Ratio :=
  if 0 ≤ e then ⟨r.num * Nat.pow 10 e.toNat, r.den⟩ else ⟨r.num, r.den * Nat.pow 10 (-e).toNat⟩

def Ratio.le (a b : Ratio) : Bool :=
  a.num * b.den ≤ b.num * a.den

def Ratio.lt (a b : Ratio) : Bool :=
  a.num * b.den < b.num * a.den

def Ratio.magnitude (r : Ratio) : Int :=
  if r.den ≤ r.num then digitCount (r.num / r.den) - 1
  else - (digitCount ((r.den + r.num - 1) / r.num - 1) : Int)

-- A number is read back from what lies between the middles to its two neighbours, the middles included when
-- its mantissa is even.
structure Rounding where
  value : Ratio
  low : Ratio
  high : Ratio
  closed : Bool

-- Below a power of two the neighbour is half as far away, except at the smallest exponent.
def Binary.rounding (b : Binary) : Rounding :=
  let quarters (n : Nat) : Ratio := Ratio.scale2 ⟨n, 4⟩ b.exponent
  let narrow := b.mantissa = Nat.pow 2 52 && b.exponent > -1074
  -- In quarters, both middles are whole numbers.
  { value := Ratio.scale2 ⟨b.mantissa, 1⟩ b.exponent
    low := quarters (if narrow then 4 * b.mantissa - 1 else 4 * b.mantissa - 2)
    high := quarters (4 * b.mantissa + 2)
    closed := b.mantissa % 2 = 0 }

def Rounding.holds (r : Rounding) (x : Ratio) : Bool :=
  if r.closed then r.low.le x && x.le r.high else r.low.lt x && x.lt r.high

def Scaled.toRatio (s : Scaled) : Ratio :=
  Ratio.scale10 ⟨s.digits, 1⟩ s.exponent

-- Of the neighbours on the grid of `10 ^ e` that read back the nearer, and of two as near the even one.
def Rounding.onGrid (r : Rounding) (e : Int) : Option Scaled :=
  let scaled := r.value.scale10 (-e)
  let below := scaled.num / scaled.den
  let rest := scaled.num % scaled.den
  let lower : Scaled := ⟨below, e⟩
  let upper : Scaled := ⟨below + 1, e⟩
  match r.holds lower.toRatio, r.holds upper.toRatio with
  | true, true =>
      if 2 * rest < scaled.den then some lower
      else if scaled.den < 2 * rest then some upper
      else if below % 2 = 0 then some lower else some upper
  | true, false => some lower
  | false, true => some upper
  | false, false => none

def Rounding.search (r : Rounding) (magnitude : Int) : (left digits : Nat) → Scaled
  | 0, _ => ⟨r.value.num / r.value.den, 0⟩
  | left + 1, digits =>
      match r.onGrid (magnitude + 1 - digits) with
      | some s => s
      | none => search r magnitude left (digits + 1)

def Scaled.trim : (fuel : Nat) → Scaled → Scaled
  | 0, s => s
  | fuel + 1, s =>
      if s.digits % 10 = 0 && s.digits != 0 then trim fuel ⟨s.digits / 10, s.exponent + 1⟩ else s

def Binary.shortest (b : Binary) : Scaled :=
  let r := b.rounding
  (r.search r.value.magnitude 17 1).trim 20

inductive Parts where
  | zero
  | finite (b : Binary)
  | infinite
  | notANumber

def parts (bits : UInt64) : Parts :=
  let n := bits.toNat
  let fraction : Nat := n % Nat.pow 2 52
  let biased : Nat := n / Nat.pow 2 52 % Nat.pow 2 11
  if biased = 2047 then if fraction = 0 then .infinite else .notANumber
  else if biased = 0 then if fraction = 0 then .zero else .finite ⟨fraction, -1074⟩
  else .finite ⟨Nat.pow 2 52 + fraction, (biased : Int) - 1075⟩

def isNegative (bits : UInt64) : Bool :=
  Nat.pow 2 63 ≤ bits.toNat

structure Layout where
  positionalFrom : Int
  positionalTo : Int
  wholeEnd : String
  exponentSign : String
  zero : String
  infinite : String
  notANumber : String

def digitText (n : Nat) : List Char :=
  Nat.toDigits 10 n

def zeros (n : Nat) : List Char :=
  List.replicate n '0'

def Layout.positional (l : Layout) (s : Scaled) : List Char :=
  let text := digitText s.digits
  if 0 ≤ s.exponent then text ++ zeros s.exponent.toNat ++ l.wholeEnd.toList
  else
    let places := (-s.exponent).toNat
    if places < text.length then
      text.take (text.length - places) ++ '.' :: text.drop (text.length - places)
    else '0' :: '.' :: (zeros (places - text.length) ++ text)

def Layout.scientific (l : Layout) (s : Scaled) (k : Int) : List Char :=
  let text := digitText s.digits
  let rest := text.drop 1
  let exponent := if 0 ≤ k then l.exponentSign.toList ++ digitText k.toNat
    else '-' :: digitText (-k).toNat
  text.take 1 ++ (if rest.isEmpty then [] else '.' :: rest) ++ 'e' :: exponent

def Layout.finite (l : Layout) (s : Scaled) : List Char :=
  let k := s.exponent + digitCount s.digits - 1
  if l.positionalFrom ≤ k && k < l.positionalTo then l.positional s else l.scientific s k

def Layout.text (l : Layout) (x : Float) : String :=
  let bits := x.toBits
  let signed (s : List Char) : String := String.ofList (if isNegative bits then '-' :: s else s)
  match parts bits with
  | .zero => signed l.zero.toList
  | .finite b => signed (l.finite b.shortest)
  | .infinite => signed l.infinite.toList
  | .notANumber => l.notANumber

def plain : Layout :=
  { positionalFrom := -400, positionalTo := 400, wholeEnd := "", exponentSign := ""
    zero := "0", infinite := "inf", notANumber := "NaN" }

def pointed : Layout :=
  { plain with wholeEnd := ".0", zero := "0.0", infinite := "inf.0", notANumber := "NaN.0" }

end OncePerKey.Decimal
