import OncePerKey.Time.Calendar

set_option autoImplicit false

namespace OncePerKey

def nanosPerSecond : Nat := 1000000000

def longestLapse : Int := Int64.maxValue.toInt * 1000000

def lapse? (nanos : Int) : Option Int :=
  if -longestLapse ≤ nanos && nanos ≤ longestLapse then some nanos else none

namespace Timestamp

def firstYear : Int := -262143

def lastYear : Int := 262142

def firstSecond : Int := (Date.mk firstYear 1 1).toDays * 86400

def lastSecond : Int := (Date.mk (lastYear + 1) 1 1).toDays * 86400 - 1

-- Any second may be followed by a leap second, whose nanoseconds are those beyond the second.
def Fits (seconds : Int) (nanos : Nat) : Prop :=
  firstSecond ≤ seconds ∧ seconds ≤ lastSecond ∧ nanos < 2000000000

instance (seconds : Int) (nanos : Nat) : Decidable (Fits seconds nanos) :=
  inferInstanceAs (Decidable (_ ∧ _ ∧ _))

end Timestamp

structure Timestamp where
  seconds : Int
  nanos : Nat
  fits : Timestamp.Fits seconds nanos
  deriving DecidableEq

namespace Timestamp

def epoch : Timestamp := ⟨0, 0, by decide⟩

instance : Inhabited Timestamp := ⟨epoch⟩

def make? (seconds : Int) (nanos : Nat) : Option Timestamp :=
  if h : Fits seconds nanos then some ⟨seconds, nanos, h⟩ else none

def ofNanos? (n : Int) : Option Timestamp :=
  make? (n / nanosPerSecond) (n % nanosPerSecond).toNat

def toNanos (t : Timestamp) : Int :=
  t.seconds * nanosPerSecond + t.nanos

-- Time that is spent in a leap second counts, and whoever leaves it forwards comes to the second behind it.
def plus? (t : Timestamp) (d : Int) : Option Timestamp :=
  if t.nanos < nanosPerSecond ∨ d ≤ -nanosPerSecond then ofNanos? (t.toNanos + d)
  else if t.nanos + d < 2 * nanosPerSecond then make? t.seconds (t.nanos + d).toNat
  else ofNanos? (t.toNanos + d - nanosPerSecond)

-- Only the times of the day decide which of two moments comes later.
def leapBetween (t u : Timestamp) : Int :=
  if u.seconds % 86400 < t.seconds % 86400 ∧ nanosPerSecond ≤ u.nanos then nanosPerSecond
  else if t.seconds % 86400 < u.seconds % 86400 ∧ nanosPerSecond ≤ t.nanos then -nanosPerSecond
  else 0

def since (t u : Timestamp) : Int :=
  t.toNanos - u.toNanos + leapBetween t u

def before (t u : Timestamp) : Bool :=
  t.seconds < u.seconds || (t.seconds == u.seconds && t.nanos < u.nanos)

end Timestamp

end OncePerKey
