import OncePerKey.Time.Timestamp

set_option autoImplicit false

namespace OncePerKey.Rehearsal

def nanosPerMilli : Nat := 1000000

structure Clock where
  start : Timestamp
  elapsed : Int := 0

namespace Clock

def now? (c : Clock) : Option Timestamp :=
  c.start.plus? c.elapsed

def atMs (c : Clock) : Int :=
  c.elapsed / nanosPerMilli

def advance (c : Clock) (nanos : Int) : Clock :=
  { c with elapsed := c.elapsed + nanos }

def nextTick (c : Clock) : Int :=
  -((-c.elapsed) / nanosPerMilli)

def timer (c : Clock) (ms : Nat) : Int :=
  c.nextTick + ms

def isDue (c : Clock) (tick : Int) : Bool :=
  tick * nanosPerMilli ≤ c.elapsed

def jumpTo (c : Clock) (tick : Int) : Clock :=
  if c.atMs < tick then c.advance ((tick - c.atMs) * nanosPerMilli) else c

end Clock

end OncePerKey.Rehearsal
