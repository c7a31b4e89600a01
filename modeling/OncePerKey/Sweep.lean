import OncePerKey.Failure
import OncePerKey.Observe.Event
import OncePerKey.Program
import OncePerKey.Settings.Basic
import OncePerKey.Time.Timestamp

set_option autoImplicit false

namespace OncePerKey.Sweep

inductive Wake where
  | tick
  | told (stop : Bool)
  deriving DecidableEq, Repr

inductive Ask where
  | now
  | deleteExpired (now : Timestamp) (limit : Int64)
  | wait
  | report (note : Note)
  | abort

def Ask.Answer : Ask → Type
  | .now => Timestamp
  | .deleteExpired _ _ => Except Failure UInt64
  | .wait => Wake
  | .report _ => Unit
  | .abort => Empty

abbrev Sweeping (α : Type) := Program Ask Ask.Answer α

def Sweeping.ask (q : Ask) : Sweeping q.Answer :=
  Program.perform q

def batches (settings : SweepSettings) :
    (left : Nat) → (total : UInt64) → Sweeping (Except Failure UInt64)
  | 0, total => return .ok total
  | left + 1, total => do
      let now ← Sweeping.ask .now
      match ← Sweeping.ask (.deleteExpired now settings.batchSize) with
      | .error failure => return .error failure
      | .ok deleted =>
          let total : UInt64 := total + deleted
          -- A short batch took all that was left.
          if deleted < settings.batchSize.toUInt64 then return .ok total
          else batches settings left total

-- One sweep. What it deleted is measured when no batch failed.
def sweep (settings : SweepSettings) : Sweeping (Except Failure UInt64) := do
  match ← batches settings settings.maxBatchesPerSweep.toNat 0 with
  | .error failure => return .error failure
  | .ok total =>
      let () ← Sweeping.ask (.report (.measure (.sweep total)))
      return .ok total

def log (level : Level) (message : String) : Sweeping Unit :=
  Sweeping.ask (.report (.log level .sweeper message))

def sweepAndLog (settings : SweepSettings) : Sweeping Unit := do
  match ← sweep settings with
  | .ok 0 => return ()
  | .ok total => log .info s!"Swept {total.toNat} expired idempotency responses"
  | .error failure =>
      log .error ("Failed to sweep expired idempotency responses: " ++ failure.message)

def attend (settings : SweepSettings) : (rounds : Nat) → Sweeping Bool
  | 0 => return false
  | rounds + 1 => do
      match ← Sweeping.ask .wait with
      | .tick =>
          sweepAndLog settings
          attend settings rounds
      | .told false => attend settings rounds
      | .told true =>
          log .info "Expiration sweeper stopping"
          return true

-- The background task. There are no ticks without an interval between them.
def serve (settings : SweepSettings) (rounds : Nat) : Sweeping Bool :=
  if settings.intervalSecs = 0 then do nomatch ← Sweeping.ask .abort
  else attend settings rounds

end OncePerKey.Sweep
