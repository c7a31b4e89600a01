import OncePerKey.Rehearsal.Scene
import OncePerKey.Sweep

set_option autoImplicit false

namespace OncePerKey.Rehearsal

variable {β : Type}

def sweeping {α : Type} (deleteExpired : Timestamp → Int64 → Task (Scene β) (Except Failure UInt64))
    (wait : Task (Scene β) Sweep.Wake) (p : Sweep.Sweeping α) : Task (Scene β) α :=
  let answer : (q : Sweep.Ask) → Task (Scene β) q.Answer
    | .now => now
    | .deleteExpired at_ limit => deleteExpired at_ limit
    | .wait => wait
    | .report n => report 0 n
    | .abort => crash
  p.interpret answer

def sweepOnce (settings : SweepSettings)
    (deleteExpired : Timestamp → Int64 → Task (Scene β) (Except Failure UInt64)) :
    Task (Scene β) (Except Failure UInt64) :=
  sweeping deleteExpired crash (Sweep.sweep settings)

inductive BatchLine where
  | deletes (count : UInt64) (delayMs : Nat)
  | fails (detail : String)

structure BatchCall where
  atMs : Int
  now : Timestamp
  limit : Int64
  line : Nat

structure Signal where
  atMs : Int
  stop : Bool

def signalsOf : List (Int × Option Bool) → List Signal
  | [] => []
  | (atMs, some stop) :: rest => ⟨atMs, stop⟩ :: signalsOf rest
  | (atMs, none) :: rest => ⟨atMs, true⟩ :: (rest.getLast?.map fun last => ⟨last.1, true⟩).toList

structure Watch where
  script : List BatchLine
  calls : List BatchCall := []
  signals : List Signal := []
  interval : Nat := 0
  nextTick : Int := 0

namespace Watch

def slackMs : Int := 5

-- After a late tick the interval begins anew.
def afterTick (w : Watch) (atMs : Int) : Watch :=
  let from_ := if w.nextTick + slackMs < atMs then atMs else w.nextTick
  { w with nextTick := from_ + w.interval }

def nextMoment (w : Watch) : Int :=
  match w.signals with
  | [] => w.nextTick
  | signal :: _ => min w.nextTick signal.atMs

def wake (w : Watch) (atMs : Int) : Sweep.Wake × Watch :=
  if w.nextTick ≤ atMs then (.tick, w.afterTick atMs)
  else
    let (due, later) := w.signals.span (·.atMs ≤ atMs)
    match due.getLast? with
    | some signal => (.told signal.stop, { w with signals := later })
    | none => (.told false, w)

end Watch

abbrev Watching (α : Type) := Task (Scene Watch) α

def deleteScripted (now : Timestamp) (limit : Int64) : Watching (Except Failure UInt64) := do
  let atMs := (← look).clock.atMs
  let line ← updateProps fun w =>
    let line := (w.calls.head?.map (·.line + 1)).getD 0
    let call : BatchCall := { atMs, now, limit, line }
    (w.script.head?, { w with script := w.script.tail, calls := call :: w.calls })
  match line with
  | some (.deletes count delayMs) =>
      if delayMs > 0 then sleep delayMs
      return .ok count
  | some (.fails detail) => return .error (.storeUnavailable (.backend detail))
  | none => return .ok 0

def waitForWake : Watching Sweep.Wake := do
  let stage ← look
  sleep (stage.scene.props.nextMoment - stage.clock.nextTick).toNat
  let atMs := (← look).clock.atMs
  updateProps (·.wake atMs)

inductive Attendance where
  | stopped
  | crashed
  | running
  deriving DecidableEq, Repr

def attend (settings : SweepSettings) (signals : List Signal) (thenMs : Nat)
    (s : Stage (Scene Watch)) : Attendance × Int × Stage (Scene Watch) :=
  let told := (signals.getLast?.map (·.atMs)).getD 0
  let horizon := told + thenMs
  let props := { s.scene.props with signals, interval := settings.intervalMs }
  let s := { s with scene := { s.scene with props } }
  let rounds := horizon.toNat + signals.length + 1
  let task : Watching (Finished Bool) :=
    finishing 0 (sweeping deleteScripted waitForWake (Sweep.serve settings rounds))
  let (endings, s) := together (fun _ => .done ()) [(task, some horizon.toNat)] s
  match endings with
  | [.done ⟨true, _, atMs⟩] => (.stopped, max told atMs, s)
  | [.crashed] => (.crashed, told, s)
  | _ => (.running, horizon, s)

end OncePerKey.Rehearsal
