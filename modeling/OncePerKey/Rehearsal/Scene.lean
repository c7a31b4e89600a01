import OncePerKey.Log.Render
import OncePerKey.Rehearsal.Task
import OncePerKey.Request.Guard

set_option autoImplicit false

namespace OncePerKey.Rehearsal

structure Scene (β : Type) where
  tally : Tally := {}
  counters : Counters := []
  log : List Log.Entry := []
  spans : List (Nat × Span) := []
  guards : List (Nat × LockToken) := []
  ran : List Nat := []
  issued : Nat := 0
  props : β

variable {β : Type}

namespace Scene

def write (s : Scene β) (at_ : Timestamp) (task : Nat) (what : Log.What) : Scene β :=
  { s with log := ⟨at_, s.spans.lookup task, what⟩ :: s.log }

def leave (s : Scene β) (at_ : Timestamp) (task : Nat) : Scene β :=
  match s.spans.lookup task with
  | none => s
  | some _ =>
      let s := s.write at_ task .spanClosed
      { s with spans := s.spans.filter (·.1 ≠ task) }

def note (s : Scene β) (at_ : Timestamp) (task : Nat) : Note → Scene β
  | .event e => s.write at_ task (.event e)
  | .enter span => { s with spans := (task, span) :: s.spans }
  | .leave => s.leave at_ task
  | .tick t => { s with tally := s.tally.count t }
  | .measure m => { s with counters := s.counters.record m }

def guardOf (s : Scene β) (task : Nat) : Option LockToken :=
  s.guards.lookup task

def setGuard (s : Scene β) (task : Nat) (guard : Option LockToken) : Scene β :=
  { s with guards := guard.toList.map (task, ·) ++ s.guards.filter (·.1 ≠ task) }

def runsOf (s : Scene β) (task : Nat) : Nat :=
  s.ran.count task

end Scene

def report (task : Nat) (n : Note) : Task (Scene β) Unit := do
  let at_ ← now
  change fun s => s.note at_ task n

def props : Task (Scene β) β := do
  return (← look).scene.props

def changeProps (f : β → β) : Task (Scene β) Unit :=
  change fun s => { s with props := f s.props }

def updateProps {α : Type} (f : β → α × β) : Task (Scene β) α :=
  update fun s =>
    let (a, props) := f s.props
    (a, { s with props })

def freshUuid : Task (Scene β) Uuid :=
  update fun s => (Uuid.ofSeed (s.issued + 1), { s with issued := s.issued + 1 })

structure Backend (β : Type) where
  lookup : Nat → CompositeKey → Task (Scene β) (Except Failure (Option Cached))
  write : Nat → CompositeKey → Cached → Task (Scene β) (Except Failure WriteOutcome)
  acquire : Nat → CompositeKey → Nat → Task (Scene β) (Except Failure (Option LockToken))
  release : Nat → LockToken → Task (Scene β) (Except Failure Bool)
  pause : Nat → Task (Scene β) Unit

namespace Backend

def call (b : Backend β) (task : Nat) (operate : Task (Scene β) (Except Failure Captured)) :
    (q : Ask) → Task (Scene β) q.Answer
  | .now => now
  | .sleep ms => b.pause ms
  | .lookup key => b.lookup task key
  | .write key response => b.write task key response
  | .acquire key lifetime => b.acquire task key lifetime
  | .release token => b.release task token
  | .operate => operate
  | .report n => report task n
  | .abort => crash

def answer (b : Backend β) (task : Nat) (operate : Task (Scene β) (Except Failure Captured))
    (q : Ask) : Task (Scene β) q.Answer := do
  change fun s => s.setGuard task (Request.guardDuring (s.guardOf task) q)
  let r ← b.call task operate q
  change fun s => s.setGuard task (Request.guardAfter (s.guardOf task) q r)
  return r

def handle {α : Type} (b : Backend β) (task : Nat)
    (operate : Task (Scene β) (Except Failure Captured)) (p : Handling α) : Task (Scene β) α :=
  p.interpret (b.answer task operate)

def clear (b : Backend β) (task : Nat) : Task (Scene β) Unit := do
  let at_ ← now
  change fun s => s.leave at_ task
  b.handle task crash (Request.dropped true ((← look).scene.guardOf task))

end Backend

structure Finished (α : Type) where
  result : α
  runs : Nat
  atMs : Int

def finishing {α : Type} (task : Nat) (t : Task (Scene β) α) : Task (Scene β) (Finished α) := do
  change fun s => { s with ran := s.ran.filter (· ≠ task) }
  let result ← t
  let stage ← look
  return ⟨result, stage.scene.runsOf task, stage.clock.atMs⟩

end OncePerKey.Rehearsal
