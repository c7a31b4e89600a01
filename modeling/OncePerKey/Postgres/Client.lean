import OncePerKey.Observe.Event
import OncePerKey.Postgres.Table
import OncePerKey.Program

set_option autoImplicit false

namespace OncePerKey.Postgres

inductive Ask where
  | now
  | newId
  | execute (s : Statement)
  | report (note : Note)

def Ask.Answer : Ask → Type
  | .now => Timestamp
  | .newId => Uuid
  | .execute _ => Reply
  | .report _ => Unit

abbrev Talking (α : Type) := Program Ask Ask.Answer α

def Talking.ask (q : Ask) : Talking q.Answer :=
  Program.perform q

def log (level : Level) (message : String) (fields : List (String × FieldValue)) : Talking Unit :=
  Talking.ask (.report (.log level .storage message fields))

def backend : String := "postgres"

def Reply.row? : Reply → Except Refusal (Option Row)
  | .found row => .ok (some row)
  | .count _ => .ok none
  | .refused r => .error r

def Reply.affected : Reply → Except Refusal Nat
  | .found _ => .ok 1
  | .count n => .ok n
  | .refused r => .error r

def find (key : CompositeKey) : Talking (Except Failure (Option Row)) := do
  return (Reply.row? (← Talking.ask (.execute (.select key)))).mapError Refusal.toFailure

def lookup (key : CompositeKey) : Talking (Except Failure (Option Cached)) := do
  match ← find key with
  | .error failure => return .error failure
  | .ok none => return .ok none
  | .ok (some row) =>
      match row.response with
      | .error failure => return .error failure
      | .ok response =>
          let now ← Talking.ask .now
          return .ok (if response.isLiveAt now then some response else none)

def settle (key : CompositeKey) : Talking (Except Failure (Option Cached)) := do
  -- The clock is read first, so the row may be younger than this moment.
  let now ← Talking.ask .now
  match ← find key with
  | .error failure => return .error failure
  | .ok none => return .ok none
  | .ok (some row) =>
      match row.response with
      | .error failure => return .error failure
      | .ok existing =>
          if existing.isLiveAt now then return .ok (some existing)
          else
            let statement := Statement.deleteStale row.id (inMicros now)
            match Reply.affected (← Talking.ask (.execute statement)) with
            | .error refusal => return .error refusal.toFailure
            | .ok deleted =>
                if 0 < deleted then
                  log .debug "Removed expired row ahead of sweep" [("key", .shown key.shown)]
                return .ok none

def maxWriteAttempts : Nat := 3

def writeAttempts (key : CompositeKey) (response : Cached) :
    (left attempt : Nat) → Talking (Except Failure WriteOutcome)
  | 0, _ => return .error (.storeUnavailable (.backend
      s!"write for {key.shown} did not settle after {maxWriteAttempts} attempts"))
  | left + 1, attempt => do
      let id ← Talking.ask .newId
      match Reply.affected (← Talking.ask (.execute (.insert (.ofResponse id key response)))) with
      | .ok _ => return .ok .written
      | .error refusal =>
          if !refusal.isUniqueViolation then return .error refusal.toFailure
          else
            log .debug "Unique constraint hit, reading existing response"
              [("key", .shown key.shown), ("attempt", .number attempt)]
            match ← settle key with
            | .error failure => return .error failure
            | .ok (some existing) => return .ok (.alreadyExists existing)
            | .ok none => writeAttempts key response left (attempt + 1)

def write (key : CompositeKey) (response : Cached) : Talking (Except Failure WriteOutcome) :=
  writeAttempts key response maxWriteAttempts 1

def observed {α : Type} (operation : String) (t : Talking (Except Failure α)) :
    Talking (Except Failure α) := do
  let result ← t
  let () ← Talking.ask (.report (.measure (.storeOperation backend operation result.isOk)))
  return result

def get (key : CompositeKey) : Talking (Except Failure (Option Cached)) :=
  observed "try_get" (lookup key)

def set (key : CompositeKey) (response : Cached) : Talking (Except Failure WriteOutcome) :=
  observed "try_set" (write key response)

def deleteExpired (now : Timestamp) (limit : Int64) : Talking (Except Failure UInt64) :=
  observed "sweep" do
    return match Reply.affected (← Talking.ask (.execute (.sweep (inMicros now) limit.toInt))) with
      | .ok n => .ok (.ofNat n)
      | .error refusal => .error refusal.toFailure

def ping : Talking (Except String Unit) := do
  match Reply.affected (← Talking.ask (.execute .ping)) with
  | .ok 0 => return .error noRow
  | .ok _ => return .ok ()
  | .error refusal => return .error refusal.message

end OncePerKey.Postgres
