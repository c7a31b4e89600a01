import OncePerKey.Lock.Token
import OncePerKey.Observe.Event
import OncePerKey.Program
import OncePerKey.Redis.Server
import OncePerKey.Response.Basic

set_option autoImplicit false

namespace OncePerKey.Redis

inductive Ask where
  | now
  | newHolder
  | connect
  | send (c : Command)
  | report (note : Note)

def Ask.Answer : Ask → Type
  | .now => Timestamp
  | .newHolder => Uuid
  | .connect => Except Fault Unit
  | .send _ => Reply
  | .report _ => Unit

abbrev Talking (α : Type) := Program Ask Ask.Answer α

def Talking.ask (q : Ask) : Talking q.Answer :=
  Program.perform q

def log (level : Level) (message : String) (fields : List (String × FieldValue)) : Talking Unit :=
  Talking.ask (.report (.log level .storage message fields))

def backend : String := "redis"

def responseName (space : String) (key : CompositeKey) : String :=
  space ++ ":response:" ++ key.storageKey

def lockName (space : String) (key : CompositeKey) : String :=
  space ++ ":lock:" ++ key.storageKey

-- What is no response is deleted, and counts as absent.
def read (name : String) : Talking (Except Fault (Option Cached)) := do
  match Reply.text? (← Talking.ask (.send (.get name))) with
  | .error fault => return .error fault
  | .ok none => return .ok none
  | .ok (some text) =>
      match Cached.codec.parse text with
      | .ok response => return .ok (some response)
      | .error _ =>
          -- Others may write between the two commands; the name is deleted all the same.
          log .warn "Discarding undecodable cached response" [("key", .shown name)]
          match Reply.number? (← Talking.ask (.send (.del name))) with
          | .error fault => return .error fault
          | .ok _ => return .ok none

def lookup (space : String) (key : CompositeKey) : Talking (Except Failure (Option Cached)) := do
  match ← Talking.ask .connect with
  | .error fault => return .error fault.toFailure
  | .ok () =>
      match ← read (responseName space key) with
      | .error fault => return .error fault.toFailure
      | .ok none => return .ok none
      | .ok (some response) =>
          let now ← Talking.ask .now
          return .ok (if response.isLiveAt now then some response else none)

def maxWriteAttempts : Nat := 3

-- The response that is there may vanish before it is read. Then the write is tried again.
def writeAttempts (name : String) (key : CompositeKey) (text : String) (px : Nat) :
    (left attempt : Nat) → Talking (Except Failure WriteOutcome)
  | 0, _ => return .error (.storeUnavailable (.backend
      s!"write for {key.shown} did not settle after {maxWriteAttempts} attempts"))
  | left + 1, attempt => do
      match Reply.text? (← Talking.ask (.send (.setAbsent name text px))) with
      | .error fault => return .error fault.toFailure
      | .ok (some _) => return .ok .written
      | .ok none =>
          match ← read name with
          | .error fault => return .error fault.toFailure
          | .ok (some existing) => return .ok (.alreadyExists existing)
          | .ok none =>
              log .debug "Existing entry vanished before re-read, retrying"
                [("key", .shown key.shown), ("attempt", .number attempt)]
              writeAttempts name key text px left (attempt + 1)

-- Writes a response for the whole milliseconds that it has left.
def write (space : String) (key : CompositeKey) (response : Cached) :
    Talking (Except Failure WriteOutcome) := do
  -- The time left is taken before there is a connection, and not again for another attempt.
  let now ← Talking.ask .now
  let px := response.remaining now / 1000000
  if px ≤ 0 then
    return .error (.validation "Cannot cache a response that has already expired")
  else
    match ← Talking.ask .connect with
    | .error fault => return .error fault.toFailure
    | .ok () =>
        writeAttempts (responseName space key) key (Cached.codec.render response) px.toNat
          maxWriteAttempts 1

def observed {α : Type} (operation : String) (t : Talking (Except Failure α)) :
    Talking (Except Failure α) := do
  let result ← t
  let () ← Talking.ask (.report (.measure (.storeOperation backend operation result.isOk)))
  return result

def get (space : String) (key : CompositeKey) : Talking (Except Failure (Option Cached)) :=
  observed "try_get" (lookup space key)

def set (space : String) (key : CompositeKey) (response : Cached) :
    Talking (Except Failure WriteOutcome) :=
  observed "try_set" (write space key response)

-- The milliseconds for which a lock is set: at least one, in a word of 64 bits.
def lockMillis (lifetime : Nat) : Nat :=
  max (lifetime / 1000000) 1 % UInt64.size

def acquire (space : String) (key : CompositeKey) (lifetime : Nat) :
    Talking (Except Failure (Option LockToken)) := do
  match ← Talking.ask .connect with
  | .error fault => return .error fault.toFailure
  | .ok () =>
      let holder ← Talking.ask .newHolder
      let acquiredAt ← Talking.ask .now
      let token : LockToken := { key, holder, acquiredAt, lifetime }
      let command :=
        Command.setAbsent (lockName space key) (Uuid.render holder) (lockMillis lifetime)
      match Reply.text? (← Talking.ask (.send command)) with
      | .error fault => return .error fault.toFailure
      | .ok none => return .ok none
      | .ok (some _) => return .ok (some token)

-- Runs a script that the server may have to be told first.
def callScript (c : Command) : Talking (Except Fault Int) := do
  match Reply.number? (← Talking.ask (.send c)) with
  | .ok n => return .ok n
  | .error fault =>
      if !fault.isNoScript then return .error fault
      else
        match Reply.done? (← Talking.ask (.send .loadScript)) with
        | .error fault => return .error fault
        | .ok () => return Reply.number? (← Talking.ask (.send c))

def release (space : String) (token : LockToken) : Talking (Except Failure Bool) := do
  match ← Talking.ask .connect with
  | .error fault => return .error fault.toFailure
  | .ok () =>
      match ← callScript (.deleteIf (lockName space token.key) (Uuid.render token.holder)) with
      | .error fault => return .error fault.toFailure
      | .ok deleted => return .ok (decide (0 < deleted))

def ping : Talking (Except Fault Unit) := do
  match ← Talking.ask .connect with
  | .error fault => return .error fault
  | .ok () => return Reply.done? (← Talking.ask (.send .ping))

end OncePerKey.Redis
