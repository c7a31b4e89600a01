import OncePerKey.Lock.Memory
import OncePerKey.Rehearsal.Scene

set_option autoImplicit false

namespace OncePerKey.Rehearsal

structure Held where
  locks : MemoryLocks := {}
  tokens : List LockToken := []
  guards : List (Option LockToken) := []

namespace Held

def acquire? (h : Held) (now : Timestamp) (key : CompositeKey) (lifetime : Nat) (holder : Uuid) :
    Option (Option LockToken × Held) :=
  (h.locks.acquire? now key lifetime holder).map fun (token, locks) =>
    (token, { h with locks, tokens := h.tokens ++ token.toList })

def giveBack (h : Held) (token : LockToken) : Bool × Held :=
  let (released, locks) := h.locks.release token
  (released, { h with locks })

def guard (h : Held) (token : Nat) : Held :=
  { h with guards := h.guards ++ [h.tokens[token]?] }

def tokenOf (h : Held) (guard : Nat) : Option LockToken :=
  h.guards[guard]?.join

def empty (h : Held) (guard : Nat) : Held :=
  { h with guards := h.guards.set guard none }

end Held

abbrev Guarding (α : Type) := Task (Scene Held) α

def giveBack (token : LockToken) : Guarding Bool :=
  updateProps (·.giveBack token)

def leave (canSpawn : Bool) (guard : Nat) : Guarding Unit := do
  let token := (← props).tokenOf guard
  changeProps (·.empty guard)
  let answer : (q : Ask) → Guarding q.Answer
    | .release token => do return .ok (← giveBack token)
    | .report n => report 0 n
    | _ => crash
  (Request.dropped canSpawn token).interpret answer

def letGo (guard : Nat) : Guarding Unit :=
  leave true guard

def abandon (guard : Nat) : Guarding Unit :=
  leave false guard

end OncePerKey.Rehearsal
