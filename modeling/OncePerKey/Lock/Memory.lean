import OncePerKey.Lock.Token

set_option autoImplicit false

namespace OncePerKey

structure MemoryLocks where
  tokens : List LockToken := []
  deriving Inhabited

namespace MemoryLocks

def token? (l : MemoryLocks) (key : CompositeKey) : Option LockToken :=
  l.tokens.find? (·.key = key)

def remove (l : MemoryLocks) (key : CompositeKey) : MemoryLocks :=
  ⟨l.tokens.filter (·.key ≠ key)⟩

-- Whether a key is locked; `none` when the end of its token has no date.
def isHeld? (l : MemoryLocks) (now : Timestamp) (key : CompositeKey) : Option Bool :=
  match l.token? key with
  | none => some false
  | some token => (token.isExpiredAt? now).map (!·)

def acquire? (l : MemoryLocks) (now : Timestamp) (key : CompositeKey) (lifetime : Nat)
    (holder : Uuid) : Option (Option LockToken × MemoryLocks) :=
  (l.isHeld? now key).map fun held =>
    if held then (none, l)
    else
      let token : LockToken := { key, holder, acquiredAt := now, lifetime }
      (some token, ⟨token :: (l.remove key).tokens⟩)

-- Gives a lock back, if it still belongs to the holder of the token.
def release (l : MemoryLocks) (token : LockToken) : Bool × MemoryLocks :=
  match l.token? token.key with
  | some current => if current.holder = token.holder then (true, l.remove token.key) else (false, l)
  | none => (false, l)

@[simp] theorem token?_remove_self (l : MemoryLocks) (key : CompositeKey) :
    (l.remove key).token? key = none := by
  simp [token?, remove]

theorem token?_remove_of_ne {key other : CompositeKey} (h : other ≠ key) (l : MemoryLocks) :
    (l.remove key).token? other = l.token? other := by
  obtain ⟨tokens⟩ := l
  simp only [token?, remove, List.find?_filter]
  congr 1
  funext token
  by_cases same : token.key = other <;> simp [same, h]

theorem release_fst (l : MemoryLocks) (token : LockToken) :
    (l.release token).1 = (l.token? token.key).any (·.holder = token.holder) := by
  unfold release
  cases h : l.token? token.key with
  | none => simp
  | some current => by_cases same : current.holder = token.holder <;> simp [same]

end MemoryLocks

end OncePerKey
