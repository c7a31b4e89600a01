import OncePerKey.Lock.Memory
import OncePerKey.Proofs.Request.Course
import OncePerKey.Proofs.Store.Memory

set_option autoImplicit false

namespace OncePerKey

structure Coordinator where
  State : Type
  acquires : Timestamp → State → CompositeKey → (lifetime : Nat) →
    Except Failure (Option LockToken) → State → Prop
  releases : Timestamp → State → LockToken → Except Failure Bool → State → Prop

namespace Coordinator

structure Memory where
  held : MemoryLocks := {}
  issued : List Uuid := []

def memory : Coordinator where
  State := Memory
  acquires now l key lifetime r l' :=
    ∃ holder token held, holder ∉ l.issued ∧
      l.held.acquire? now key lifetime holder = some (token, held) ∧
      r = .ok token ∧ l' = ⟨held, holder :: l.issued⟩
  releases _ l token r l' :=
    r = .ok (l.held.release token).1 ∧ l' = { l with held := (l.held.release token).2 }

end Coordinator

namespace Request

structure Shared (locks : Coordinator) where
  store : MemoryStore
  locks : locks.State

def Shared.answers {locks : Coordinator} (now : Timestamp) (s : Shared locks) :
    (q : Ask) → q.Answer → Shared locks → Prop
  | .now, r, s' => r = now ∧ s' = s
  | .sleep _, _, s' | .operate, _, s' | .report _, _, s' => s' = s
  | .lookup key, r, s' => r = .ok (s.store.get now key) ∧ s' = s
  | .write key response, r, s' =>
      r = .ok (s.store.set now key response).1 ∧
        s' = { s with store := (s.store.set now key response).2 }
  | .acquire key lifetime, r, s' =>
      ∃ l, locks.acquires now s.locks key lifetime r l ∧ s' = { s with locks := l }
  | .release token, r, s' =>
      ∃ l, locks.releases now s.locks token r l ∧ s' = { s with locks := l }
  | .abort, _, _ => False

def Shared.swept {locks : Coordinator} (now : Timestamp) (s s' : Shared locks) : Prop :=
  ∃ (t : MemoryStore) (at_ : Timestamp) (limit : Int), at_ ≤ now ∧ t.entries.Perm s.store.entries ∧
    s' = { s with store := (t.deleteExpired at_ limit).2 }

section

variable {locks : Coordinator} {now : Timestamp} {s s' : Shared locks} {key : CompositeKey}

theorem Shared.locks_of_swept (swept : s.swept now s') : s'.locks = s.locks := by
  obtain ⟨_, _, _, -, -, rfl⟩ := swept
  rfl

theorem Shared.get_of_swept (swept : s.swept now s') (key : CompositeKey) :
    s'.store.get now key = s.store.get now key := by
  obtain ⟨t, at_, limit, order, perm, rfl⟩ := swept
  rw [MemoryStore.get_deleteExpired order, MemoryStore.get_of_perm perm]

theorem Shared.kept?_of_swept {cached : Cached} (swept : s.swept now s')
    (kept : s'.store.kept? key = some cached) : s.store.kept? key = some cached := by
  obtain ⟨t, at_, limit, -, perm, rfl⟩ := swept
  rw [← MemoryStore.kept?_of_perm perm]
  exact MemoryStore.kept?_of_kept?_deleteExpired kept

end

def Shared.reply (ended : Except Failure Captured) (now : Timestamp) (s : Shared .memory) :
    (q : Ask) → Option (q.Answer × Shared .memory)
  | .now => some (now, s)
  | .sleep _ | .report _ => some ((), s)
  | .operate => some (ended, s)
  | .lookup key => some (.ok (s.store.get now key), s)
  | .write key response =>
      let set := s.store.set now key response
      some (.ok set.1, { s with store := set.2 })
  | .acquire key lifetime =>
      let holder := Uuid.ofSeed s.locks.issued.length
      if holder ∈ s.locks.issued then none
      else (s.locks.held.acquire? now key lifetime holder).map fun (token, held) =>
        (.ok token, { s with locks := ⟨held, holder :: s.locks.issued⟩ })
  | .release token =>
      let released := s.locks.held.release token
      some (.ok released.1, { s with locks := { s.locks with held := released.2 } })
  | .abort => none

theorem Shared.answers_of_reply (ended : Except Failure Captured) (now : Timestamp)
    (s : Shared .memory) (q : Ask) (r : q.Answer) (s' : Shared .memory)
    (replied : s.reply ended now q = some (r, s')) : s.answers now q r s' := by
  cases q with
  | now | lookup | write =>
    cases replied
    exact ⟨rfl, rfl⟩
  | sleep | report | operate =>
    cases replied
    exact (rfl : s = s)
  | acquire key lifetime =>
    simp only [reply] at replied
    split at replied
    · exact nomatch replied
    · rename_i fresh
      obtain ⟨⟨token, held⟩, acquired, same⟩ := Option.map_eq_some_iff.1 replied
      cases same
      exact ⟨_, ⟨_, token, held, fresh, acquired, rfl, rfl⟩, rfl⟩
  | release token =>
    cases replied
    exact ⟨_, ⟨rfl, rfl⟩, rfl⟩
  | abort => exact nomatch replied

def overMemory (locks : Coordinator) : Surroundings Ask Ask.Answer where
  State := Shared locks
  answers := Shared.answers
  changes := Shared.swept

def locking : Context :=
  { policy := {}, backend := "memory", hasLocks := true }

def twoOrders (c : Context) : World (overMemory .memory) Bool (Except Failure Outcome) :=
  { now := .epoch, state := ⟨{}, {}⟩, tasks := fun _ => execute c placeOrder, history := [] }

end Request

end OncePerKey
