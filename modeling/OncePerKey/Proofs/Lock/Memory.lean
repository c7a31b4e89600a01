import OncePerKey.Lock.Memory

set_option autoImplicit false

namespace OncePerKey.MemoryLocks

variable {l l' : MemoryLocks} {now : Timestamp} {key : CompositeKey} {lifetime : Nat} {holder : Uuid}

def IsFree (l : MemoryLocks) (now : Timestamp) (key : CompositeKey) : Prop :=
  ∀ token, l.token? key = some token → token.isExpiredAt? now = some true

theorem isHeld?_eq_some_false : l.isHeld? now key = some false ↔ l.IsFree now key := by
  unfold isHeld? IsFree
  cases l.token? key with
  | none => simp
  | some token => simp

theorem acquire?_cases {token : Option LockToken}
    (acquired : l.acquire? now key lifetime holder = some (token, l')) :
    (token = none ∧ l' = l) ∨
      (token = some ⟨key, holder, now, lifetime⟩ ∧ l.IsFree now key ∧
        l'.token? key = token ∧ ∀ other ≠ key, l'.token? other = l.token? other) := by
  unfold acquire? at acquired
  cases held : l.isHeld? now key with
  | none => simp [held] at acquired
  | some isHeld =>
    cases isHeld with
    | true =>
      simp only [held, Option.map_some, if_true, Option.some.injEq, Prod.mk.injEq] at acquired
      exact .inl ⟨acquired.1.symm, acquired.2.symm⟩
    | false =>
      simp only [held, Option.map_some, Bool.false_eq_true, if_false, Option.some.injEq,
        Prod.mk.injEq] at acquired
      obtain ⟨rfl, rfl⟩ := acquired
      refine .inr ⟨rfl, isHeld?_eq_some_false.1 held, by simp [token?], fun other differs => ?_⟩
      rw [← token?_remove_of_ne differs l]
      simp [token?, differs.symm]

theorem token?_release_of_holder_ne {token current : LockToken} {other : CompositeKey}
    (held : l.token? other = some current) (differs : current.holder ≠ token.holder) :
    (l.release token).2.token? other = some current := by
  unfold release
  cases mine : l.token? token.key with
  | none => exact held
  | some last =>
    by_cases same : last.holder = token.holder
    · have elsewhere : other ≠ token.key := by
        rintro rfl
        rw [held] at mine
        cases mine
        exact differs same
      simpa [same, token?_remove_of_ne elsewhere] using held
    · simpa [same] using held

theorem token?_of_release {token current : LockToken} {other : CompositeKey}
    (held : (l.release token).2.token? other = some current) : l.token? other = some current := by
  unfold release at held
  split at held
  · split at held
    · by_cases same : other = token.key
      · simp [same] at held
      · rwa [token?_remove_of_ne same] at held
    · exact held
  · exact held

theorem token?_release_self_ne {token : LockToken} :
    (l.release token).2.token? token.key ≠ some token := by
  unfold release
  split
  · rename_i current held
    by_cases same : current.holder = token.holder
    · simp [same]
    · rw [if_neg same, held]
      rintro ⟨⟩
      exact same rfl
  · rename_i absent
    simp [absent]

end OncePerKey.MemoryLocks
