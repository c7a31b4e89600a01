import OncePerKey.Proofs.Lock.Desk
import OncePerKey.Proofs.Lock.Memory

set_option autoImplicit false

namespace OncePerKey.MemoryLocks

structure Session where
  locks : MemoryLocks := {}
  drawn : Nat := 0

def Session.acquire (ids : Nat → Uuid) (now : Timestamp) (key : CompositeKey) (lifetime : Nat)
    (s : Session) : Option (Option LockToken) × Session :=
  match s.locks.acquire? now key lifetime (ids s.drawn) with
  | some (token, locks) => (some token, ⟨locks, s.drawn + 1⟩)
  | none => (none, { s with drawn := s.drawn + 1 })

def Session.release (token : LockToken) (s : Session) : Option Bool × Session :=
  (some (s.locks.release token).1, { s with locks := (s.locks.release token).2 })

def clerk (ids : Nat → Uuid) : Lock.Clerk where
  State := Session
  start := {}
  acquire := Session.acquire ids
  release _ := Session.release

def IsDated (l : MemoryLocks) : Prop :=
  ∀ key token, l.token? key = some token →
    token.acquiredAt.IsPlain ∧ Lock.Dated token.acquiredAt (.acquire token.key token.lifetime)

def seat (l : MemoryLocks) (now : Timestamp) (key : CompositeKey) : Option (Uuid × Bool) :=
  (l.token? key).map fun token => (token.holder, token.grant.lasts now)

def take (l : MemoryLocks) (token : LockToken) : MemoryLocks :=
  ⟨token :: (l.remove token.key).tokens⟩

variable {ids : Nat → Uuid} {l : MemoryLocks} {now : Timestamp} {key other : CompositeKey}
  {lifetime : Nat} {holder : Uuid} {token : LockToken}

theorem token?_take (l : MemoryLocks) (token : LockToken) (other : CompositeKey) :
    (l.take token).token? other = if token.key = other then some token else l.token? other := by
  by_cases same : token.key = other
  · simp [take, token?, same]
  · have kept := token?_remove_of_ne (Ne.symm same) l
    simp only [token?] at kept
    simp [take, token?, same, kept]

theorem token?_remove (l : MemoryLocks) (key other : CompositeKey) :
    (l.remove key).token? other = if key = other then none else l.token? other := by
  by_cases same : key = other
  · subst same
    rw [token?_remove_self, if_pos rfl]
  · rw [token?_remove_of_ne (Ne.symm same), if_neg same]

theorem isDated_empty : ({} : MemoryLocks).IsDated := by
  intro key token found
  simp [token?] at found

theorem IsDated.take (dated : l.IsDated) (plain : token.acquiredAt.IsPlain)
    (new : Lock.Dated token.acquiredAt (.acquire token.key token.lifetime)) : (l.take token).IsDated := by
  intro key other found
  rw [token?_take] at found
  split at found
  · cases found
    exact ⟨plain, new⟩
  · exact dated key other found

theorem IsDated.remove (dated : l.IsDated) (key : CompositeKey) : (l.remove key).IsDated := by
  intro other token found
  rw [token?_remove] at found
  split at found
  · cases found
  · exact dated other token found

theorem seat_eq_some_iff {lasting : Bool} : l.seat now key = some (holder, lasting) ↔
    ∃ token, l.token? key = some token ∧ token.holder = holder ∧ token.grant.lasts now = lasting := by
  simp [seat]

theorem seat_take (l : MemoryLocks) (token : LockToken) (now : Timestamp) (other : CompositeKey) :
    (l.take token).seat now other =
      if token.key = other then Lock.seated id true now token else l.seat now other := by
  rw [seat, token?_take]
  split
  · unfold Lock.seated
    cases lasts : token.grant.lasts now <;> simp [lasts]
  · rfl

theorem seat_remove (l : MemoryLocks) (key : CompositeKey) (now : Timestamp) (other : CompositeKey) :
    (l.remove key).seat now other = if key = other then none else l.seat now other := by
  rw [seat, token?_remove]
  split <;> rfl

theorem isHeld?_of_isDated (dated : l.IsDated) (plain : now.IsPlain) :
    l.isHeld? now key = some ((l.token? key).any (·.grant.lasts now)) := by
  unfold isHeld?
  cases found : l.token? key with
  | none => rfl
  | some token =>
    obtain ⟨plainThen, new⟩ := dated key token found
    have expired : token.isExpiredAt? now = some (!token.grant.lasts now) :=
      new.isExpiredAt? plainThen plain token.holder
    simp [expired]

theorem acquire?_of_taken {tenant : Uuid} (dated : l.IsDated) (plain : now.IsPlain)
    (taken : l.seat now key = some (tenant, true)) :
    l.acquire? now key lifetime holder = some (none, l) := by
  obtain ⟨current, found, -, lasts⟩ := seat_eq_some_iff.1 taken
  rw [acquire?, isHeld?_of_isDated dated plain, found]
  simp [lasts]

theorem acquire?_of_free (dated : l.IsDated) (plain : now.IsPlain)
    (free : ∀ holder, l.seat now key ≠ some (holder, true)) :
    l.acquire? now key lifetime holder =
      some (some ⟨key, holder, now, lifetime⟩, l.take ⟨key, holder, now, lifetime⟩) := by
  have idle : (l.token? key).any (·.grant.lasts now) = false := by
    rw [← Bool.not_eq_true, Option.any_eq_true]
    rintro ⟨current, found, lasts⟩
    exact free current.holder (seat_eq_some_iff.2 ⟨current, found, rfl, lasts⟩)
  rw [acquire?, isHeld?_of_isDated dated plain, idle]
  rfl

theorem release_of_seat {lasting : Bool} (placed : l.seat now token.key = some (token.holder, lasting)) :
    l.release token = (true, l.remove token.key) := by
  obtain ⟨current, found, same, -⟩ := seat_eq_some_iff.1 placed
  simp [release, found, same]

theorem release_of_unseated (unseated : ∀ lasting, l.seat now token.key ≠ some (token.holder, lasting)) :
    l.release token = (false, l) := by
  cases found : l.token? token.key with
  | none => simp [release, found]
  | some current =>
    have differ : current.holder ≠ token.holder := fun same =>
      unseated _ (seat_eq_some_iff.2 ⟨current, found, same, rfl⟩)
    simp [release, found, differ]

namespace Session

variable {s : Session}

theorem acquire_of_taken {tenant : Uuid} (dated : s.locks.IsDated) (plain : now.IsPlain)
    (taken : s.locks.seat now key = some (tenant, true)) :
    acquire ids now key lifetime s = (some none, { s with drawn := s.drawn + 1 }) := by
  simp only [acquire, acquire?_of_taken dated plain taken]

theorem acquire_of_free (dated : s.locks.IsDated) (plain : now.IsPlain)
    (free : ∀ holder, s.locks.seat now key ≠ some (holder, true)) :
    acquire ids now key lifetime s = (some (some ⟨key, ids s.drawn, now, lifetime⟩),
      ⟨s.locks.take ⟨key, ids s.drawn, now, lifetime⟩, s.drawn + 1⟩) := by
  simp only [acquire, acquire?_of_free dated plain free]

theorem release_of_seat {lasting : Bool}
    (placed : s.locks.seat now token.key = some (token.holder, lasting)) :
    release token s = (some true, { s with locks := s.locks.remove token.key }) := by
  simp only [release, MemoryLocks.release_of_seat placed]

theorem release_of_unseated
    (unseated : ∀ lasting, s.locks.seat now token.key ≠ some (token.holder, lasting)) :
    release token s = (some false, s) := by
  simp only [release, MemoryLocks.release_of_unseated unseated]

end Session

def view (ids : Nat → Uuid) : Lock.View (clerk ids) ids id id true where
  marks := Function.injective_id
  Sound s := s.locks.IsDated
  drawn := Session.drawn
  seat s := s.locks.seat
  start := ⟨isDated_empty, rfl, fun _ _ => rfl⟩
  refuse dated plain _ taken :=
    ⟨_, Session.acquire_of_taken dated plain taken, dated, rfl, fun _ _ _ _ => rfl⟩
  grant dated plain new free :=
    ⟨_, Session.acquire_of_free dated plain free, dated.take plain new, rfl,
      fun later other _ _ => seat_take _ _ later other⟩
  clear dated _ placed :=
    ⟨_, Session.release_of_seat placed, dated.remove _, rfl,
      fun later other _ _ => seat_remove _ _ later other⟩
  spare dated _ unseated :=
    ⟨_, Session.release_of_unseated unseated, dated, rfl, fun _ _ _ _ => rfl⟩

end OncePerKey.MemoryLocks
