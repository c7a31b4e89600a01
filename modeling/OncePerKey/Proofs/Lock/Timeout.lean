import OncePerKey.Proofs.Lock.Grants
import OncePerKey.Proofs.Lock.Memory
import OncePerKey.Proofs.Response.Snapshot
import OncePerKey.Redis.Client

set_option autoImplicit false

namespace OncePerKey

namespace Timestamp

theorem exists_ofNanos?_iff (n : Int) : (∃ t, ofNanos? n = some t) ↔
    firstSecond ≤ n / nanosPerSecond ∧ n / nanosPerSecond ≤ lastSecond := by
  unfold ofNanos? make?
  have within : (n % nanosPerSecond).toNat < 1000000000 := by
    simp only [nanosPerSecond]
    omega
  by_cases fits : Fits (n / nanosPerSecond) (n % nanosPerSecond).toNat
  · simp only [dif_pos fits, Option.some.injEq, exists_eq', true_iff]
    exact ⟨fits.1, fits.2.1⟩
  · simp only [dif_neg fits, reduceCtorEq, exists_false, false_iff]
    exact fun bounds => fits ⟨bounds.1, bounds.2, by omega⟩

theorem lastSecond_eq : lastSecond = 8210266876799 := by
  decide +kernel

theorem firstSecond_eq : firstSecond = -8334601228800 := by
  decide +kernel

-- A second and more leads out of a leap second.
theorem exists_plus?_iff {t : Timestamp} {d : Int} (long : nanosPerSecond ≤ d) :
    (∃ end_, t.plus? d = some end_) ↔
      firstSecond ≤ (t.toNanos + d - t.leapNanos) / nanosPerSecond ∧
      (t.toNanos + d - t.leapNanos) / nanosPerSecond ≤ lastSecond := by
  by_cases plain : t.IsPlain
  · simp only [plus?_of_plain plain, exists_ofNanos?_iff, leapNanos_of_plain plain, Int.sub_zero]
  · have leap : ¬ (t.nanos < nanosPerSecond ∨ d ≤ -nanosPerSecond) := by
      simp only [IsPlain, nanosPerSecond] at *
      omega
    have beyond : ¬ t.nanos + d < 2 * nanosPerSecond := by
      simp only [IsPlain, nanosPerSecond] at *
      omega
    simp only [plus?, if_neg leap, if_neg beyond, exists_ofNanos?_iff, leapNanos, if_neg plain]

end Timestamp

def Policy.lockToken (p : Policy) (key : CompositeKey) (holder : Uuid) (now : Timestamp) : LockToken :=
  { key, holder, acquiredAt := now, lifetime := p.lockTimeoutSecs.toNat * nanosPerSecond }

structure LockToken.Honours (token : LockToken) (seconds : Nat) : Prop where
  ends : ∃ end_, token.expiresAt? = some end_ ∧
    token.acquiredAt.plus? (seconds * nanosPerSecond) = some end_ ∧
    (token.acquiredAt.IsPlain →
      end_.toNanos = token.acquiredAt.toNanos + seconds * nanosPerSecond)
  held : token.isExpiredAt? token.acquiredAt = some false
  expiry : Redis.lockMillis token.lifetime = seconds * 1000

section

variable {p : Policy} {key : CompositeKey} {holder : Uuid} {now : Timestamp}

@[simp] theorem Policy.acquiredAt_lockToken :
    (p.lockToken key holder now).acquiredAt = now := rfl

theorem Policy.lifetimeMs_lockToken :
    (p.lockToken key holder now).lifetimeMs = Int.bmod (p.lockTimeoutSecs.toNat * 1000) (2 ^ 64) := by
  have whole : p.lockTimeoutSecs.toNat * nanosPerSecond / 1000000 = p.lockTimeoutSecs.toNat * 1000 := by
    simp only [nanosPerSecond]
    omega
  simp only [LockToken.lifetimeMs, lockToken, whole]
  rw [Int64.toInt_ofNat']
  push_cast
  rfl

theorem Policy.lockMillis_lockToken (valid : p.Valid) :
    Redis.lockMillis (p.lockToken key holder now).lifetime =
      p.lockTimeoutSecs.toNat * 1000 % 2 ^ 64 := by
  have least := lockTimeoutSecs_of_valid valid
  have whole : max (p.lockTimeoutSecs.toNat * nanosPerSecond / 1000000) 1 =
      p.lockTimeoutSecs.toNat * 1000 := by
    simp only [nanosPerSecond]
    omega
  simp only [Redis.lockMillis, lockToken, whole]
  rfl

theorem Policy.honours_of_dated (valid : p.Valid) {end_ : Timestamp}
    (dated : now.plus? (p.lockTimeoutSecs.toNat * nanosPerSecond) = some end_) :
    (p.lockToken key holder now).Honours p.lockTimeoutSecs.toNat := by
  have least := lockTimeoutSecs_of_valid valid
  have sum := (Timestamp.toNanos_plus?_bounds dated).1
  have first := Timestamp.toNanos_bounds now
  have last := Timestamp.toNanos_bounds end_
  have small : p.lockTimeoutSecs.toNat * 1000 < 2 ^ 63 := by
    simp only [nanosPerSecond] at sum
    omega
  have unturned : Int.bmod (p.lockTimeoutSecs.toNat * 1000) (2 ^ 64) = p.lockTimeoutSecs.toNat * 1000 :=
    Int.bmod_eq_of_le_mul_two (by omega) (by omega)
  have nanos : (p.lockToken key holder now).lifetimeMs * 1000000 =
      p.lockTimeoutSecs.toNat * nanosPerSecond := by
    rw [lifetimeMs_lockToken, unturned]
    simp only [nanosPerSecond]
    omega
  have ends : (p.lockToken key holder now).expiresAt? = some end_ := by
    rw [LockToken.expiresAt?, nanos]
    exact dated
  have later : now.before end_ = true := by
    rw [Timestamp.before_iff]
    refine Timestamp.lt_of_plus? ?_ dated
    simp only [nanosPerSecond]
    omega
  refine ⟨⟨end_, ends, dated, fun plain => (Timestamp.toNanos_plus? plain dated).1⟩, ?_, ?_⟩
  · simp [LockToken.isExpiredAt?, ends, later]
  · rw [lockMillis_lockToken valid, Nat.mod_eq_of_lt (by omega)]

theorem Policy.dated_of_honours
    (honours : (p.lockToken key holder now).Honours p.lockTimeoutSecs.toNat) :
    ∃ end_, now.plus? (p.lockTimeoutSecs.toNat * nanosPerSecond) = some end_ := by
  obtain ⟨end_, -, dated, -⟩ := honours.ends
  exact ⟨end_, dated⟩

theorem Policy.dated_iff_of_recent (valid : p.Valid) (first : 0 ≤ now.seconds) (last : now.seconds ≤ 253402300799) :
    (p.lockTimeoutSecs.toNat ≤ 7956864575999 →
      ∃ end_, now.plus? (p.lockTimeoutSecs.toNat * nanosPerSecond) = some end_) ∧
    (8210266876799 < p.lockTimeoutSecs.toNat →
      ¬ ∃ end_, now.plus? (p.lockTimeoutSecs.toNat * nanosPerSecond) = some end_) := by
  have range := now.fits.2.2
  have past := Timestamp.firstSecond_eq
  have future := Timestamp.lastSecond_eq
  have least := lockTimeoutSecs_of_valid valid
  have long : (nanosPerSecond : Int) ≤ p.lockTimeoutSecs.toNat * nanosPerSecond := by
    simp only [nanosPerSecond]
    omega
  rw [Timestamp.exists_plus?_iff long]
  by_cases plain : now.IsPlain
  · simp only [Timestamp.leapNanos, if_pos plain, Timestamp.toNanos, nanosPerSecond]
    omega
  · have leap : nanosPerSecond ≤ now.nanos := Nat.le_of_not_lt plain
    simp only [Timestamp.leapNanos, if_neg plain, Timestamp.toNanos, nanosPerSecond] at leap ⊢
    omega

theorem Policy.acquire?_again {l : MemoryLocks}
    (there : l.token? key = some (p.lockToken key holder now)) (plain : now.IsPlain) (lifetime : Nat)
    (other : Uuid) :
    (l.acquire? now key lifetime other = none ↔ (p.lockToken key holder now).expiresAt? = none) ∧
      ((∃ mine l', l.acquire? now key lifetime other = some (some mine, l')) ↔
        (p.lockToken key holder now).expiresAt? ≠ none ∧
          (p.lockToken key holder now).lifetimeMs ≤ 0) := by
  simp only [MemoryLocks.acquire?, MemoryLocks.isHeld?, there, LockToken.isExpiredAt?]
  cases ends : (p.lockToken key holder now).expiresAt? with
  | none => simp
  | some end_ =>
    obtain ⟨sum, plainEnd⟩ := LockToken.toNanos_expiresAt? plain ends
    have past : end_ ≤ now ↔ (p.lockToken key holder now).lifetimeMs ≤ 0 := by
      rw [← Timestamp.toNanos_le_iff plainEnd plain, sum]
      simp only [lockToken]
      omega
    rw [← past, ← Timestamp.not_before_iff]
    cases early : now.before end_ <;> simp [early]

end

-- The milliseconds of a timeout whose end has no date turn over, so that the lock is free at once or has no
-- end.
theorem lock_timeout_honoured_iff {p : Policy} (valid : p.Valid) (key : CompositeKey) (holder : Uuid)
    (now : Timestamp) :
    ((p.lockToken key holder now).Honours p.lockTimeoutSecs.toNat ↔
      ∃ end_, now.plus? (p.lockTimeoutSecs.toNat * nanosPerSecond) = some end_) ∧
    (0 ≤ now.seconds → now.seconds ≤ 253402300799 →
      (p.lockTimeoutSecs.toNat ≤ 7956864575999 →
        (p.lockToken key holder now).Honours p.lockTimeoutSecs.toNat) ∧
      (8210266876799 < p.lockTimeoutSecs.toNat →
        ¬ (p.lockToken key holder now).Honours p.lockTimeoutSecs.toNat)) ∧
    (p.lockToken key holder now).lifetimeMs = Int.bmod (p.lockTimeoutSecs.toNat * 1000) (2 ^ 64) ∧
    Redis.lockMillis (p.lockToken key holder now).lifetime = p.lockTimeoutSecs.toNat * 1000 % 2 ^ 64 ∧
    (now.IsPlain → ∀ l : MemoryLocks, l.token? key = some (p.lockToken key holder now) →
      ∀ lifetime other,
        (l.acquire? now key lifetime other = none ↔
          (p.lockToken key holder now).expiresAt? = none) ∧
        ((∃ mine l', l.acquire? now key lifetime other = some (some mine, l')) ↔
          (p.lockToken key holder now).expiresAt? ≠ none ∧
            (p.lockToken key holder now).lifetimeMs ≤ 0)) := by
  have dated : (p.lockToken key holder now).Honours p.lockTimeoutSecs.toNat ↔
      ∃ end_, now.plus? (p.lockTimeoutSecs.toNat * nanosPerSecond) = some end_ :=
    ⟨Policy.dated_of_honours, fun ⟨_, ends⟩ => Policy.honours_of_dated valid ends⟩
  refine ⟨dated, fun first last => ?_, Policy.lifetimeMs_lockToken, Policy.lockMillis_lockToken valid,
    fun plain l there lifetime other => Policy.acquire?_again there plain lifetime other⟩
  rw [dated]
  exact Policy.dated_iff_of_recent valid first last

def overlong : Policy :=
  { lockTimeoutSecs := 18446744073709551 }

def unending : Policy :=
  { lockTimeoutSecs := 9223372036854 }

def shelfKey : CompositeKey :=
  CompositeKey.build "POST" "/shelves" ⟨"k-1"⟩

-- Of two timeouts that the settings allow, one is over before it begins, and the other has no end.
theorem overlong_lock_free_at_once :
    (overlong.Valid ∧ (overlong.lockToken shelfKey (.ofSeed 0) .epoch).lifetimeMs = -616 ∧
      ¬ (overlong.lockToken shelfKey (.ofSeed 0) .epoch).Honours 18446744073709551 ∧
      ∃ mine l', MemoryLocks.acquire? ⟨[overlong.lockToken shelfKey (.ofSeed 0) .epoch]⟩ .epoch shelfKey 1
        (.ofSeed 1) = some (some mine, l')) ∧
    unending.Valid ∧ ¬ (unending.lockToken shelfKey (.ofSeed 0) .epoch).Honours 9223372036854 ∧
      MemoryLocks.acquire? ⟨[unending.lockToken shelfKey (.ofSeed 0) .epoch]⟩ .epoch shelfKey 1
        (.ofSeed 1) = none := by
  have valid : overlong.Valid := by decide +kernel
  have validToo : unending.Valid := by decide +kernel
  have plain : Timestamp.epoch.IsPlain := by decide
  have turned : (overlong.lockToken shelfKey (.ofSeed 0) .epoch).lifetimeMs = -616 := by
    decide +kernel
  have dated : (overlong.lockToken shelfKey (.ofSeed 0) .epoch).expiresAt? ≠ none := by
    decide +kernel
  have undated : (unending.lockToken shelfKey (.ofSeed 0) .epoch).expiresAt? = none := by
    decide +kernel
  obtain ⟨-, bounds, -, -, again⟩ :=
    lock_timeout_honoured_iff valid shelfKey (.ofSeed 0) .epoch
  obtain ⟨-, boundsToo, -, -, againToo⟩ :=
    lock_timeout_honoured_iff validToo shelfKey (.ofSeed 0) .epoch
  exact ⟨⟨valid, turned, (bounds (by decide) (by decide)).2 (by decide),
      (again plain _ rfl 1 (.ofSeed 1)).2.2 ⟨dated, by omega⟩⟩,
    validToo, (boundsToo (by decide) (by decide)).2 (by decide),
    (againToo plain _ rfl 1 (.ofSeed 1)).1.2 undated⟩

end OncePerKey
