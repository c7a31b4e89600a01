import Mathlib.Data.Prod.Lex
import Mathlib.Order.CompletePartialOrder
import Mathlib.Order.Interval.Set.Disjoint
import OncePerKey.Lock.Token
import OncePerKey.Response.Basic

set_option autoImplicit false

namespace OncePerKey

namespace Timestamp

def rank (t : Timestamp) : ℤ ×ₗ ℕ := toLex (t.seconds, t.nanos)

theorem rank_injective : Function.Injective rank := by
  intro t u same
  have parts : (t.seconds, t.nanos) = (u.seconds, u.nanos) := toLex.injective same
  cases t
  cases u
  simpa using parts

instance : LinearOrder Timestamp := LinearOrder.lift' rank rank_injective

theorem before_iff (t u : Timestamp) : t.before u = true ↔ t < u := by
  have order : t < u ↔ t.seconds < u.seconds ∨ t.seconds = u.seconds ∧ t.nanos < u.nanos :=
    Prod.Lex.toLex_lt_toLex
  simp [before, order]

theorem not_before_iff (t u : Timestamp) : t.before u = false ↔ u ≤ t := by
  rw [← Bool.not_eq_true, before_iff, not_lt]

theorem disjoint_of_le {a b c d : Timestamp} (inTurn : b ≤ c) :
    Disjoint (Set.Ico c d) (Set.Ico a b) := by
  rw [Set.Ico_disjoint_Ico]
  exact le_trans (min_le_right d b) (le_trans inTurn (le_max_left c a))

def IsPlain (t : Timestamp) : Prop := t.nanos < nanosPerSecond

instance (t : Timestamp) : Decidable t.IsPlain :=
  inferInstanceAs (Decidable (_ < _))

def leapNanos (t : Timestamp) : Int :=
  if t.IsPlain then 0 else nanosPerSecond

theorem leapNanos_of_plain {t : Timestamp} (plain : t.IsPlain) : t.leapNanos = 0 :=
  if_pos plain

theorem toNanos_lt_iff {t u : Timestamp} (ht : t.IsPlain) (hu : u.IsPlain) :
    t.toNanos < u.toNanos ↔ t < u := by
  rw [← before_iff]
  simp only [before, toNanos, IsPlain, nanosPerSecond] at *
  simp only [Bool.or_eq_true, decide_eq_true_eq, Bool.and_eq_true, beq_iff_eq]
  omega

theorem toNanos_le_iff {t u : Timestamp} (ht : t.IsPlain) (hu : u.IsPlain) :
    t.toNanos ≤ u.toNanos ↔ t ≤ u := by
  rw [← not_lt, ← not_lt, toNanos_lt_iff hu ht]

theorem toNanos_ofNanos? {n : Int} {t : Timestamp} (made : ofNanos? n = some t) :
    t.toNanos = n ∧ t.IsPlain := by
  unfold ofNanos? make? at made
  split at made
  · cases made
    simp only [toNanos, IsPlain, nanosPerSecond]
    omega
  · cases made

theorem plus?_of_plain {t : Timestamp} (plain : t.IsPlain) (d : Int) :
    t.plus? d = ofNanos? (t.toNanos + d) :=
  if_pos (.inl plain)

theorem toNanos_plus? {t end_ : Timestamp} {d : Int} (plain : t.IsPlain) (ends : t.plus? d = some end_) :
    end_.toNanos = t.toNanos + d ∧ end_.IsPlain := by
  rw [plus?_of_plain plain] at ends
  exact toNanos_ofNanos? ends

theorem toNanos_plus?_bounds {t end_ : Timestamp} {d : Int} (ends : t.plus? d = some end_) :
    t.toNanos + d - nanosPerSecond ≤ end_.toNanos ∧ end_.toNanos ≤ t.toNanos + d := by
  unfold plus? at ends
  split at ends
  · have sum := (toNanos_ofNanos? ends).1
    simp only [nanosPerSecond]
    omega
  split at ends
  · unfold make? at ends
    split at ends
    · cases ends
      simp only [toNanos, nanosPerSecond] at *
      omega
    · cases ends
  · have sum := (toNanos_ofNanos? ends).1
    simp only [nanosPerSecond] at *
    omega

theorem lt_of_plus? {t end_ : Timestamp} {d : Int} (later : 0 < d) (ends : t.plus? d = some end_) :
    t < end_ := by
  have range := t.fits.2.2
  rw [← before_iff]
  simp only [before, Bool.or_eq_true, decide_eq_true_eq, Bool.and_eq_true, beq_iff_eq]
  unfold plus? at ends
  split at ends
  · obtain ⟨sum, plain⟩ := toNanos_ofNanos? ends
    simp only [toNanos, IsPlain, nanosPerSecond] at *
    omega
  split at ends
  · unfold make? at ends
    split at ends
    · cases ends
      simp only [nanosPerSecond] at *
      exact .inr ⟨trivial, by omega⟩
    · cases ends
  · -- The end is beyond the leap second, so it is in a later second.
    obtain ⟨sum, plain⟩ := toNanos_ofNanos? ends
    simp only [toNanos, IsPlain, nanosPerSecond] at *
    omega

theorem since_of_plain {t u : Timestamp} (ht : t.IsPlain) (hu : u.IsPlain) :
    t.since u = t.toNanos - u.toNanos := by
  simp only [since, leapBetween, IsPlain] at *
  rw [if_neg (by omega), if_neg (by omega), Int.add_zero]

theorem since_of_plus? {t end_ : Timestamp} {d : Int} (plain : t.IsPlain) (ends : t.plus? d = some end_) :
    end_.since t = d := by
  obtain ⟨sum, plainEnd⟩ := toNanos_plus? plain ends
  rw [since_of_plain plainEnd plain]
  omega

theorem since_le (t u : Timestamp) : t.since u ≤ t.toNanos - u.toNanos + u.leapNanos := by
  by_cases plain : u.IsPlain
  · have early : u.nanos < nanosPerSecond := plain
    rw [leapNanos_of_plain plain, since, leapBetween, if_neg (by omega)]
    split <;> omega
  · rw [leapNanos, if_neg plain, since, leapBetween]
    split
    · exact le_refl _
    · split <;> omega

end Timestamp

theorem Cached.isLiveAt_iff (c : Cached) (now : Timestamp) :
    c.isLiveAt now = true ↔ now < c.expiresAt :=
  Timestamp.before_iff now c.expiresAt

theorem LockToken.toNanos_expiresAt? {token : LockToken} {end_ : Timestamp}
    (plain : token.acquiredAt.IsPlain) (ends : token.expiresAt? = some end_) :
    end_.toNanos = token.acquiredAt.toNanos + token.lifetimeMs * 1000000 ∧ end_.IsPlain :=
  Timestamp.toNanos_plus? plain ends

theorem LockToken.isExpiredAt?_of_le {token : LockToken} {earlier later : Timestamp}
    (order : earlier ≤ later) (expired : token.isExpiredAt? earlier = some true) :
    token.isExpiredAt? later = some true := by
  unfold isExpiredAt? at expired ⊢
  cases ends : token.expiresAt? with
  | none => simp [ends] at expired
  | some end_ =>
    simp only [ends, Option.map_some, Option.some.injEq, Bool.not_eq_true',
      Timestamp.not_before_iff] at expired ⊢
    exact le_trans expired order

end OncePerKey
