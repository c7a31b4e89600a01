import OncePerKey.Postgres.Table
import OncePerKey.Proofs.Moment

set_option autoImplicit false

namespace OncePerKey

namespace Timestamp

def millennium : Timestamp := ⟨946684800, 0, by decide⟩

end Timestamp

namespace Postgres

theorem inMicros_le {t : Timestamp} (plain : t.IsPlain) (order : Timestamp.millennium ≤ t) :
    inMicros t ≤ t := by
  unfold inMicros
  cases made : Timestamp.ofNanos? (countedFrom + Int.tdiv (t.toNanos - countedFrom) 1000 * 1000) with
  | none => exact le_refl t
  | some u =>
    obtain ⟨nanos, plainToo⟩ := Timestamp.toNanos_ofNanos? made
    have start : countedFrom ≤ t.toNanos :=
      (Timestamp.toNanos_le_iff (by decide) plain).2 order
    rw [Option.getD_some, ← Timestamp.toNanos_le_iff plainToo plain, nanos,
      Int.tdiv_eq_ediv_of_nonneg (by omega)]
    omega

theorem Row.isExpiredAt_iff (row : Row) (now : Timestamp) :
    row.isExpiredAt now = true ↔ row.expiresAt ≤ now := by
  simp [isExpiredAt, Timestamp.not_before_iff]

def Statement.moment? : Statement → Option Timestamp
  | .deleteStale _ now | .sweep now _ => some now
  | .select _ | .insert _ | .ping => none

theorem Statement.moment?_clipped (s : Statement) : s.clipped.moment? = s.moment? := by
  cases s <;> rfl

namespace Table

variable {t : Table} {row : Row} {s : Statement}

theorem run_of_fits (fits : s.misfit? = none) : t.run s = t.carry s.clipped := by
  rw [run, fits]

theorem mem_carry (present : row ∈ t.rows)
    (live : ∀ now, s.moment? = some now → now < row.expiresAt) : row ∈ (t.carry s).2.rows := by
  have deleting {rows : List Row} (spared : row ∉ rows) : row ∈ (t.deleting rows).2.rows :=
    mem_delete.2 ⟨present, spared⟩
  cases s with
  | select key =>
    simp only [carry]
    split <;> exact present
  | insert other =>
    simp only [carry]
    split
    · exact present
    · exact List.mem_append_left _ present
  | deleteStale id now =>
    refine deleting fun stale => ?_
    have expired := (List.mem_filter.1 stale).2
    rw [Bool.and_eq_true, Row.isExpiredAt_iff] at expired
    exact absurd (live now rfl) (not_lt.2 expired.2)
  | sweep now limit =>
    simp only [carry]
    split
    · exact present
    · refine deleting fun taken => ?_
      have expired := (mem_expired.1 (List.mem_of_mem_take taken)).2
      rw [Row.isExpiredAt_iff] at expired
      exact absurd (live now rfl) (not_lt.2 expired)
  | ping => exact present

theorem mem_run (present : row ∈ t.rows) (live : ∀ now, s.moment? = some now → now < row.expiresAt) :
    row ∈ (t.run s).2.rows := by
  cases misfit : s.misfit? with
  | some refusal =>
    rw [run, misfit]
    exact present
  | none =>
    rw [run_of_fits misfit]
    exact mem_carry present (s.moment?_clipped ▸ live)

theorem find?_eq_none {key : CompositeKey} : t.find? key = none ↔ ∀ row ∈ t.rows, row.key ≠ key := by
  simp [find?]

theorem refusal?_eq_none (accepted : t.refusal? row = none) : t.find? row.key = none := by
  unfold refusal? at accepted
  split at accepted
  · exact nomatch accepted
  · split at accepted
    · exact nomatch accepted
    · simpa using accepted

theorem run_insert (accepted : ∀ refusal, (t.run (.insert row)).1 ≠ .refused refusal) :
    t.find? row.key = none ∧ (t.run (.insert row)).2 = t.insert row.clipped := by
  cases misfit : (Statement.insert row).misfit? with
  | some refusal => exact absurd (by rw [run, misfit]) (accepted refusal)
  | none =>
    rw [run_of_fits misfit] at *
    cases refusal : t.refusal? row.clipped with
    | some r => exact absurd (by simp [carry, Statement.clipped, refusal]) (accepted r)
    | none => exact ⟨refusal?_eq_none refusal, by simp [carry, Statement.clipped, refusal]⟩

theorem run_select {key : CompositeKey} (answer : (t.run (.select key)).1 = .found row) :
    t.find? key = some row := by
  cases misfit : (Statement.select key).misfit? with
  | some refusal =>
    rw [run, misfit] at answer
    exact nomatch answer
  | none =>
    rw [run_of_fits misfit] at answer
    cases found : t.find? key with
    | none => simp [carry, Statement.clipped, found] at answer
    | some other =>
      simp only [carry, Statement.clipped, found, Reply.found.injEq] at answer
      rw [answer]

end Table

end Postgres

end OncePerKey
