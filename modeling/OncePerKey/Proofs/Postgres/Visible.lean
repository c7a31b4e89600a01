import OncePerKey.Proofs.Postgres.Table

set_option autoImplicit false

namespace OncePerKey

namespace Timestamp

-- The moments that a table keeps as they are.
def IsWhole (t : Timestamp) : Prop :=
  t.IsPlain ∧ t.nanos % 1000 = 0

instance (t : Timestamp) : Decidable t.IsWhole :=
  inferInstanceAs (Decidable (_ ∧ _))

theorem ofNanos?_toNanos {t : Timestamp} (plain : t.IsPlain) : ofNanos? t.toNanos = some t := by
  obtain ⟨seconds, nanos, fits⟩ := t
  have quotient : (seconds * nanosPerSecond + nanos) / nanosPerSecond = seconds := by
    simp only [IsPlain, nanosPerSecond] at *
    omega
  have rest : ((seconds * nanosPerSecond + nanos) % nanosPerSecond).toNat = nanos := by
    simp only [IsPlain, nanosPerSecond] at *
    omega
  simp only [ofNanos?, toNanos, quotient, rest, make?, dif_pos fits]

theorem IsWhole.toNanos_emod {t : Timestamp} (whole : t.IsWhole) : t.toNanos % 1000 = 0 := by
  obtain ⟨-, rest⟩ := whole
  simp only [toNanos, nanosPerSecond]
  omega

end Timestamp

namespace Postgres

theorem inMicros_of_isWhole {t : Timestamp} (whole : t.IsWhole) : inMicros t = t := by
  have rest := whole.toNanos_emod
  have dividend : 1000 ∣ t.toNanos - countedFrom := by
    rw [countedFrom]
    omega
  have same : countedFrom + (t.toNanos - countedFrom) = t.toNanos := by omega
  rw [inMicros, Int.tdiv_mul_cancel dividend, same, Timestamp.ofNanos?_toNanos whole.1]
  rfl

theorem le_inMicros {t now : Timestamp} (whole : t.IsWhole) (plain : now.IsPlain)
    (modern : Timestamp.millennium ≤ now) (past : t ≤ now) : t ≤ inMicros now := by
  unfold inMicros
  cases made :
      Timestamp.ofNanos? (countedFrom + Int.tdiv (now.toNanos - countedFrom) 1000 * 1000) with
  | none => exact past
  | some u =>
    obtain ⟨nanos, plainToo⟩ := Timestamp.toNanos_ofNanos? made
    have start : countedFrom ≤ now.toNanos := (Timestamp.toNanos_le_iff (by decide) plain).2 modern
    have order : t.toNanos ≤ now.toNanos := (Timestamp.toNanos_le_iff whole.1 plain).2 past
    have rest := whole.toNanos_emod
    rw [Option.getD_some, ← Timestamp.toNanos_le_iff whole.1 plainToo, nanos,
      Int.tdiv_eq_ediv_of_nonneg (by omega)]
    rw [countedFrom] at *
    omega

namespace Row

def cached (row : Row) : Cached :=
  { status := .ofNat row.status.toNat, body := row.body, contentType := row.contentType
    createdAt := row.createdAt, expiresAt := row.expiresAt, fingerprint := row.fingerprint }

structure IsSound (row : Row) : Prop where
  status : 0 ≤ row.status ∧ row.status < 65536
  whole : row.expiresAt.IsWhole
  dated : earliest ≤ row.expiresAt

theorem response_of_isSound {row : Row} (sound : row.IsSound) : row.response = .ok row.cached := by
  rw [response, if_pos sound.status]
  rfl

end Row

namespace Table

structure IsSound (t : Table) : Prop where
  rows : ∀ row ∈ t.rows, row.IsSound
  distinct : ∀ row ∈ t.rows, ∀ other ∈ t.rows, row.key = other.key → row = other

def look (t : Table) (now : Timestamp) (key : CompositeKey) : Option Cached :=
  ((t.find? key).map Row.cached).filter (·.isLiveAt now)

variable {t : Table} {now later : Timestamp} {key : CompositeKey} {row : Row} {response : Cached}

theorem isSound_empty : ({} : Table).IsSound where
  rows := by simp
  distinct := by simp

theorem mem_of_find? (found : t.find? key = some row) : row ∈ t.rows ∧ row.key = key := by
  refine ⟨List.mem_of_find?_eq_some found, ?_⟩
  simpa using List.find?_some found

theorem IsSound.find?_eq_some_iff (sound : t.IsSound) :
    t.find? key = some row ↔ row ∈ t.rows ∧ row.key = key := by
  refine ⟨mem_of_find?, ?_⟩
  rintro ⟨present, rfl⟩
  cases found : t.find? row.key with
  | none => exact absurd rfl (find?_eq_none.1 found row present)
  | some other =>
    obtain ⟨presentToo, same⟩ := mem_of_find? found
    rw [sound.distinct row present other presentToo same.symm]

theorem IsSound.look_eq_some_iff (sound : t.IsSound) :
    t.look now key = some response ↔
      ∃ row ∈ t.rows, row.key = key ∧ now < row.expiresAt ∧ row.cached = response := by
  simp only [look, Option.filter_eq_some_iff, Option.map_eq_some_iff, sound.find?_eq_some_iff,
    Cached.isLiveAt_iff]
  constructor
  · rintro ⟨⟨row, ⟨present, same⟩, rfl⟩, live⟩
    exact ⟨row, present, same, live, rfl⟩
  · rintro ⟨row, present, same, live, rfl⟩
    exact ⟨⟨row, ⟨present, same⟩, rfl⟩, live⟩

theorem IsSound.delete (sound : t.IsSound) (rows : List Row) : (t.delete rows).IsSound where
  rows row present := sound.rows row (mem_delete.1 present).1
  distinct row present other presentToo :=
    sound.distinct row (mem_delete.1 present).1 other (mem_delete.1 presentToo).1

theorem IsSound.look_delete (sound : t.IsSound) {rows : List Row}
    (expired : ∀ row ∈ rows, row.expiresAt ≤ later) :
    (t.delete rows).look later key = t.look later key := by
  apply Option.ext
  intro response
  rw [(sound.delete rows).look_eq_some_iff, sound.look_eq_some_iff]
  constructor
  · rintro ⟨row, present, seen⟩
    exact ⟨row, (mem_delete.1 present).1, seen⟩
  · rintro ⟨row, present, same, live, rfl⟩
    have spared : row ∉ rows := fun taken => absurd live (not_lt.2 (expired row taken))
    exact ⟨row, mem_delete.2 ⟨present, spared⟩, same, live, rfl⟩

theorem IsSound.insert (sound : t.IsSound) (soundRow : row.IsSound) (free : t.find? row.key = none) :
    (t.insert row).IsSound where
  rows other present := by
    rcases List.mem_append.1 present with old | new
    · exact sound.rows other old
    · rwa [List.mem_singleton.1 new]
  distinct := by
    have apart := find?_eq_none.1 free
    intro first one second two same
    rcases List.mem_append.1 one with old | new <;> rcases List.mem_append.1 two with oldToo | newToo
    · exact sound.distinct first old second oldToo same
    · rw [List.mem_singleton.1 newToo] at same
      exact absurd same (apart first old)
    · rw [List.mem_singleton.1 new] at same
      exact absurd same.symm (apart second oldToo)
    · rw [List.mem_singleton.1 new, List.mem_singleton.1 newToo]

theorem look_insert (free : t.find? row.key = none) :
    (t.insert row).look now key =
      if row.key = key then (if row.cached.isLiveAt now then some row.cached else none)
      else t.look now key := by
  by_cases same : row.key = key
  · subst same
    have found : (t.insert row).find? row.key = some row := by
      rw [find?] at free
      simp [find?, insert, free]
    simp only [look, found, Option.map_some, Option.filter_some, if_true]
  · simp only [look, find?_insert_of_ne same, if_neg same]

end Table

end Postgres

end OncePerKey
