import OncePerKey.Proofs.Json.Schema
import OncePerKey.Proofs.Moment
import OncePerKey.Proofs.Text.Utf8
import OncePerKey.Response.Basic
import OncePerKey.Settings.Basic

set_option autoImplicit false

namespace OncePerKey

namespace Cached

variable {now : Timestamp} {captured : Captured} {lifetime : Int} {fingerprint : Option String}

theorem of_ofCaptured {cached : Cached}
    (snapshot : ofCaptured now captured lifetime fingerprint = .ok cached) :
    ∃ text expiresAt, Utf8.decode captured.body = .ok text ∧ now.plus? lifetime = some expiresAt ∧
      cached = ⟨captured.status, if captured.body.isEmpty then none else some text,
        captured.contentType, now, expiresAt, fingerprint⟩ := by
  unfold ofCaptured at snapshot
  split at snapshot
  · exact nomatch snapshot
  · split at snapshot
    · exact nomatch snapshot
    · exact nomatch snapshot
    · rename_i text expiresAt decoded ends
      cases snapshot
      exact ⟨text, expiresAt, decoded, ends, rfl⟩

theorem toCaptured_of_ofCaptured {cached : Cached}
    (snapshot : ofCaptured now captured lifetime fingerprint = .ok cached) :
    cached.toCaptured = captured := by
  obtain ⟨text, expiresAt, decoded, -, rfl⟩ := of_ofCaptured snapshot
  obtain ⟨status, contentType, body⟩ := captured
  cases body with
  | nil => rfl
  | cons b rest =>
    simp only [toCaptured, List.isEmpty_cons, Bool.false_eq_true, if_false, Option.map_some,
      Option.getD_some, Utf8.encode_of_decode decoded]

theorem fingerprint_of_ofCaptured {cached : Cached}
    (snapshot : ofCaptured now captured lifetime fingerprint = .ok cached) :
    cached.fingerprint = fingerprint := by
  obtain ⟨text, expiresAt, -, -, rfl⟩ := of_ofCaptured snapshot
  rfl

theorem createdAt_of_ofCaptured {cached : Cached}
    (snapshot : ofCaptured now captured lifetime fingerprint = .ok cached) :
    cached.createdAt = now := by
  obtain ⟨text, expiresAt, -, -, rfl⟩ := of_ofCaptured snapshot
  rfl

theorem plus?_of_ofCaptured {cached : Cached}
    (snapshot : ofCaptured now captured lifetime fingerprint = .ok cached) :
    cached.createdAt.plus? lifetime = some cached.expiresAt := by
  obtain ⟨text, expiresAt, -, ends, rfl⟩ := of_ofCaptured snapshot
  exact ends

theorem body_of_ofCaptured {cached : Cached}
    (snapshot : ofCaptured now captured lifetime fingerprint = .ok cached) :
    cached.body ≠ some "" := by
  obtain ⟨text, expiresAt, decoded, -, rfl⟩ := of_ofCaptured snapshot
  have spelled := Utf8.encode_of_decode decoded
  cases body : captured.body with
  | nil => simp
  | cons b rest =>
    -- The empty text would be spelled with no bytes at all.
    rintro ⟨⟩
    exact nomatch spelled.trans body

theorem ofCaptured_of_text {text : String} (positive : 0 < lifetime)
    (decoded : Utf8.decode captured.body = .ok text) :
    ofCaptured now captured lifetime fingerprint = .error .neverExpires ∨
      ∃ cached, ofCaptured now captured lifetime fingerprint = .ok cached := by
  unfold ofCaptured
  rw [if_neg (by omega), decoded]
  cases now.plus? lifetime with
  | none => exact .inl rfl
  | some expiresAt => exact .inr ⟨_, rfl⟩

theorem ofCaptured_ne_ok {fault : SnapshotFault} (positive : 0 < lifetime)
    (snapshot : ofCaptured now captured lifetime fingerprint = .error fault)
    (other : fault ≠ .neverExpires) (moment : Timestamp) (term : Int) (mark : Option String)
    (cached : Cached) : ofCaptured moment captured term mark ≠ .ok cached := by
  intro made
  obtain ⟨text, expiresAt, decoded, -⟩ := of_ofCaptured made
  rcases ofCaptured_of_text positive decoded with never | ⟨stored, taken⟩
  · exact other (Except.error.inj (snapshot.symm.trans never))
  · cases snapshot.symm.trans taken

theorem codec_flat : ∃ fields, codec.schema = .record fields ∧ fields.AreFlat := by
  have word : 65536 ≤ Json.wordLimit := by decide
  refine ⟨_, rfl, ?_⟩
  simp [Json.Fields.AreFlat, Json.Schema.IsMember, Json.Schema.IsScalar, Json.Fields.names, word]

def civil (c : Cached) : Cached :=
  { c with createdAt := c.createdAt.civil, expiresAt := c.expiresAt.civil }

def IsCivil (c : Cached) : Prop :=
  c.createdAt.IsCivil ∧ c.expiresAt.IsCivil

instance (c : Cached) : Decidable c.IsCivil :=
  inferInstanceAs (Decidable (_ ∧ _))

theorem civil_eq_self_iff {c : Cached} : c.civil = c ↔ c.IsCivil := by
  rw [IsCivil, ← Timestamp.civil_eq_self_iff, ← Timestamp.civil_eq_self_iff]
  cases c
  simp [civil]

theorem toNanos_expiresAt_civil (c : Cached) : c.civil.expiresAt.toNanos = c.expiresAt.toNanos :=
  c.expiresAt.toNanos_civil

theorem render_civil (c : Cached) : codec.render c.civil = codec.render c := by
  simp [Json.Codec.render, codec, civil, Json.Schema.write, Json.Fields.write, Rfc3339.render_civil]

theorem parse_render (response : Cached) :
    codec.parse (codec.render response) = .ok response.civil := by
  obtain ⟨fields, shape, flat⟩ := codec_flat
  have same : codec.ofValue (codec.schema.civil (codec.toValue response)) = response.civil := by
    obtain ⟨status, body, contentType, createdAt, expiresAt, fingerprint⟩ := response
    cases body <;> cases contentType <;> cases fingerprint <;> rfl
  rw [Json.Codec.parse_render shape flat, same]

end Cached

theorem Violation.le_of_ofRange {field : String} {value low : Int} {high : Option Int}
    (inRange : ofRange field value low high = []) : low ≤ value ∧ ∀ most ∈ high, value ≤ most := by
  unfold ofRange at inRange
  split at inRange
  · rename_i fits
    simpa [Option.all_eq_true] using fits
  · exact nomatch inRange

namespace Policy

variable {p : Policy}

theorem expirationSecs_of_valid (valid : p.Valid) :
    1 ≤ p.expirationSecs.toNat ∧ p.expirationSecs.toNat ≤ 31536000 := by
  unfold Valid violations at valid
  simp only [List.append_eq_nil_iff] at valid
  obtain ⟨least, most⟩ := Violation.le_of_ofRange valid.1.1.1.1.1.2
  have most := most 31536000 rfl
  omega

theorem lockTimeoutSecs_of_valid (valid : p.Valid) : 1 ≤ p.lockTimeoutSecs.toNat := by
  unfold Valid violations at valid
  simp only [List.append_eq_nil_iff] at valid
  have least := (Violation.le_of_ofRange valid.1.1.2).1
  omega

theorem toInt_toInt64 {n : UInt64} (small : 2 * n.toNat < 2 ^ 64) : n.toInt64.toInt = n.toNat :=
  BitVec.toInt_eq_toNat_of_lt small

theorem lifetime?_of_valid (valid : p.Valid) :
    p.lifetime? = some ((p.expirationSecs.toNat : Int) * nanosPerSecond) := by
  obtain ⟨least, most⟩ := expirationSecs_of_valid valid
  have longest : longestLapse = 9223372036854775807000000 := rfl
  unfold lifetime? lapse?
  rw [toInt_toInt64 (by omega), if_pos]
  simp only [longest, nanosPerSecond, Bool.and_eq_true]
  constructor
  · exact decide_eq_true (by omega)
  · exact decide_eq_true (by omega)

theorem lifetime_pos {lifetime : Int} (valid : p.Valid) (lives : p.lifetime? = some lifetime) :
    0 < lifetime := by
  obtain ⟨least, most⟩ := expirationSecs_of_valid valid
  rw [lifetime?_of_valid valid] at lives
  cases lives
  simp only [nanosPerSecond]
  omega

end Policy

end OncePerKey
