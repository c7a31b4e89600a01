import OncePerKey.Proofs.Response.Snapshot
import OncePerKey.Proofs.Text.WellFormed

set_option autoImplicit false

namespace OncePerKey.Cached

def capture (now : Timestamp) (captured : Captured) (lifetime : Int) (fingerprint : Option String) :
    Except Failure Cached :=
  (ofCaptured now captured lifetime fingerprint).mapError SnapshotFault.toFailure

structure IsSnapshot (now : Timestamp) (captured : Captured) (lifetime : Int)
    (fingerprint : Option String) (cached : Cached) : Prop where
  restored : cached.toCaptured = captured
  marked : cached.fingerprint = fingerprint
  created : cached.createdAt = now
  expires : now.plus? lifetime = some cached.expiresAt
  lasts : now.IsPlain → cached.expiresAt.toNanos = now.toNanos + lifetime
  live_iff : ∀ moment, cached.isLiveAt moment = true ↔ moment < cached.expiresAt
  -- On a clock without leap seconds the lifetime is what has passed.
  live_plain_iff : now.IsPlain → ∀ moment : Timestamp, moment.IsPlain →
    (cached.isLiveAt moment = true ↔ moment.toNanos - now.toNanos < lifetime)

variable {now expiry : Timestamp} {captured : Captured} {lifetime : Int} {fingerprint : Option String}
  {cached : Cached}

theorem capture_of_not_positive (spent : lifetime ≤ 0) : capture now captured lifetime fingerprint =
    .error (.validation "Cached response TTL must be positive") := by
  unfold capture ofCaptured
  rw [if_pos spent]
  rfl

theorem capture_of_illFormed (now : Timestamp) (fingerprint : Option String) (positive : 0 < lifetime)
    (broken : ¬ Utf8.WellFormed captured.body) :
    ∃ fault, capture now captured lifetime fingerprint = .error (SnapshotFault.notText fault).toFailure := by
  cases decoded : Utf8.decode captured.body with
  | ok text => exact absurd (Utf8.wellFormed_iff_decode.2 ⟨text, decoded⟩) broken
  | error fault =>
    refine ⟨fault, ?_⟩
    unfold capture ofCaptured
    rw [if_neg (by omega), decoded]
    rfl

theorem isSnapshot_of_ofCaptured (made : ofCaptured now captured lifetime fingerprint = .ok cached) :
    IsSnapshot now captured lifetime fingerprint cached := by
  have created := createdAt_of_ofCaptured made
  have ends := plus?_of_ofCaptured made
  rw [created] at ends
  refine ⟨toCaptured_of_ofCaptured made, fingerprint_of_ofCaptured made, created, ends,
    fun plain => (Timestamp.toNanos_plus? plain ends).1, cached.isLiveAt_iff, fun plain moment clear => ?_⟩
  obtain ⟨sum, plainEnd⟩ := Timestamp.toNanos_plus? plain ends
  rw [isLiveAt_iff, ← Timestamp.toNanos_lt_iff clear plainEnd, sum]
  omega

theorem exists_capture (fingerprint : Option String) (positive : 0 < lifetime)
    (formed : Utf8.WellFormed captured.body) (ends : now.plus? lifetime = some expiry) :
    ∃ cached, capture now captured lifetime fingerprint = .ok cached ∧
      IsSnapshot now captured lifetime fingerprint cached := by
  obtain ⟨text, decoded⟩ := Utf8.wellFormed_iff_decode.1 formed
  have made : ∃ cached, ofCaptured now captured lifetime fingerprint = .ok cached := by
    unfold ofCaptured
    rw [if_neg (by omega), decoded, ends]
    exact ⟨_, rfl⟩
  obtain ⟨cached, made⟩ := made
  refine ⟨cached, ?_, isSnapshot_of_ofCaptured made⟩
  rw [capture, made]
  rfl

-- A response with a positive lifetime is captured exactly if its body is well-formed UTF-8, and then loses
-- nothing.
theorem capture_exact (ends : now.plus? lifetime = some expiry) (captured : Captured)
    (fingerprint : Option String) :
    ((∃ detail, capture now captured lifetime fingerprint = .error (.validation detail)) ↔ lifetime ≤ 0) ∧
    (0 < lifetime →
      ((∃ detail, capture now captured lifetime fingerprint = .error (.serialization detail)) ↔
        ¬ Utf8.WellFormed captured.body) ∧
      (Utf8.WellFormed captured.body → ∃ cached,
        capture now captured lifetime fingerprint = .ok cached ∧ cached.expiresAt = expiry ∧
          IsSnapshot now captured lifetime fingerprint cached)) ∧
    ∀ before behind, captured.body = before ++ behind → Utf8.Flawed behind →
      ¬ Utf8.WellFormed captured.body := by
  refine ⟨⟨fun refused => ?_, fun spent => ⟨_, capture_of_not_positive spent⟩⟩, fun positive => ⟨⟨?_, ?_⟩, ?_⟩, ?_⟩
  · obtain ⟨detail, refused⟩ := refused
    by_contra! positive
    by_cases formed : Utf8.WellFormed captured.body
    · obtain ⟨cached, made, -⟩ := exists_capture fingerprint positive formed ends
      exact nomatch made.symm.trans refused
    · obtain ⟨fault, broken⟩ := capture_of_illFormed now fingerprint positive formed
      exact nomatch broken.symm.trans refused
  · rintro ⟨detail, refused⟩ formed
    obtain ⟨cached, made, -⟩ := exists_capture fingerprint positive formed ends
    exact nomatch made.symm.trans refused
  · intro broken
    obtain ⟨fault, refused⟩ := capture_of_illFormed now fingerprint positive broken
    exact ⟨_, refused⟩
  · intro formed
    obtain ⟨cached, made, snapshot⟩ := exists_capture fingerprint positive formed ends
    exact ⟨cached, made, Option.some.inj (snapshot.expires.symm.trans ends), snapshot⟩
  · intro before behind parts flawed
    rw [parts]
    exact Utf8.not_wellFormed_of_flawed flawed before

def greeting : Captured :=
  { status := 201, contentType := some "text/plain", body := Utf8.encode "naïve 😀" }

-- With half of a surrogate pair behind it.
def brokenGreeting : Captured :=
  { greeting with body := greeting.body ++ [0xED, 0xA0, 0x80] }

theorem greeting_restored :
    (∃ cached, capture .epoch greeting 3600000000000 (some "f") = .ok cached ∧
      cached.toCaptured = greeting ∧ cached.expiresAt = ⟨3600, 0, by decide⟩) ∧
    (∃ detail, capture .epoch brokenGreeting 3600000000000 none = .error (.serialization detail)) ∧
    ∃ detail, capture .epoch brokenGreeting 0 none = .error (.validation detail) := by
  have ends : Timestamp.epoch.plus? 3600000000000 = some ⟨3600, 0, by decide⟩ := by decide
  have still : Timestamp.epoch.plus? 0 = some .epoch := by decide
  have formed : Utf8.WellFormed greeting.body := Utf8.wellFormed_iff.2 ⟨_, rfl⟩
  obtain ⟨-, kept, -⟩ := capture_exact ends greeting (some "f")
  obtain ⟨-, broken, flaws⟩ := capture_exact ends brokenGreeting none
  obtain ⟨spent, -⟩ := capture_exact still brokenGreeting none
  obtain ⟨cached, made, expires, snapshot⟩ := (kept (by decide)).2 formed
  have flawed : Utf8.Flawed [0xED, 0xA0, 0x80] := .surrogate 0xD800 (by decide) (by decide) []
  exact ⟨⟨cached, made, snapshot.restored, expires⟩, (broken (by decide)).1.2 (flaws _ _ rfl flawed),
    spent.2 (by decide)⟩

end OncePerKey.Cached
