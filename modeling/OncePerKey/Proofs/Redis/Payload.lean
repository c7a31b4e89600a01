import OncePerKey.Proofs.Redis.Sequence

set_option autoImplicit false

namespace OncePerKey.Redis

-- A leap second within a minute turns into the second behind it. All else is given back.
theorem payload_round_trip (response : Cached) :
    Cached.codec.parse (Cached.codec.render response) = .ok response.civil ∧
      (response.civil = response ↔ response.IsCivil) ∧
      ∀ (ids : Nat → Uuid) (space : String) (key : CompositeKey) (now later : Timestamp) (s : Session),
        s.server.value? now (responseName space key) = none → 0 < millis response now →
        later.toNanos < now.toNanos + millis response now * 1000000 →
        ∃ s', (write space key response).run (Session.answer ids now) s = (.ok .written, s') ∧
          (read (responseName space key)).run (Session.answer ids later) s' =
            (.ok (some response.civil), s') := by
  refine ⟨Cached.parse_render response, Cached.civil_eq_self_iff, ?_⟩
  intro ids space key now later s free left early
  refine ⟨_, (run_write left).trans (run_writeAttempts_of_absent free), run_read_of_payload ?_⟩
  have there : later.toNanos < now.toNanos + (millis response now).toNat * 1000000 := by omega
  rw [Server.value?_put_self, if_pos there]

theorem stray_second_moves :
    Cached.codec.parse (Cached.codec.render strayInvoice) =
        .ok { strayInvoice with createdAt := ⟨1798761601, 500000000, by decide⟩ } ∧
      Cached.codec.parse (Cached.codec.render strayInvoice) ≠ .ok strayInvoice := by
  have shown : strayInvoice.civil =
      { strayInvoice with createdAt := ⟨1798761601, 500000000, by decide⟩ } := rfl
  rw [Cached.parse_render, shown]
  exact ⟨rfl, fun same => nomatch congrArg Timestamp.seconds (congrArg Cached.createdAt (Except.ok.inj same))⟩

def longestKept : Cached :=
  { status := 299, body := some "\"\\\x00\x1f\né😀", contentType := some "",
    createdAt := ⟨Timestamp.firstSecond + 59, 1999999999, by decide⟩,
    expiresAt := ⟨Timestamp.lastSecond, 123000000, by decide⟩, fingerprint := none }

theorem longestKept_round_trip :
    Cached.codec.render longestKept =
        "\x7b\"status_code\":299,\"body\":\"\\\"\\\\\\u0000\\u001f\\né😀\",\"content_type\":\"\"," ++
        "\"created_at\":\"-262143-01-01T00:00:60.999999999Z\"," ++
        "\"expires_at\":\"+262142-12-31T23:59:59.123Z\",\"request_fingerprint\":null\x7d" ∧
      Cached.codec.parse (Cached.codec.render longestKept) = .ok longestKept ∧
      ∃ s', (write "idem" invoiceKey longestKept).run (Session.answer Uuid.ofSeed MemoryStore.dawn) {} =
          (.ok .written, s') ∧
        (read (responseName "idem" invoiceKey)).run (Session.answer Uuid.ofSeed MemoryStore.noon) s' =
          (.ok (some longestKept), s') := by
  obtain ⟨parsed, same, kept⟩ := payload_round_trip longestKept
  rw [same.2 (by decide)] at parsed kept
  exact ⟨by decide +kernel, parsed,
    kept Uuid.ofSeed "idem" _ MemoryStore.dawn MemoryStore.noon {} rfl (by decide) (by decide)⟩

end OncePerKey.Redis
