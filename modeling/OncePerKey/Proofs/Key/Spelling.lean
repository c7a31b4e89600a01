import OncePerKey.Key.Basic
import OncePerKey.Proofs.Text.Utf8

set_option autoImplicit false

namespace OncePerKey

def isKeyByte (b : UInt8) : Bool :=
  (0x41 ≤ b && b ≤ 0x5A) || (0x61 ≤ b && b ≤ 0x7A) || (0x30 ≤ b && b ≤ 0x39) || b = 0x2D || b = 0x5F

structure Key.Spelled (max : Nat) (bytes : Bytes) : Prop where
  least : 1 ≤ bytes.length
  most : bytes.length ≤ max
  own : ∀ b ∈ bytes, isKeyByte b = true

theorem isKeyChar_iff (c : Char) : isKeyChar c = true ↔
    (0x41 ≤ c.toNat ∧ c.toNat ≤ 0x5A) ∨ (0x61 ≤ c.toNat ∧ c.toNat ≤ 0x7A) ∨
      (0x30 ≤ c.toNat ∧ c.toNat ≤ 0x39) ∨ c.toNat = 0x2D ∨ c.toNat = 0x5F := by
  have order (d e : Char) : d ≤ e ↔ d.toNat ≤ e.toNat := Iff.rfl
  simp only [isKeyChar, Bool.or_eq_true, Bool.and_eq_true, decide_eq_true_eq, beq_iff_eq, order,
    ← Char.toNat_inj, Char.reduceToNat]
  omega

theorem isKeyByte_iff (b : UInt8) : isKeyByte b = true ↔
    (0x41 ≤ b.toNat ∧ b.toNat ≤ 0x5A) ∨ (0x61 ≤ b.toNat ∧ b.toNat ≤ 0x7A) ∨
      (0x30 ≤ b.toNat ∧ b.toNat ≤ 0x39) ∨ b.toNat = 0x2D ∨ b.toNat = 0x5F := by
  simp only [isKeyByte, Bool.or_eq_true, Bool.and_eq_true, decide_eq_true_eq, UInt8.le_iff_toNat_le,
    ← UInt8.toNat_inj, UInt8.reduceToNat]
  omega

theorem not_isBlank_of_isKeyChar {c : Char} (own : isKeyChar c = true) : Text.isBlank c = false := by
  rw [isKeyChar_iff] at own
  rw [Text.isBlank, Text.inRanges, List.any_eq_false]
  simp only [Text.blankRanges, List.forall_mem_cons, Bool.and_eq_true, decide_eq_true_eq, not_and,
    List.not_mem_nil, false_imp_iff, implies_true, and_true]
  omega

theorem toNat_lt_of_isKeyChar {c : Char} (own : isKeyChar c = true) : c.toNat < 0x80 := by
  rw [isKeyChar_iff] at own
  omega

theorem toNat_lt_of_isKeyByte {b : UInt8} (own : isKeyByte b = true) : b.toNat < 0x80 := by
  rw [isKeyByte_iff] at own
  omega

namespace Key

theorem parse_of_keyChars {raw : String} {max : Nat} (filled : raw.toList ≠ [])
    (most : raw.toList.length ≤ max) (own : ∀ c ∈ raw.toList, isKeyChar c = true) :
    parse raw max = .ok ⟨raw⟩ := by
  have shown : raw.toList.all Text.isBlank = false := by
    obtain ⟨c, present⟩ := List.exists_mem_of_ne_nil _ filled
    exact List.all_eq_false.2 ⟨c, present, by simp [not_isBlank_of_isKeyChar (own c present)]⟩
  simp only [parse, shown, Bool.false_eq_true, if_false, if_neg (Nat.not_lt.2 most),
    (firstInvalid_eq_none_iff 0 _).2 own]

theorem keyChars_of_parse {raw : String} {max : Nat} {key : Key} (parsed : parse raw max = .ok key) :
    key = ⟨raw⟩ ∧ raw.toList ≠ [] ∧ raw.toList.length ≤ max ∧ ∀ c ∈ raw.toList, isKeyChar c = true := by
  unfold parse at parsed
  simp only at parsed
  split at parsed
  · exact nomatch parsed
  rename_i shown
  split at parsed
  · exact nomatch parsed
  rename_i most
  split at parsed
  · exact nomatch parsed
  rename_i nothing
  cases parsed
  refine ⟨rfl, fun empty => shown (by rw [empty]; rfl), Nat.not_lt.1 most, ?_⟩
  exact (firstInvalid_eq_none_iff 0 _).1 nothing

variable {bytes : Bytes} {max : Nat} {key : Key}

theorem encode_of_parse (parsed : parse (Utf8.decodeLossy bytes) max = .ok key) :
    Utf8.encode key.text = bytes := by
  obtain ⟨rfl, -, -, own⟩ := keyChars_of_parse parsed
  refine Utf8.encode_decodeLossy fun replaced => ?_
  have keyed := own _ replaced
  contradiction

theorem spelled_of_parse (parsed : parse (Utf8.decodeLossy bytes) max = .ok key) :
    Spelled max bytes := by
  have spelling := encode_of_parse parsed
  obtain ⟨rfl, filled, most, own⟩ := keyChars_of_parse parsed
  have ascii c inside := toNat_lt_of_isKeyChar (own c inside)
  rw [Utf8.encode, Utf8.encodeChars_ascii ascii] at spelling
  rw [← spelling]
  constructor
  · rw [List.length_map]
    exact List.length_pos_iff.2 filled
  · rwa [List.length_map]
  · intro b present
    obtain ⟨c, inside, rfl⟩ := List.mem_map.1 present
    have bounds := (isKeyChar_iff c).1 (own c inside)
    rw [isKeyByte_iff, Utf8.toNat_byte (by omega)]
    exact bounds

theorem keyChars_ofAscii (own : ∀ b ∈ bytes, isKeyByte b = true) :
    ∀ c ∈ (Utf8.ofAscii bytes).toList, isKeyChar c = true := by
  intro c present
  rw [Utf8.ofAscii, String.toList_ofList] at present
  obtain ⟨b, inside, rfl⟩ := List.mem_map.1 present
  rw [isKeyChar_iff, Utf8.toNat_ofNat_of_ascii (toNat_lt_of_isKeyByte (own b inside))]
  exact (isKeyByte_iff b).1 (own b inside)

theorem parse_of_spelled (spelled : Spelled max bytes) :
    parse (Utf8.decodeLossy bytes) max = .ok ⟨Utf8.ofAscii bytes⟩ := by
  obtain ⟨least, most, own⟩ := spelled
  have read : Utf8.decodeLossy bytes = Utf8.ofAscii bytes := by
    rw [← Utf8.decodeLossy_encode (Utf8.ofAscii bytes),
      Utf8.encode_ofAscii fun b inside => toNat_lt_of_isKeyByte (own b inside)]
  have length : (Utf8.ofAscii bytes).toList.length = bytes.length := by
    rw [Utf8.ofAscii, String.toList_ofList, List.length_map]
  rw [read]
  rw [← length] at least most
  exact parse_of_keyChars (List.length_pos_iff.1 least) most (keyChars_ofAscii own)

theorem parse_decodeLossy_iff :
    (∃ key, parse (Utf8.decodeLossy bytes) max = .ok key) ↔ Spelled max bytes :=
  ⟨fun ⟨_, parsed⟩ => spelled_of_parse parsed, fun spelled => ⟨_, parse_of_spelled spelled⟩⟩

end Key

end OncePerKey
