import Mathlib.Data.List.Basic
import OncePerKey.Http.Gate
import OncePerKey.Proofs.Text.Utf8

set_option autoImplicit false

namespace OncePerKey.Http

namespace Body

-- The bytes of a body up to where it breaks off.
def readable : Body → Bytes
  | [] | .error _ :: _ => []
  | .ok piece :: rest => piece ++ readable rest

def fault? : Body → Option BodyFault
  | [] => none
  | .error fault :: _ => some fault
  | .ok _ :: rest => fault? rest

variable {room : Nat} {b : Body} {bytes : Bytes}

theorem read_eq (b : Body) :
    b.read = match b.fault? with
      | some fault => .error fault
      | none => .ok b.readable := by
  induction b with
  | nil => rfl
  | cons piece rest ih =>
    cases piece with
    | error fault => rfl
    | ok piece =>
      rw [read, ih, fault?, readable]
      cases fault? rest <;> rfl

theorem collect_eq (room : Nat) (b : Body) :
    b.collect room = if room < b.readable.length then .error .lengthLimit else b.read := by
  induction b generalizing room with
  | nil => simp [collect, readable, read]
  | cons piece rest ih =>
    cases piece with
    | error fault => simp [collect, readable, read]
    | ok piece =>
      rw [collect, ih, readable, read, List.length_append]
      by_cases fits : piece.length ≤ room
      · rw [if_neg (Nat.not_lt.2 fits)]
        by_cases long : room - piece.length < (readable rest).length
        · rw [if_pos long, if_pos (by omega)]
          rfl
        · rw [if_neg long, if_neg (by omega)]
      · rw [if_pos (Nat.not_le.1 fits), if_pos (by omega)]

theorem bytes?_eq_some_iff : b.bytes? = some bytes ↔ b.fault? = none ∧ b.readable = bytes := by
  rw [bytes?, read_eq]
  cases b.fault? <;> simp [Except.toOption]

theorem read_eq_ok_iff : b.read = .ok bytes ↔ b.bytes? = some bytes := by
  rw [bytes?]
  cases b.read <;> simp [Except.toOption]

theorem collect_eq_error_iff {fault : BodyFault} : b.collect room = .error fault ↔
    room < b.readable.length ∧ fault = .lengthLimit ∨
      b.readable.length ≤ room ∧ b.fault? = some fault := by
  rw [collect_eq, read_eq]
  by_cases long : room < b.readable.length
  · simp [long, Nat.not_le.2 long, eq_comm]
  · cases b.fault? <;> simp [long, Nat.not_lt.1 long]

theorem collect_of_bytes? (whole : b.bytes? = some bytes) (fits : bytes.length ≤ room) :
    b.collect room = .ok bytes := by
  obtain ⟨-, rfl⟩ := bytes?_eq_some_iff.1 whole
  rw [collect_eq, if_neg (Nat.not_lt.2 fits), read_eq_ok_iff.2 whole]

@[simp] theorem bytes?_whole (bytes : Bytes) : (whole bytes).bytes? = some bytes := by
  simp [bytes?_eq_some_iff, whole, fault?, readable]

end Body

namespace Headers

variable {h : Headers} {name : String} {value : Bytes}

theorem set_of_absent (absent : ∀ p ∈ h, p.1 ≠ name) : h.set name value = h ++ [(name, value)] := by
  rw [set, List.filter_eq_self.2 (by simpa using absent)]

theorem toNat_of_isShownByte {b : UInt8} (shown : isShownByte b = true) :
    b.toNat < 0x80 ∧ isValueByte b = true := by
  simp only [isShownByte, isValueByte, Bool.or_eq_true, Bool.and_eq_true, decide_eq_true_eq,
    UInt8.le_iff_toNat_le, UInt8.lt_iff_toNat_lt, ← UInt8.toNat_inj, UInt8.reduceToNat, ne_eq] at *
  omega

theorem encode_text? (h : Headers) (name : String) :
    (h.text? name).map Utf8.encode = (h.get? name).filter (·.all isShownByte) := by
  cases found : h.get? name with
  | none =>
    rw [text?, found]
    rfl
  | some value =>
    have text : h.text? name =
        if value.all isShownByte then (Utf8.decode value).toOption else none := by
      rw [text?, found]
      rfl
    rw [text, Option.filter_some]
    cases shown : value.all isShownByte with
    | false => rfl
    | true =>
      have spelled : Utf8.encode (Utf8.ofAscii value) = value := Utf8.encode_ofAscii fun b inside =>
        (toNat_of_isShownByte (List.all_eq_true.1 shown b inside)).1
      have decoded : Utf8.decode value = .ok (Utf8.ofAscii value) := by
        rw [← Utf8.decode_encode, spelled]
      rw [if_pos rfl, if_pos rfl, decoded]
      exact congrArg some spelled

end Headers

end OncePerKey.Http
