import OncePerKey.Json.Scanner
import OncePerKey.Json.Writer
import OncePerKey.Proofs.Text.Digits

set_option autoImplicit false

namespace OncePerKey.Json

open Text (Digits Stops)

section

variable {state next : StringState} {seen s : List Char} {c d : Char}

theorem stringFrom_char (step : stringStep true state c = .ok (next, some d))
    (inside : state = .plain → c = '"' → False) :
    stringFrom true state seen (c :: s) = stringFrom true next (d :: seen) s := by
  rw [stringFrom]
  · simp only [step]
  · exact inside

theorem stringFrom_part (step : stringStep true state c = .ok (next, none))
    (inside : state = .plain → c = '"' → False) :
    stringFrom true state seen (c :: s) = stringFrom true next seen s := by
  rw [stringFrom]
  · simp only [step]
  · exact inside

theorem hex_digit? {n : Nat} (small : n < 16) :
    Hex.digit? (Hex.digit n) = some n ∧ (Hex.digit n).utf8Size = 1 := by
  revert n
  decide

theorem stringFrom_hex {left value n : Nat} {high : Option Nat} (small : n < 16) :
    stringFrom true (.hex (left + 2) (some value) high) seen (Hex.digit n :: s) =
      stringFrom true (.hex (left + 1) (some (value * 16 + n)) high) seen s := by
  obtain ⟨digit, one⟩ := hex_digit? small
  refine stringFrom_part ?_ nofun
  simp [stringStep, hexStep, digit, one]

theorem stringFrom_lastHex {value n : Nat} (small : n < 16) (early : value * 16 + n < 0xD800) :
    stringFrom true (.hex 1 (some value) none) seen (Hex.digit n :: s) =
      stringFrom true .plain (Char.ofNat (value * 16 + n) :: seen) s := by
  obtain ⟨digit, one⟩ := hex_digit? small
  have low : ¬ 0xDC00 ≤ value * 16 + n := by omega
  have high : ¬ 0xD800 ≤ value * 16 + n := by omega
  refine stringFrom_char ?_ nofun
  simp [stringStep, hexStep, escapeCode, digit, one, low, high]

theorem stringFrom_unicodeEscape {n : Nat} (early : n < 0xD800) :
    stringFrom true .plain seen (unicodeEscape n ++ s) =
      stringFrom true .plain (Char.ofNat n :: seen) s := by
  have whole : (((0 * 16 + n / 16 / 16 / 16 % 16) * 16 + n / 16 / 16 % 16) * 16 + n / 16 % 16) * 16 +
      n % 16 = n := by omega
  simp only [unicodeEscape, Hex.fixed, List.nil_append, List.cons_append]
  have opens : stringStep true .plain '\\' = .ok (.escape, none) := rfl
  have marks : stringStep true .escape 'u' = .ok (.hex 4 (some 0) none, none) := rfl
  rw [stringFrom_part opens (fun _ => by decide), stringFrom_part marks nofun,
    stringFrom_hex (by omega), stringFrom_hex (by omega), stringFrom_hex (by omega),
    stringFrom_lastHex (by omega) (by omega), whole]

theorem stringFrom_escapeChar (c : Char) :
    stringFrom true .plain seen (escapeChar c ++ s) = stringFrom true .plain (c :: seen) s := by
  have opens : stringStep true .plain '\\' = .ok (.escape, none) := rfl
  have short (e : Char) (meaning : simpleEscape e = some c) (notCode : e ≠ 'u') :
      stringFrom true .plain seen ('\\' :: e :: s) = stringFrom true .plain (c :: seen) s := by
    have step : stringStep true .escape e = .ok (.plain, some c) := by
      simp [stringStep, notCode, meaning]
    rw [stringFrom_part opens (fun _ => by decide), stringFrom_char step nofun]
  unfold escapeChar
  split
  · subst c
    exact short '"' rfl (by decide)
  split
  · subst c
    exact short '\\' rfl (by decide)
  split
  · subst c
    exact short 'b' rfl (by decide)
  split
  · subst c
    exact short 't' rfl (by decide)
  split
  · subst c
    exact short 'n' rfl (by decide)
  split
  · subst c
    exact short 'f' rfl (by decide)
  split
  · subst c
    exact short 'r' rfl (by decide)
  split
  · rename_i control
    rw [stringFrom_unicodeEscape (by omega), c.ofNat_toNat]
  · rename_i notQuote notMark _ _ _ _ _ printable
    refine stringFrom_char ?_ fun _ => notQuote
    simp [stringStep, notMark, printable]

theorem stringFrom_quoted (cs : List Char) :
    stringFrom true .plain seen (cs.flatMap escapeChar ++ '"' :: s) = .ok (seen.reverse ++ cs, s) := by
  induction cs generalizing seen with
  | nil => simp [stringFrom]
  | cons c cs ih =>
    rw [List.flatMap_cons, List.append_assoc, stringFrom_escapeChar, ih]
    simp

theorem string_quoted (text : String) :
    string (text.toList.flatMap escapeChar ++ '"' :: s) = .ok (text, s) := by
  rw [string, stringFrom_quoted]
  simp [Except.map]

end

def EndsNumber (rest : List Char) : Prop :=
  ∀ c ∈ rest.head?, c.isDigit = false ∧ c ≠ '.' ∧ isExponentMark c = false

theorem isDigit_eq : isDigit = Char.isDigit := rfl

section

variable {cs rest : List Char}

theorem EndsNumber.stops (ends : EndsNumber rest) : Stops rest :=
  fun c present => (ends c present).1

theorem digits_append (digits : Digits cs) (ends : EndsNumber rest) :
    Json.digits (cs ++ rest) = .ok (cs, rest) := by
  obtain ⟨c, others, same⟩ := List.exists_cons_of_ne_nil digits.some
  have first := digits.all c (same ▸ List.mem_cons_self)
  have taken := digits.takeWhile ends.stops
  have left := digits.dropWhile ends.stops
  rw [same, List.cons_append] at taken left ⊢
  simp [Json.digits, isDigit_eq, first, taken, left]

theorem placeDigits_of_ends (ends : EndsNumber rest) : placeDigits rest = .ok ([], rest) := by
  unfold placeDigits
  split
  · exact absurd rfl (ends '.' rfl).2.1
  · rfl

theorem exponent_of_ends (ends : EndsNumber rest) : exponent rest = .ok (none, rest) := by
  cases rest with
  | nil => rfl
  | cons c rest => simp [exponent, (ends c rfl).2.2]

theorem le_ofDigitChars (n : Nat) : n ≤ Nat.ofDigitChars 10 cs n := by
  induction cs generalizing n with
  | nil => simp
  | cons c cs ih =>
    have grows := ih (10 * n + (c.toNat - '0'.toNat))
    rw [Nat.ofDigitChars_cons]
    omega

theorem whole_eq {n : Nat} (fits : Nat.ofDigitChars 10 cs n < wordLimit) :
    Mantissa.whole ⟨n, 0⟩ cs = ⟨Nat.ofDigitChars 10 cs n, 0⟩ := by
  induction cs generalizing n with
  | nil => simp [Mantissa.whole]
  | cons c cs ih =>
    have next : n * 10 + digitValue c = 10 * n + (c.toNat - '0'.toNat) := by
      rw [Nat.mul_comm, digitValue]
    rw [Nat.ofDigitChars_cons] at fits ⊢
    have small := Nat.lt_of_le_of_lt (le_ofDigitChars _) fits
    simp only [Mantissa.whole, next, small, if_true]
    exact ih fits

theorem wholeDigits_toDigits (n : Nat) (ends : EndsNumber rest) :
    wholeDigits (Nat.toDigits 10 n ++ rest) = .ok (Nat.toDigits 10 n, rest) := by
  unfold wholeDigits
  split
  · rename_i c others same
    -- A zero at the front stands alone.
    rcases Nat.eq_zero_or_pos n with rfl | positive
    · rw [Nat.toDigits_zero] at same ⊢
      cases same
      simp [isDigit_eq, (ends c rfl).1]
    · obtain ⟨d, more, first⟩ :=
        List.exists_cons_of_ne_nil (Nat.toDigits_ne_nil (n := n) (b := 10))
      have begins := same
      rw [first] at begins
      have zero := (List.cons.inj begins).1
      subst zero
      exact absurd first (Text.toDigits_ne_zero_cons positive)
  · exact digits_append (Text.digits_toDigits n) ends

theorem number_toDigits {n : Nat} (fits : n < wordLimit) (ends : EndsNumber rest) :
    number false (Nat.toDigits 10 n ++ rest) = .ok (.whole n, rest) := by
  have value := Nat.ofDigitChars_ten_toDigits (n := n)
  have read : Mantissa.whole ⟨0, 0⟩ (Nat.toDigits 10 n) = ⟨n, 0⟩ := by
    rw [← value] at fits
    rw [whole_eq fits, value]
  unfold number
  rw [wholeDigits_toDigits n ends]
  simp [placeDigits_of_ends ends, exponent_of_ends ends, read, Mantissa.places, bind, Except.bind,
    pure, Except.pure]

end

end OncePerKey.Json
