import OncePerKey.Proofs.Moment
import OncePerKey.Proofs.Text.Digits
import OncePerKey.Proofs.Time.Calendar
import OncePerKey.Time.Rfc3339

set_option autoImplicit false

namespace OncePerKey

namespace Timestamp

def IsCivil (t : Timestamp) : Prop :=
  t.nanos < nanosPerSecond ∨ t.seconds % 60 = 59

instance (t : Timestamp) : Decidable t.IsCivil :=
  inferInstanceAs (Decidable (_ ∨ _))

theorem fits_of_not_isCivil {t : Timestamp} (odd : ¬ t.IsCivil) :
    Fits (t.seconds + 1) (t.nanos - nanosPerSecond) := by
  obtain ⟨first, last, range⟩ := t.fits
  -- The last second of the calendar is the last of its minute.
  have final : lastSecond % 60 = 59 := by decide +kernel
  simp only [IsCivil, nanosPerSecond] at odd ⊢
  exact ⟨by omega, by omega, by omega⟩

-- A leap second within a minute has the text of the second behind it.
def civil (t : Timestamp) : Timestamp :=
  if civil : t.IsCivil then t
  else ⟨t.seconds + 1, t.nanos - nanosPerSecond, fits_of_not_isCivil civil⟩

variable {t : Timestamp}

theorem IsPlain.isCivil (plain : t.IsPlain) : t.IsCivil :=
  .inl plain

theorem civil_of_isCivil (civil : t.IsCivil) : t.civil = t :=
  dif_pos civil

theorem isCivil_civil (t : Timestamp) : t.civil.IsCivil := by
  have range := t.fits.2.2
  by_cases odd : t.IsCivil
  · rwa [civil_of_isCivil odd]
  · rw [civil, dif_neg odd]
    simp only [IsCivil, nanosPerSecond] at *
    omega

theorem civil_eq_self_iff : t.civil = t ↔ t.IsCivil := by
  refine ⟨fun same => ?_, civil_of_isCivil⟩
  rw [← same]
  exact isCivil_civil t

theorem toNanos_civil (t : Timestamp) : t.civil.toNanos = t.toNanos := by
  by_cases odd : t.IsCivil
  · rw [civil_of_isCivil odd]
  · have leap : nanosPerSecond ≤ t.nanos := Nat.le_of_not_lt fun plain => odd (.inl plain)
    rw [civil, dif_neg odd]
    simp only [toNanos, nanosPerSecond] at leap ⊢
    omega

end Timestamp

namespace Rfc3339

open Text (Digits Stops digits_toDigits stops_nil stops_cons)

theorem isDigit_eq : isDigit = Char.isDigit := rfl

theorem digitsValue_eq (cs : List Char) : digitsValue cs = Nat.ofDigitChars 10 cs 0 := by
  simp only [digitsValue, Nat.ofDigitChars, Nat.mul_comm]

theorem digitChar_eq {n : Nat} (small : n < 10) : Char.ofNat ('0'.toNat + n) = n.digitChar := by
  revert n
  decide

section

variable (width n : Nat)

theorem length_fixedDigits : (fixedDigits width n).length = width := by
  induction width generalizing n with
  | zero => rfl
  | succ width ih => simp [fixedDigits, ih]

theorem isDigit_of_mem_fixedDigits : ∀ c ∈ fixedDigits width n, c.isDigit = true := by
  induction width generalizing n with
  | zero => simp [fixedDigits]
  | succ width ih =>
    intro c present
    rcases List.mem_append.1 present with earlier | last
    · exact ih _ c earlier
    · rw [List.mem_singleton.1 last, digitChar_eq (Nat.mod_lt n (by decide))]
      simp [Nat.mod_lt n (show 10 > 0 by decide)]

theorem ofDigitChars_fixedDigits : Nat.ofDigitChars 10 (fixedDigits width n) 0 = n % 10 ^ width := by
  induction width generalizing n with
  | zero => simp [fixedDigits, Nat.mod_one]
  | succ width ih =>
    have small := Nat.mod_lt n (show 10 > 0 by decide)
    rw [fixedDigits, Nat.ofDigitChars_append, ih, digitChar_eq small,
      Nat.ofDigitChars_cons_digitChar_of_lt_ten small, Nat.ofDigitChars_nil, Nat.pow_succ,
      Nat.mul_comm (10 ^ width), Nat.mod_mul]
    omega

end

theorem digits_fixedDigits (width : Nat) (positive : 0 < width) (n : Nat) :
    Digits (fixedDigits width n) where
  all := isDigit_of_mem_fixedDigits width n
  some := List.ne_nil_of_length_pos (by rwa [length_fixedDigits])

section

variable {cs rest : List Char}

theorem number?_digits (digits : Digits cs) (rest : List Char) :
    number? cs.length (cs ++ rest) = some (Nat.ofDigitChars 10 cs 0, rest) := by
  have all : cs.takeWhile isDigit = cs := by
    simpa [isDigit_eq] using digits.takeWhile stops_nil
  simp [number?, digits.trimStart, all, digits.some, digitsValue_eq]

theorem longNumber?_digits (digits : Digits cs) (stops : Stops rest) :
    longNumber? (cs ++ rest) = some (Nat.ofDigitChars 10 cs 0, rest) := by
  simp [longNumber?, isDigit_eq, digits.takeWhile stops, digits.some, digitsValue_eq]

end

theorem number?_two {n : Nat} (small : n < 100) (rest : List Char) :
    number? 2 (fixedDigits 2 n ++ rest) = some (n, rest) := by
  have read := number?_digits (digits_fixedDigits 2 (by decide) n) rest
  rwa [length_fixedDigits, ofDigitChars_fixedDigits, Nat.mod_eq_of_lt (by omega)] at read

theorem digits_paddedDigits (n : Nat) : Digits (paddedDigits 4 n) := by
  unfold paddedDigits
  split
  · exact digits_fixedDigits 4 (by decide) n
  · exact digits_toDigits n

theorem ofDigitChars_paddedDigits (n : Nat) : Nat.ofDigitChars 10 (paddedDigits 4 n) 0 = n := by
  unfold paddedDigits
  split
  · rename_i small
    rw [Nat.pow_eq] at small
    rw [ofDigitChars_fixedDigits, Nat.mod_eq_of_lt small]
  · exact Nat.ofDigitChars_ten_toDigits

theorem year?_yearChars (year : Int) {rest : List Char} (stops : Stops rest) :
    year? (yearChars year ++ rest) = some (year, rest) := by
  have signed (n : Nat) := longNumber?_digits (digits_paddedDigits n) stops
  simp only [ofDigitChars_paddedDigits] at signed
  have minus : Text.isBlank '-' = false := by decide
  have plus : Text.isBlank '+' = false := by decide
  unfold yearChars
  split
  · rename_i plain
    simp only [Bool.and_eq_true, decide_eq_true_eq] at plain
    have digits := digits_fixedDigits 4 (by decide) year.toNat
    have read := number?_digits digits rest
    rw [length_fixedDigits, ofDigitChars_fixedDigits, Nat.mod_eq_of_lt (by omega)] at read
    have back : ((year.toNat : Nat) : Int) = year := by omega
    simp only [year?, digits.trimStart]
    split
    · rename_i sign
      exact absurd (digits.first sign) (by decide)
    · rename_i sign
      exact absurd (digits.first sign) (by decide)
    · simp [read, back]
  split
  · simp [year?, Text.trimStart, minus, signed]
    omega
  · simp [year?, Text.trimStart, plus, signed]
    omega

theorem mark?_self {c : Char} (sharp : Text.isBlank c = false) (rest : List Char) :
    mark? c (c :: rest) = some rest := by
  simp [mark?, Text.trimStart, sharp]

theorem fraction?_digits (width n : Nat) (few : width = 3 ∨ width = 6 ∨ width = 9)
    (small : n < 10 ^ width) {rest : List Char} (stops : Stops rest) :
    fraction? ('.' :: fixedDigits width n ++ rest) = some (n * 10 ^ (9 - width), rest) := by
  have digits := digits_fixedDigits width (by omega) n
  have length := length_fixedDigits width n
  have kept : (fixedDigits width n).take 9 = fixedDigits width n :=
    List.take_of_length_le (by omega)
  simp [fraction?, isDigit_eq, digits.takeWhile stops, digits.some, kept, length, digitsValue_eq,
    ofDigitChars_fixedDigits, Nat.mod_eq_of_lt small]

theorem fraction?_fractionChars {nanos : Nat} (small : nanos < 1000000000) :
    fraction? (fractionChars nanos ++ ['Z']) = some (nanos, ['Z']) := by
  have stops : Stops ['Z'] := stops_cons (by decide)
  unfold fractionChars
  split
  · rename_i whole
    rw [whole]
    rfl
  split
  · have read := fraction?_digits 3 (nanos / 1000000) (.inl rfl) (by omega) stops
    rw [List.cons_append] at read ⊢
    rw [read]
    congr
    omega
  split
  · have read := fraction?_digits 6 (nanos / 1000) (.inr (.inl rfl)) (by omega) stops
    rw [List.cons_append] at read ⊢
    rw [read]
    congr
    omega
  · have read := fraction?_digits 9 nanos (.inr (.inr rfl)) (by omega) stops
    rw [List.cons_append] at read ⊢
    rw [read]
    congr
    omega

theorem dateYearOk_ofDays {t : Timestamp} :
    dateYearOk (Date.ofDays (t.seconds / 86400)).year = true := by
  have first : Timestamp.firstSecond = (Date.mk Timestamp.firstYear 1 1).toDays * 86400 := rfl
  have last : Timestamp.lastSecond = (Date.mk (Timestamp.lastYear + 1) 1 1).toDays * 86400 - 1 := rfl
  obtain ⟨least, most, -⟩ := t.fits
  have lower := (Date.le_year_iff (t.seconds / 86400) Timestamp.firstYear).2 (by omega)
  have upper := mt (Date.le_year_iff (t.seconds / 86400) (Timestamp.lastYear + 1)).1 (by omega)
  simp only [dateYearOk, Bool.and_eq_true, decide_eq_true_eq]
  omega

theorem bind_of_eq {α β : Type} {x : Option α} {a : α} {f : α → Option β} (same : x = some a) :
    (x >>= f) = f a := by
  rw [same]
  rfl

theorem guard_of_pos {α : Type} {p : Prop} [Decidable p] (holds : p) (x : Option α) :
    (guard p >>= fun _ => x) = x := by
  simp [guard, holds]

theorem parseChars_parts {d : Date} {hour minute second leap nanos : Nat}
    (yearOk : dateYearOk d.year = true) (valid : d.Valid) (hours : hour < 24) (minutes : minute < 60)
    (seconds : leap = 0 ∧ second < 60 ∨ leap = 1 ∧ second = 59) (small : nanos < 1000000000) :
    parseChars (yearChars d.year ++ '-' :: (fixedDigits 2 d.month ++ '-' :: (fixedDigits 2 d.day ++
      'T' :: (fixedDigits 2 hour ++ ':' :: (fixedDigits 2 minute ++
        ':' :: (fixedDigits 2 (second + leap) ++ (fractionChars nanos ++ ['Z']))))))) =
      Timestamp.make? (d.toDays * 86400 + (hour * 3600 + minute * 60 + second : Nat))
        (nanos + leap * nanosPerSecond) := by
  have stops (rest : List Char) : Stops ('-' :: rest) := stops_cons (by decide)
  have hyphen : Text.isBlank '-' = false := by decide
  have colon : Text.isBlank ':' = false := by decide
  have months : d.month < 100 := lt_of_le_of_lt valid.2.1 (by decide)
  have days : d.day < 100 :=
    lt_of_le_of_lt (le_trans valid.2.2.2 (Date.monthLength_le d.year d.month)) (by decide)
  have isLeap : (if second + leap = 60 then 1 else 0) = leap := by split <;> omega
  -- One step for each part of the text.
  refine (bind_of_eq (year?_yearChars d.year (stops _))).trans ?_
  refine (bind_of_eq (mark?_self hyphen _)).trans ?_
  refine (bind_of_eq (number?_two months _)).trans ?_
  refine (bind_of_eq (mark?_self hyphen _)).trans ?_
  refine (bind_of_eq (number?_two days _)).trans ?_
  refine (bind_of_eq (show separator? ('T' :: _) = some _ from rfl)).trans ?_
  refine (bind_of_eq (number?_two (by omega) _)).trans ?_
  refine (bind_of_eq (mark?_self colon _)).trans ?_
  refine (bind_of_eq (number?_two (by omega) _)).trans ?_
  refine (bind_of_eq (mark?_self colon _)).trans ?_
  refine (bind_of_eq (number?_two (by omega) _)).trans ?_
  refine (bind_of_eq (fraction?_fractionChars small)).trans ?_
  refine (bind_of_eq (show offset? (Text.trimStart Text.isBlank ['Z']) = some (0, []) from rfl)).trans ?_
  refine (guard_of_pos ?_ _).trans ?_
  · have most : second + leap ≤ 60 := by omega
    simp [yearOk, valid, hours, minutes, most]
  refine (guard_of_pos (by decide) _).trans ?_
  simp only [isLeap, Nat.add_sub_cancel, Int.sub_zero]

theorem momentWith_civil (fraction : Nat → List Char) (t : Timestamp) :
    momentWith fraction t.civil = momentWith fraction t := by
  by_cases civil : t.IsCivil
  · rw [Timestamp.civil_of_isCivil civil]
  · have range := t.fits.2.2
    simp only [Timestamp.IsCivil, nanosPerSecond] at civil
    -- The day, the hour and the minute are those of the second before.
    have day : (t.seconds + 1) / 86400 = t.seconds / 86400 := by omega
    have hour : ((t.seconds + 1) % 86400).toNat / 3600 = (t.seconds % 86400).toNat / 3600 := by omega
    have minute : ((t.seconds + 1) % 86400).toNat / 60 = (t.seconds % 86400).toNat / 60 := by omega
    have second : ((t.seconds + 1) % 86400).toNat % 60 + (t.nanos - 1000000000) / 1000000000 =
        (t.seconds % 86400).toNat % 60 + t.nanos / 1000000000 := by omega
    have rest : (t.nanos - 1000000000) % 1000000000 = t.nanos % 1000000000 := by omega
    rw [Timestamp.civil, dif_neg (by simpa only [Timestamp.IsCivil, nanosPerSecond] using civil)]
    simp only [momentWith, nanosPerSecond, day, hour, minute, second, rest]

theorem parseChars_of_isCivil {t : Timestamp} (civil : t.IsCivil) :
    parseChars (momentChars t ++ ['Z']) = some t := by
  have range := t.fits.2.2
  have fraction : t.nanos % nanosPerSecond < 1000000000 := Nat.mod_lt _ (by decide)
  have leaps : t.nanos / nanosPerSecond = 0 ∧ (t.seconds % 86400).toNat % 60 < 60 ∨
      t.nanos / nanosPerSecond = 1 ∧ (t.seconds % 86400).toNat % 60 = 59 := by
    simp only [Timestamp.IsCivil, nanosPerSecond] at *
    omega
  have ofDay : t.seconds / 86400 * 86400 + ((t.seconds % 86400).toNat / 3600 * 3600 +
      (t.seconds % 86400).toNat / 60 % 60 * 60 + (t.seconds % 86400).toNat % 60 : Nat) = t.seconds := by
    omega
  have nanos : t.nanos % nanosPerSecond + t.nanos / nanosPerSecond * nanosPerSecond = t.nanos :=
    Nat.mod_add_div' _ _
  simp only [momentChars, momentWith, dateChars, List.append_assoc, List.cons_append]
  rw [parseChars_parts dateYearOk_ofDays (Date.ofDays_valid _) (by omega) (by omega) leaps fraction,
    Date.toDays_ofDays, ofDay, nanos]
  exact dif_pos t.fits

theorem render_civil (t : Timestamp) : render t.civil = render t := by
  rw [render, momentChars, momentWith_civil, render, momentChars]

theorem parse?_render (t : Timestamp) : parse? (render t) = some t.civil := by
  rw [← render_civil, parse?, render, String.toList_ofList]
  exact parseChars_of_isCivil t.isCivil_civil

end Rfc3339

end OncePerKey
