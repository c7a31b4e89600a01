import Mathlib.Tactic.ByContra
import Mathlib.Tactic.IntervalCases
import OncePerKey.Time.Calendar

set_option autoImplicit false

namespace OncePerKey.Date

def yearOfEra (day : Nat) : Nat :=
  (day - day / 1460 + day / 36524 - day / 146096) / 365

theorem yearOfEra_mono {day later : Nat} (order : day ≤ later) : yearOfEra day ≤ yearOfEra later := by
  refine Nat.div_le_div_right ?_
  have fours : day - day / 1460 ≤ later - later / 1460 := by omega
  have centuries : day / 36524 - day / 146096 ≤ later / 36524 - later / 146096 := by omega
  omega

theorem yearOfEra_daysBeforeYear :
    ∀ year < 400, yearOfEra (daysBeforeYear year) = year ∧
      yearOfEra (daysBeforeYear year - 1) = year - 1 := by
  decide +kernel

theorem yearOfEra_bounds {day : Nat} (inEra : day < 146097) :
    yearOfEra day < 400 ∧ daysBeforeYear (yearOfEra day) ≤ day ∧
      (yearOfEra day < 399 → day < daysBeforeYear (yearOfEra day + 1)) := by
  have bound : yearOfEra day < 400 := by
    have last : yearOfEra 146096 = 399 := by decide
    have := yearOfEra_mono (Nat.le_of_lt_succ inEra)
    omega
  -- The year grows with the day, and at both ends of each year it is known.
  refine ⟨bound, ?_, fun notLast => ?_⟩
  · by_contra early
    have before := yearOfEra_mono (Nat.le_sub_one_of_lt (Nat.lt_of_not_le early))
    rw [(yearOfEra_daysBeforeYear _ bound).2] at before
    have first : yearOfEra day = 0 := by omega
    rw [first] at early
    exact early (Nat.zero_le _)
  · by_contra late
    have after := yearOfEra_mono (Nat.le_of_not_lt late)
    rw [(yearOfEra_daysBeforeYear _ (by omega)).1] at after
    omega

theorem daysBeforeYear_succ (year : Nat) : daysBeforeYear (year + 1) = daysBeforeYear year + 365 +
    if (year + 1) % 4 = 0 ∧ (year + 1) % 100 ≠ 0 then 1 else 0 := by
  have fours : (year + 1) / 4 = year / 4 + if (year + 1) % 4 = 0 then 1 else 0 := by
    split <;> omega
  have centuries : (year + 1) / 100 = year / 100 + if (year + 1) % 100 = 0 then 1 else 0 := by
    split <;> omega
  have fewer : year / 100 ≤ 365 * year + year / 4 := by omega
  have both : (year + 1) % 100 = 0 → (year + 1) % 4 = 0 := by omega
  unfold daysBeforeYear
  rw [fours, centuries]
  split <;> split <;> split <;> omega

theorem isLeapYear_era (era : Int) (year : Nat) :
    isLeapYear (era * 400 + year) = true ↔
      year % 4 = 0 ∧ (year % 100 ≠ 0 ∨ year % 400 = 0) := by
  simp only [isLeapYear, Bool.and_eq_true, Bool.or_eq_true, beq_iff_eq, bne_iff_ne]
  omega

variable (days : Int)

theorem ofDays_spec : ∃ era : Int, ∃ year day month : Nat,
    days + 719468 = era * 146097 + (daysBeforeYear year + day : Nat) ∧ year < 400 ∧
      (day < 365 ∨ day = 365 ∧ isLeapYear (era * 400 + (year + 1 : Nat)) = true) ∧
      month = (5 * day + 2) / 153 ∧
      ofDays days =
        { year := if month < 10 then era * 400 + year else era * 400 + year + 1
          month := if month < 10 then month + 3 else month - 9
          day := day - daysBeforeMonth month + 1 } := by
  have inEra : ((days + 719468) % 146097).toNat < 146097 := by omega
  obtain ⟨bound, least, most⟩ := yearOfEra_bounds inEra
  refine ⟨(days + 719468) / 146097, yearOfEra ((days + 719468) % 146097).toNat,
    ((days + 719468) % 146097).toNat - daysBeforeYear (yearOfEra ((days + 719468) % 146097).toNat),
    _, by omega, bound, ?_, rfl, rfl⟩
  rw [isLeapYear_era]
  revert bound least most
  generalize ((days + 719468) % 146097).toNat = day at inEra ⊢
  generalize yearOfEra day = year
  intro bound least most
  by_cases last : year = 399
  · subst last
    have before : daysBeforeYear 399 = 145731 := rfl
    omega
  · rw [daysBeforeYear_succ] at most
    split at most <;> omega

theorem toDays_ofDays : (ofDays days).toDays = days := by
  obtain ⟨era, year, day, month, whole, inEra, inYear, isMonth, written⟩ := ofDays_spec days
  rw [written]
  have dayFits : daysBeforeMonth month ≤ day := by
    unfold daysBeforeMonth
    omega
  by_cases early : month < 10
  · have later : ¬ month + 3 ≤ 2 := by omega
    have inThis : (era * 400 + year) % 400 = year := by omega
    have eras : (era * 400 + year) / 400 = era := by omega
    simp only [toDays, early, if_true, later, if_false, inThis, eras, Nat.add_sub_cancel,
      Int.toNat_natCast]
    omega
  · have later : month - 9 ≤ 2 := by omega
    have back : era * 400 + year + 1 - 1 = era * 400 + year := by omega
    have inThis : (era * 400 + year) % 400 = year := by omega
    have eras : (era * 400 + year) / 400 = era := by omega
    have months : month - 9 + 9 = month := by omega
    simp only [toDays, early, later, if_true, if_false, back, inThis, eras, months,
      Nat.add_sub_cancel, Int.toNat_natCast]
    omega

theorem monthLength_le (year : Int) (month : Nat) : monthLength year month ≤ 31 := by
  unfold monthLength
  split
  · split <;> decide
  all_goals decide

theorem le_monthLength {year : Int} {day month : Nat} (isMonth : month = (5 * day + 2) / 153)
    (early : month < 10) : day - daysBeforeMonth month + 1 ≤ monthLength year (month + 3) := by
  unfold daysBeforeMonth
  interval_cases month <;> simp only [monthLength] <;> omega

theorem ofDays_valid : (ofDays days).Valid := by
  obtain ⟨era, year, day, month, -, -, inYear, isMonth, written⟩ := ofDays_spec days
  rw [written]
  have few : month ≤ 11 := by omega
  by_cases early : month < 10
  · simp only [Valid, early, if_true]
    exact ⟨by omega, by omega, by omega, le_monthLength isMonth early⟩
  · have january : month = 10 ∨ month = 11 := by omega
    refine ⟨?_, ?_, Nat.le_add_left _ _, ?_⟩
    · simp only [early, if_false]
      omega
    · simp only [early, if_false]
      omega
    · simp only [early, if_false]
      rcases january with rfl | rfl
      · simp only [daysBeforeMonth, monthLength]
        omega
      · simp only [daysBeforeMonth, monthLength]
        split
        · omega
        · rename_i common
          rcases inYear with short | ⟨-, leap⟩
          · omega
          · have next : era * 400 + (year + 1 : Nat) = era * 400 + year + 1 := by omega
            rw [next] at leap
            exact absurd leap common

theorem daysBeforeYear_lt {year later : Nat} (order : year < later) :
    daysBeforeYear year + 365 ≤ daysBeforeYear later := by
  induction order with
  | refl =>
    rw [daysBeforeYear_succ]
    exact Nat.le_add_right _ _
  | step _ ih =>
    rw [daysBeforeYear_succ]
    omega

theorem daysBeforeYear_le {year : Nat} (inEra : year < 400) : daysBeforeYear year ≤ 145731 := by
  unfold daysBeforeYear
  omega

theorem le_year_iff (first : Int) : first ≤ (ofDays days).year ↔ (Date.mk first 1 1).toDays ≤ days := by
  obtain ⟨era, year, day, month, whole, inEra, inYear, isMonth, written⟩ := ofDays_spec days
  have yearIs : (ofDays days).year = if day < 306 then era * 400 + year else era * 400 + year + 1 := by
    rw [written]
    by_cases early : month < 10
    · simp only [early, if_true, if_pos (show day < 306 by omega)]
    · simp only [early, if_false, if_neg (show ¬ day < 306 by omega)]
  -- January comes after 306 days of a year that begins in March.
  obtain ⟨era', year', same, inEra', start⟩ : ∃ era' : Int, ∃ year' : Nat,
      first = era' * 400 + year' + 1 ∧ year' < 400 ∧
        (Date.mk first 1 1).toDays = era' * 146097 + (daysBeforeYear year' + 306 : Nat) - 719468 :=
    ⟨(first - 1) / 400, ((first - 1) % 400).toNat, by omega, by omega, by simp [toDays, daysBeforeMonth]⟩
  have most := daysBeforeYear_le inEra
  have most' := daysBeforeYear_le inEra'
  have order := @daysBeforeYear_lt year year'
  have order' := @daysBeforeYear_lt year' year
  have equal : year = year' → daysBeforeYear year = daysBeforeYear year' := congrArg _
  have inDays : day ≤ 365 := by omega
  clear written isMonth inYear
  rw [start, yearIs]
  split <;> omega

end OncePerKey.Date
