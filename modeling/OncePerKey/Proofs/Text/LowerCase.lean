import OncePerKey.Proofs.Text.Utf8
import OncePerKey.Text.LowerCase

set_option autoImplicit false

namespace OncePerKey.Text

def closingRanges : List (Nat × Nat) :=
  (0x2F, 0x2F) :: blankRanges

def isClosing (c : Char) : Bool :=
  inRanges closingRanges c.toNat

theorem isClosing_iff {c : Char} : isClosing c = true ↔ isBlank c = true ∨ c = '/' := by
  have slash : (0x2F ≤ c.toNat ∧ c.toNat ≤ 0x2F) ↔ c = '/' := by
    simp only [← Char.toNat_inj, Char.reduceToNat]
    omega
  simp only [isClosing, isBlank, inRanges, closingRanges, List.any_cons, Bool.or_eq_true, Bool.and_eq_true,
    decide_eq_true_eq, slash]
  exact or_comm

theorem isClosing_of_isBlank {c : Char} (blank : isBlank c = true) : isClosing c = true :=
  isClosing_iff.2 (.inl blank)

namespace CaseRun

-- The lower case of a code point of the run.
def lowered (r : CaseRun) (n : Nat) : Nat :=
  (n + r.distance).toNat

-- A single code point is as good as every second one.
def stride (r : CaseRun) : Nat :=
  if r.first = r.last then 2 else r.step

def avoids (low high step : Nat) (r : CaseRun) : Bool :=
  Nat.blt high r.first || Nat.blt r.last low ||
    (Nat.beq r.step 2 && Nat.beq step 2 && Nat.beq ((low + r.first) % 2) 1)

variable {r s : CaseRun} {n : Nat}

theorem covers_iff : r.covers n = true ↔ r.first ≤ n ∧ n ≤ r.last ∧ (n - r.first) % r.step = 0 := by
  simp [covers, and_assoc]

theorem not_covers_of_avoids (covered : r.covers n = true) (bounded : 0 ≤ r.first + r.distance)
    (avoids : s.avoids (r.lowered r.first) (r.lowered r.last) r.stride = true) :
    s.covers (r.lowered n) = false := by
  rw [← Bool.not_eq_true, covers_iff]
  rw [covers_iff] at covered
  simp only [CaseRun.avoids, Bool.or_eq_true, Bool.and_eq_true, Nat.blt_eq, Nat.beq_eq] at avoids
  simp only [lowered, stride] at avoids ⊢
  obtain ⟨least, most, step⟩ := covered
  rintro ⟨least', most', step'⟩
  rcases avoids with (above | below) | ⟨⟨two, both⟩, odd⟩
  · omega
  · omega
  · -- Both go in steps of two, so `n` is lowered to a code point of the other parity.
    rw [two] at step'
    have even : (n - r.first) % 2 = 0 := by
      by_cases single : r.first = r.last
      · omega
      · rw [if_neg single] at both
        rwa [both] at step
    omega

end CaseRun

def sparedRanges : List (Nat × Nat) :=
  (0x41, 0x5A) :: (0x130, 0x130) :: (0xD800, 0xDFFF) :: closingRanges

def CaseRun.ofRange (range : Nat × Nat) : CaseRun :=
  ⟨range.1, range.2, 1, 0⟩

theorem avoids_of_mem : (caseRuns.all fun r => (caseRuns ++ sparedRanges.map CaseRun.ofRange).all
    (·.avoids (r.lowered r.first) (r.lowered r.last) r.stride)) = true := by
  decide +kernel

theorem bounded_of_mem :
    ∀ r ∈ caseRuns, 0 ≤ r.first + r.distance ∧ r.last + r.distance < 0x110000 := by
  decide +kernel

theorem disjoint_of_mem : ∀ r ∈ caseRuns, 0x80 ≤ r.first ∧
    ∀ range ∈ closingRanges, r.last < range.1 ∨ range.2 < r.first := by
  decide +kernel

section

variable {r : CaseRun} {n : Nat}

theorem not_covers_lowered (known : r ∈ caseRuns) (covered : r.covers n = true) {s : CaseRun}
    (listed : s ∈ caseRuns ++ sparedRanges.map CaseRun.ofRange) : s.covers (r.lowered n) = false := by
  have avoids := List.all_eq_true.1 (List.all_eq_true.1 avoids_of_mem r known) s listed
  exact CaseRun.not_covers_of_avoids covered (bounded_of_mem r known).1 avoids

theorem not_inRange_lowered (known : r ∈ caseRuns) (covered : r.covers n = true) {range : Nat × Nat}
    (listed : range ∈ sparedRanges) : ¬ (range.1 ≤ r.lowered n ∧ r.lowered n ≤ range.2) := by
  have spares := not_covers_lowered known covered
    (List.mem_append_right _ (List.mem_map_of_mem (f := CaseRun.ofRange) listed))
  rw [← Bool.not_eq_true, CaseRun.covers_iff] at spares
  rintro ⟨least, most⟩
  exact spares ⟨least, most, Nat.mod_one _⟩

theorem toNat_lowered (known : r ∈ caseRuns) (covered : r.covers n = true) :
    (Char.ofNat (r.lowered n)).toNat = r.lowered n := by
  have surrogate : ¬ (0xD800 ≤ r.lowered n ∧ r.lowered n ≤ 0xDFFF) :=
    not_inRange_lowered known covered (List.mem_of_elem_eq_true rfl : (0xD800, 0xDFFF) ∈ sparedRanges)
  obtain ⟨least, most⟩ := bounded_of_mem r known
  obtain ⟨first, last, -⟩ := CaseRun.covers_iff.1 covered
  refine Utf8.toNat_ofNat ?_
  unfold Nat.isValidChar
  simp only [CaseRun.lowered] at surrogate ⊢
  omega

end

section

variable {c d : Char}

theorem le_iff_toNat (a b : Char) : a ≤ b ↔ a.toNat ≤ b.toNat := .rfl

theorem asciiLower_eq_self (uncapital : ¬ (0x41 ≤ c.toNat ∧ c.toNat ≤ 0x5A)) : asciiLower c = c := by
  simp [asciiLower, le_iff_toNat, Char.reduceToNat, uncapital]

theorem toNat_asciiLower (capital : 0x41 ≤ c.toNat ∧ c.toNat ≤ 0x5A) :
    (asciiLower c).toNat = c.toNat + 32 := by
  have valid : (c.toNat + 32).isValidChar := by
    unfold Nat.isValidChar
    omega
  simp [asciiLower, le_iff_toNat, Char.reduceToNat, capital, Utf8.toNat_ofNat valid]

theorem lowerChar_eq_self (uncapital : ¬ (0x41 ≤ c.toNat ∧ c.toNat ≤ 0x5A)) (dotless : c.toNat ≠ 0x130)
    (uncovered : ∀ r ∈ caseRuns, r.covers c.toNat = false) : lowerChar c = [c] := by
  have plain : c ≠ 'İ' := by
    rintro rfl
    exact dotless rfl
  have nothing : caseRuns.find? (·.covers c.toNat) = none := by simpa using uncovered
  simp only [lowerChar, plain, nothing, if_false, asciiLower_eq_self uncapital, ite_self]

inductive Lowers (c : Char) : List Char → Prop where
  | ascii (small : c.toNat < 0x80) : Lowers c [asciiLower c]
  | dotted (capital : c = 'İ') : Lowers c ['i', '\u0307']
  | run (r : CaseRun) (known : r ∈ caseRuns) (covered : r.covers c.toNat = true) :
      Lowers c [Char.ofNat (r.lowered c.toNat)]
  | none (large : 0x80 ≤ c.toNat) (dotless : c ≠ 'İ')
      (uncovered : ∀ r ∈ caseRuns, r.covers c.toNat = false) : Lowers c [c]

theorem lowers_lowerChar (c : Char) : Lowers c (lowerChar c) := by
  unfold lowerChar
  split
  · exact .ascii ‹_›
  split
  · exact .dotted ‹_›
  split
  · rename_i run found
    exact .run run (List.mem_of_find?_eq_some found)
      (by simpa using List.find?_some found)
  · rename_i small dotless _ missed
    exact .none (Nat.not_lt.1 small) dotless (by simpa using missed)

def IsSettled (c : Char) : Prop :=
  lowerChar c = [c] ∧ c ≠ 'Σ'

theorem isSettled_of_ascii (small : c.toNat < 0x80) (uncapital : ¬ (0x41 ≤ c.toNat ∧ c.toNat ≤ 0x5A)) :
    IsSettled c := by
  refine ⟨lowerChar_eq_self uncapital (by omega) fun r known => ?_, ?_⟩
  · rw [← Bool.not_eq_true, CaseRun.covers_iff]
    rintro ⟨least, -, -⟩
    have large := (disjoint_of_mem r known).1
    omega
  · rintro rfl
    exact absurd small (by decide)

theorem sigma_covered : ∃ r ∈ caseRuns, r.covers 'Σ'.toNat = true := by
  decide +kernel

theorem isSettled_of_mem_lowerChar (made : c ∈ lowerChar d) (plain : d ≠ 'Σ') : IsSettled c := by
  have lowers := lowers_lowerChar d
  generalize lowerChar d = cs at made lowers
  cases lowers with
  | ascii small =>
    obtain rfl := List.mem_singleton.1 made
    by_cases capital : 0x41 ≤ d.toNat ∧ d.toNat ≤ 0x5A
    · have shifted := toNat_asciiLower capital
      exact isSettled_of_ascii (by omega) (by omega)
    · rw [asciiLower_eq_self capital]
      exact isSettled_of_ascii small capital
  | dotted =>
    rcases List.mem_pair.1 made with rfl | rfl
    · exact isSettled_of_ascii (by decide) (by decide)
    · exact ⟨by decide +kernel, by decide⟩
  | run r known covered =>
    obtain rfl := List.mem_singleton.1 made
    have word := toNat_lowered known covered
    refine ⟨lowerChar_eq_self ?_ ?_ ?_, ?_⟩
    · rw [word]
      exact not_inRange_lowered known covered (List.mem_of_elem_eq_true rfl : (0x41, 0x5A) ∈ sparedRanges)
    · rw [word]
      have spared := not_inRange_lowered known covered
        (List.mem_of_elem_eq_true rfl : (0x130, 0x130) ∈ sparedRanges)
      omega
    · intro s listed
      rw [word]
      exact not_covers_lowered known covered (List.mem_append_left _ listed)
    · intro sigma
      obtain ⟨s, listed, covers⟩ := sigma_covered
      rw [← sigma, word, not_covers_lowered known covered (List.mem_append_left _ listed)] at covers
      exact nomatch covers
  | none large dotless uncovered =>
    obtain rfl := List.mem_singleton.1 made
    refine ⟨lowerChar_eq_self (by omega) (fun same => dotless ?_) uncovered, plain⟩
    exact Char.toNat_inj.1 same

theorem toNat_of_isClosing (closing : isClosing c = true) : ¬ (0x41 ≤ c.toNat ∧ c.toNat ≤ 0x5A) ∧
    ¬ (0x61 ≤ c.toNat ∧ c.toNat ≤ 0x7A) ∧ c.toNat ≠ 0x130 ∧ c.toNat ≠ 0x3A3 := by
  simp only [isClosing, inRanges, closingRanges, blankRanges, List.any_cons, List.any_nil, Bool.or_eq_true,
    Bool.and_eq_true, decide_eq_true_eq, Bool.false_eq_true, or_false] at closing
  omega

def IsLetter (c : Char) : Prop :=
  0x41 ≤ c.toNat ∧ c.toNat ≤ 0x5A ∨ 0x61 ≤ c.toNat ∧ c.toNat ≤ 0x7A

theorem not_isClosing_of_letter (letter : IsLetter c) : isClosing c = false := by
  rw [← Bool.not_eq_true]
  intro closing
  obtain ⟨uncapital, unsmall, -⟩ := toNat_of_isClosing closing
  exact letter.elim uncapital unsmall

theorem not_isBlank_of_letter (letter : IsLetter c) : isBlank c = false := by
  rw [← Bool.not_eq_true]
  intro blank
  exact nomatch (not_isClosing_of_letter letter).symm.trans (isClosing_of_isBlank blank)

theorem exists_range_of_isClosing (closing : isClosing c = true) :
    ∃ range ∈ closingRanges, range.1 ≤ c.toNat ∧ c.toNat ≤ range.2 := by
  simpa [isClosing, inRanges] using closing

theorem isSettled_of_isClosing (closing : isClosing c = true) : IsSettled c := by
  obtain ⟨uncapital, -, dotless, plain⟩ := toNat_of_isClosing closing
  refine ⟨lowerChar_eq_self uncapital dotless fun r known => ?_, fun same => plain (by rw [same]; rfl)⟩
  obtain ⟨range, listed, least, most⟩ := exists_range_of_isClosing closing
  have apart := (disjoint_of_mem r known).2 range listed
  rw [← Bool.not_eq_true, CaseRun.covers_iff]
  omega

theorem eq_of_isClosing (closing : isClosing c = true) (made : c ∈ lowerChar d) : c = d := by
  have lowers := lowers_lowerChar d
  generalize lowerChar d = cs at made lowers
  cases lowers with
  | ascii small =>
    obtain rfl := List.mem_singleton.1 made
    refine asciiLower_eq_self fun capital => ?_
    have shifted := toNat_asciiLower capital
    exact nomatch (not_isClosing_of_letter (.inr (by omega))).symm.trans closing
  | dotted =>
    rcases List.mem_pair.1 made with rfl | rfl <;> exact absurd closing (by decide)
  | run r known covered =>
    obtain rfl := List.mem_singleton.1 made
    obtain ⟨range, listed, inside⟩ := exists_range_of_isClosing closing
    rw [toNat_lowered known covered] at inside
    have spared : range ∈ sparedRanges := by simp [sparedRanges, listed]
    exact absurd inside (not_inRange_lowered known covered spared)
  | none => exact List.mem_singleton.1 made

theorem closing_unmarked : ∀ range ∈ closingRanges,
    (∀ r ∈ caseIgnorableRanges, r.2 < range.1 ∨ range.2 < r.1) ∧
      ∀ r ∈ casedRanges, r.2 < range.1 ∨ range.2 < r.1 := by
  decide +kernel

theorem not_ignorable_of_isClosing (closing : isClosing c = true) :
    inRanges caseIgnorableRanges c.toNat = false ∧ inRanges casedRanges c.toNat = false := by
  obtain ⟨range, listed, least, most⟩ := exists_range_of_isClosing closing
  obtain ⟨ignorable, cased⟩ := closing_unmarked range listed
  simp only [inRanges, List.any_eq_false, Bool.and_eq_true, decide_eq_true_eq]
  constructor
  · intro r known
    have apart := ignorable r known
    omega
  · intro r known
    have apart := cased r known
    omega

end

section

variable {before lowered s t : List Char} {c : Char}

-- The text behind what was lowered before.
theorem lowerFrom_eq_append (before lowered s : List Char) :
    lowerFrom before lowered s = lowered.reverse ++ lowerFrom before [] s := by
  induction s generalizing before lowered with
  | nil => simp [lowerFrom]
  | cons c rest ih =>
    by_cases sigma : c = 'Σ'
    · simp only [lowerFrom, sigma, if_true]
      rw [ih, ih _ [_]]
      simp
    · simp only [lowerFrom, sigma, if_false]
      rw [ih, ih _ (_ ++ [])]
      simp

theorem isSettled_lowerSigma (before after : List Char) : IsSettled (lowerSigma before after) := by
  unfold lowerSigma
  split <;> exact ⟨by decide +kernel, by decide⟩

theorem isSettled_of_mem_lowerFrom (made : c ∈ lowerFrom before [] s) : IsSettled c := by
  induction s generalizing before with
  | nil => exact nomatch made
  | cons d rest ih =>
    unfold lowerFrom at made
    split at made
    · rw [lowerFrom_eq_append] at made
      rcases List.mem_append.1 made with first | later
      · obtain rfl : c = _ := by simpa using first
        exact isSettled_lowerSigma before rest
      · exact ih later
    · rename_i plain
      rw [lowerFrom_eq_append] at made
      rcases List.mem_append.1 made with first | later
      · exact isSettled_of_mem_lowerChar (by simpa using first) plain
      · exact ih later

theorem lowerFrom_of_isSettled (settled : ∀ c ∈ s, IsSettled c) : lowerFrom before [] s = s := by
  induction s generalizing before with
  | nil => rfl
  | cons c rest ih =>
    obtain ⟨same, plain⟩ := settled c List.mem_cons_self
    rw [lowerFrom, if_neg plain, same, lowerFrom_eq_append, ih fun d present =>
      settled d (List.mem_cons_of_mem c present)]
    rfl

theorem meetsCased_append (closing : ∀ c ∈ t, isClosing c = true) (s : List Char) :
    meetsCased (s ++ t) = meetsCased s := by
  induction s with
  | nil =>
    cases t with
    | nil => rfl
    | cons c rest =>
      obtain ⟨marked, cased⟩ := not_ignorable_of_isClosing (closing c List.mem_cons_self)
      simp [meetsCased, marked, cased]
  | cons c rest ih =>
    by_cases ignored : inRanges caseIgnorableRanges c.toNat
    · simpa [meetsCased, ignored] using ih
    · simp [meetsCased, ignored]

theorem lowerFrom_append (closing : ∀ c ∈ t, isClosing c = true) :
    lowerFrom before [] (s ++ t) = lowerFrom before [] s ++ t := by
  induction s generalizing before with
  | nil => exact lowerFrom_of_isSettled fun c present => isSettled_of_isClosing (closing c present)
  | cons c rest ih =>
    have sigma : lowerSigma before (rest ++ t) = lowerSigma before rest := by
      simp only [lowerSigma, meetsCased_append closing]
    rw [List.cons_append, lowerFrom, lowerFrom, sigma]
    split
    · rw [lowerFrom_eq_append, ih, lowerFrom_eq_append _ [_] rest, List.append_assoc]
    · rw [lowerFrom_eq_append, ih, lowerFrom_eq_append _ (_ ++ []) rest, List.append_assoc]

theorem lowerChar_ne_nil (c : Char) : lowerChar c ≠ [] := by
  have lowers := lowers_lowerChar c
  generalize lowerChar c = cs at lowers
  cases lowers <;> exact List.cons_ne_nil _ _

theorem lowerFrom_eq_nil_iff : lowerFrom before [] s = [] ↔ s = [] := by
  cases s with
  | nil => simp [lowerFrom]
  | cons c rest =>
    rw [lowerFrom]
    split <;> rw [lowerFrom_eq_append] <;> simp [lowerChar_ne_nil]

theorem getLast?_of_lowerFrom (last : (lowerFrom before [] s).getLast? = some c)
    (closing : isClosing c = true) : s.getLast? = some c := by
  induction s generalizing before with
  | nil => exact nomatch last
  | cons d rest ih =>
    have first : ∃ made, lowerFrom before [] (d :: rest) = made ++ lowerFrom (d :: before) [] rest ∧
        (c ∈ made → c = d) := by
      rw [lowerFrom]
      split
      · refine ⟨_, lowerFrom_eq_append _ _ _, fun made => absurd closing ?_⟩
        rw [List.reverse_singleton, List.mem_singleton] at made
        rw [made, lowerSigma]
        split <;> decide
      · refine ⟨_, lowerFrom_eq_append _ _ _, fun made => eq_of_isClosing closing ?_⟩
        simpa using made
    obtain ⟨made, lowers, same⟩ := first
    rw [lowers, List.getLast?_append] at last
    rw [List.getLast?_cons]
    cases behind : (lowerFrom (d :: before) [] rest).getLast? with
    | some e =>
      rw [behind, Option.some_or] at last
      rw [ih (behind.trans last)]
      rfl
    | none =>
      obtain rfl := lowerFrom_eq_nil_iff.1 (List.getLast?_eq_none_iff.1 behind)
      rw [behind, Option.none_or] at last
      rw [same (List.mem_of_getLast? last)]
      rfl

end

section

variable {c : Char}

theorem asciiLower_idem (c : Char) : asciiLower (asciiLower c) = asciiLower c := by
  by_cases capital : 0x41 ≤ c.toNat ∧ c.toNat ≤ 0x5A
  · have shifted := toNat_asciiLower capital
    exact asciiLower_eq_self (by omega)
  · rw [asciiLower_eq_self capital, asciiLower_eq_self capital]

theorem asciiLower_of_letter {p : Char → Bool} (unlettered : ∀ c, IsLetter c → p c = false) (c : Char) :
    p (asciiLower c) = p c := by
  by_cases capital : 0x41 ≤ c.toNat ∧ c.toNat ≤ 0x5A
  · have shifted := toNat_asciiLower capital
    rw [unlettered c (.inl capital), unlettered _ (.inr (by omega))]
  · rw [asciiLower_eq_self capital]

theorem isClosing_asciiLower (c : Char) : isClosing (asciiLower c) = isClosing c :=
  asciiLower_of_letter (fun _ => not_isClosing_of_letter) c

theorem isBlank_asciiLower (c : Char) : isBlank (asciiLower c) = isBlank c :=
  asciiLower_of_letter (fun _ => not_isBlank_of_letter) c

theorem asciiUpper_eq_self (unsmall : ¬ (0x61 ≤ c.toNat ∧ c.toNat ≤ 0x7A)) : asciiUpper c = c := by
  simp [asciiUpper, le_iff_toNat, Char.reduceToNat, unsmall]

theorem toNat_asciiUpper (small : 0x61 ≤ c.toNat ∧ c.toNat ≤ 0x7A) :
    (asciiUpper c).toNat = c.toNat - 32 := by
  have valid : (c.toNat - 32).isValidChar := by
    unfold Nat.isValidChar
    omega
  simp [asciiUpper, le_iff_toNat, Char.reduceToNat, small, Utf8.toNat_ofNat valid]

theorem asciiUpper_idem (c : Char) : asciiUpper (asciiUpper c) = asciiUpper c := by
  by_cases small : 0x61 ≤ c.toNat ∧ c.toNat ≤ 0x7A
  · have shifted := toNat_asciiUpper small
    exact asciiUpper_eq_self (by omega)
  · rw [asciiUpper_eq_self small, asciiUpper_eq_self small]

theorem isBlank_asciiUpper (c : Char) : isBlank (asciiUpper c) = isBlank c := by
  by_cases small : 0x61 ≤ c.toNat ∧ c.toNat ≤ 0x7A
  · have shifted := toNat_asciiUpper small
    rw [not_isBlank_of_letter (.inr small), not_isBlank_of_letter (.inl (by omega))]
  · rw [asciiUpper_eq_self small]

theorem lowerChar_asciiLower (c : Char) : lowerChar (asciiLower c) = lowerChar c := by
  by_cases capital : 0x41 ≤ c.toNat ∧ c.toNat ≤ 0x5A
  · have shifted := toNat_asciiLower capital
    have small : c.toNat < 0x80 := by omega
    have small' : (asciiLower c).toNat < 0x80 := by omega
    rw [lowerChar, if_pos small', lowerChar, if_pos small, asciiLower_idem]
  · rw [asciiLower_eq_self capital]

theorem letters_unignored :
    ∀ r ∈ caseIgnorableRanges, r.2 < 0x41 ∨ (0x5A < r.1 ∧ r.2 < 0x61) ∨ 0x7A < r.1 := by
  decide +kernel

theorem not_ignorable_of_letter (letter : IsLetter c) : inRanges caseIgnorableRanges c.toNat = false := by
  simp only [inRanges, List.any_eq_false, Bool.and_eq_true, decide_eq_true_eq]
  intro r known
  have apart := letters_unignored r known
  unfold IsLetter at letter
  omega

theorem inRanges_of_mem {ranges : List (Nat × Nat)} {range : Nat × Nat} {n : Nat} (listed : range ∈ ranges)
    (inside : range.1 ≤ n ∧ n ≤ range.2) : inRanges ranges n = true := by
  simp only [inRanges, List.any_eq_true, Bool.and_eq_true, decide_eq_true_eq]
  exact ⟨range, listed, inside⟩

theorem marks_asciiLower (c : Char) :
    inRanges caseIgnorableRanges (asciiLower c).toNat = inRanges caseIgnorableRanges c.toNat ∧
      inRanges casedRanges (asciiLower c).toNat = inRanges casedRanges c.toNat := by
  refine ⟨asciiLower_of_letter (p := fun d => inRanges caseIgnorableRanges d.toNat)
    (fun _ => not_ignorable_of_letter) c, ?_⟩
  by_cases capital : 0x41 ≤ c.toNat ∧ c.toNat ≤ 0x5A
  · have shifted := toNat_asciiLower capital
    rw [inRanges_of_mem (List.mem_of_elem_eq_true rfl : (0x41, 0x5A) ∈ casedRanges) capital,
      inRanges_of_mem (List.mem_of_elem_eq_true rfl : (0x61, 0x7A) ∈ casedRanges) (by omega)]
  · rw [asciiLower_eq_self capital]

theorem meetsCased_map_asciiLower (s : List Char) : meetsCased (s.map asciiLower) = meetsCased s := by
  induction s with
  | nil => rfl
  | cons c rest ih =>
    obtain ⟨ignorable, cased⟩ := marks_asciiLower c
    by_cases ignored : inRanges caseIgnorableRanges c.toNat
    · simpa [meetsCased, ignorable, ignored] using ih
    · simp [meetsCased, ignorable, ignored, cased]

theorem asciiLower_eq_sigma_iff : asciiLower c = 'Σ' ↔ c = 'Σ' := by
  by_cases capital : 0x41 ≤ c.toNat ∧ c.toNat ≤ 0x5A
  · have shifted := toNat_asciiLower capital
    simp only [← Char.toNat_inj, Char.reduceToNat]
    omega
  · rw [asciiLower_eq_self capital]

theorem lowerFrom_map_asciiLower (before lowered s : List Char) :
    lowerFrom (before.map asciiLower) lowered (s.map asciiLower) = lowerFrom before lowered s := by
  induction s generalizing before lowered with
  | nil => rfl
  | cons c rest ih =>
    simp only [List.map_cons, lowerFrom, asciiLower_eq_sigma_iff, lowerChar_asciiLower, lowerSigma,
      meetsCased_map_asciiLower, ← ih]

end

end OncePerKey.Text
