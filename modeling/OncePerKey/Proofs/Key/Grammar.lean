import OncePerKey.Proofs.Key.Spelling

set_option autoImplicit false

namespace OncePerKey

def keyAlphabet : List Char :=
  ['A', 'B', 'C', 'D', 'E', 'F', 'G', 'H', 'I', 'J', 'K', 'L', 'M',
    'N', 'O', 'P', 'Q', 'R', 'S', 'T', 'U', 'V', 'W', 'X', 'Y', 'Z',
    'a', 'b', 'c', 'd', 'e', 'f', 'g', 'h', 'i', 'j', 'k', 'l', 'm',
    'n', 'o', 'p', 'q', 'r', 's', 't', 'u', 'v', 'w', 'x', 'y', 'z',
    '0', '1', '2', '3', '4', '5', '6', '7', '8', '9', '-', '_']

structure IsFirstForeign (cs : List Char) (character : Char) (position : Nat) : Prop where
  here : cs[position]? = some character
  foreign : character ∉ keyAlphabet
  before : ∀ (i : Nat) (c : Char), i < position → cs[i]? = some c → c ∈ keyAlphabet

theorem isKeyChar_iff_mem (c : Char) : isKeyChar c = true ↔ c ∈ keyAlphabet := by
  constructor
  · intro own
    have ascii : ∀ n < 0x80, isKeyChar (Char.ofNat n) = true → Char.ofNat n ∈ keyAlphabet := by
      decide +kernel
    have listed := ascii c.toNat (toNat_lt_of_isKeyChar own)
    rw [Char.ofNat_toNat] at listed
    exact listed own
  · have listed : keyAlphabet.all isKeyChar = true := by decide
    exact List.all_eq_true.1 listed c

section

variable {cs : List Char} {c d : Char} {start position : Nat}

theorem isFirstForeign_zero_iff : IsFirstForeign (d :: cs) c 0 ↔ d = c ∧ c ∉ keyAlphabet := by
  constructor
  · rintro ⟨here, foreign, -⟩
    exact ⟨Option.some.inj here, foreign⟩
  · rintro ⟨rfl, foreign⟩
    exact ⟨rfl, foreign, fun i c early => absurd early (Nat.not_lt_zero i)⟩

theorem isFirstForeign_succ_iff :
    IsFirstForeign (d :: cs) c (position + 1) ↔ d ∈ keyAlphabet ∧ IsFirstForeign cs c position := by
  constructor
  · rintro ⟨here, foreign, before⟩
    refine ⟨before 0 d (Nat.succ_pos _) rfl, here, foreign, fun i e early there => ?_⟩
    exact before (i + 1) e (Nat.succ_lt_succ early) there
  · rintro ⟨own, here, foreign, before⟩
    refine ⟨here, foreign, fun i e early there => ?_⟩
    cases i with
    | zero => exact Option.some.inj there ▸ own
    | succ i => exact before i e (Nat.lt_of_succ_lt_succ early) there

theorem firstInvalid_eq_some_iff : firstInvalid start cs = some (position, c) ↔
    ∃ i, position = start + i ∧ IsFirstForeign cs c i := by
  induction cs generalizing start with
  | nil =>
    constructor
    · exact fun found => nomatch found
    · rintro ⟨i, -, here, -, -⟩
      simp at here
  | cons d rest ih =>
    unfold firstInvalid
    by_cases own : isKeyChar d
    · rw [if_pos own, ih]
      rw [isKeyChar_iff_mem] at own
      constructor
      · rintro ⟨i, rfl, first⟩
        exact ⟨i + 1, by omega, isFirstForeign_succ_iff.2 ⟨own, first⟩⟩
      · rintro ⟨i, rfl, first⟩
        cases i with
        | zero =>
          obtain ⟨rfl, foreign⟩ := isFirstForeign_zero_iff.1 first
          exact absurd own foreign
        | succ i => exact ⟨i, by omega, (isFirstForeign_succ_iff.1 first).2⟩
    · rw [if_neg own]
      rw [isKeyChar_iff_mem] at own
      constructor
      · rintro ⟨⟩
        exact ⟨0, rfl, isFirstForeign_zero_iff.2 ⟨rfl, own⟩⟩
      · rintro ⟨i, rfl, first⟩
        cases i with
        | zero =>
          obtain ⟨rfl, -⟩ := isFirstForeign_zero_iff.1 first
          rfl
        | succ i => exact absurd (isFirstForeign_succ_iff.1 first).1 own

end

namespace Key

variable {raw : String} {max : Nat}

theorem parse_eq_ok_iff {key : Key} : parse raw max = .ok key ↔
    key.text = raw ∧ 1 ≤ raw.toList.length ∧ raw.toList.length ≤ max ∧
      ∀ c ∈ raw.toList, c ∈ keyAlphabet := by
  simp only [← isKeyChar_iff_mem]
  constructor
  · intro parsed
    obtain ⟨rfl, filled, most, own⟩ := keyChars_of_parse parsed
    exact ⟨rfl, List.length_pos_iff.2 filled, most, own⟩
  · rintro ⟨rfl, least, most, own⟩
    exact parse_of_keyChars (List.length_pos_iff.1 least) most own

theorem parse_of_blank (blank : ∀ c ∈ raw.toList, Text.isBlank c = true) :
    parse raw max = .error .empty := by
  unfold parse
  rw [if_pos (List.all_eq_true.2 blank)]

theorem parse_of_shown (shown : ∃ c ∈ raw.toList, Text.isBlank c = false) :
    parse raw max =
      if max < raw.toList.length then .error (.tooLong raw.toList.length max)
      else match firstInvalid 0 raw.toList with
        | some (position, character) => .error (.invalidCharacter character position)
        | none => .ok ⟨raw⟩ := by
  unfold parse
  exact if_neg (by simpa using shown)

theorem parse_ne_empty (shown : ∃ c ∈ raw.toList, Text.isBlank c = false) :
    parse raw max ≠ .error .empty := by
  rw [parse_of_shown shown]
  split
  · simp
  · split <;> simp

theorem parse_eq_empty_iff :
    parse raw max = .error .empty ↔ ∀ c ∈ raw.toList, Text.isBlank c = true := by
  refine ⟨fun refused => ?_, parse_of_blank⟩
  by_contra! shown
  simp only [ne_eq, Bool.not_eq_true] at shown
  exact parse_ne_empty shown refused

theorem parse_eq_tooLong_iff {length bound : Nat} :
    parse raw max = .error (.tooLong length bound) ↔
      (∃ c ∈ raw.toList, Text.isBlank c = false) ∧ max < raw.toList.length ∧
        length = raw.toList.length ∧ bound = max := by
  by_cases shown : ∃ c ∈ raw.toList, Text.isBlank c = false
  · rw [parse_of_shown shown]
    by_cases long : max < raw.toList.length
    · rw [if_pos long, Except.error.injEq, InvalidKey.tooLong.injEq]
      exact ⟨fun ⟨counted, most⟩ => ⟨shown, long, counted.symm, most.symm⟩,
        fun ⟨_, _, counted, most⟩ => ⟨counted.symm, most.symm⟩⟩
    · rw [if_neg long]
      split <;> simp [long]
  · rw [parse_of_blank (by simpa using shown)]
    simp [shown]

theorem parse_eq_invalidCharacter_iff {character : Char} {position : Nat} :
    parse raw max = .error (.invalidCharacter character position) ↔
      (∃ c ∈ raw.toList, Text.isBlank c = false) ∧ raw.toList.length ≤ max ∧
        IsFirstForeign raw.toList character position := by
  by_cases shown : ∃ c ∈ raw.toList, Text.isBlank c = false
  · rw [parse_of_shown shown]
    by_cases long : max < raw.toList.length
    · simp [long, Nat.not_le.2 long]
    · have first : firstInvalid 0 raw.toList = some (position, character) ↔
          IsFirstForeign raw.toList character position := by
        rw [firstInvalid_eq_some_iff]
        simp
      rw [if_neg long, ← first]
      split <;> simp_all [and_comm]
  · rw [parse_of_blank (by simpa using shown)]
    simp [shown]

theorem parse_ne_missing : parse raw max ≠ .error .missing := by
  by_cases shown : ∃ c ∈ raw.toList, Text.isBlank c = false
  · rw [parse_of_shown shown]
    split
    · simp
    · split <;> simp
  · rw [parse_of_blank (by simpa using shown)]
    simp

-- The reasons count in this order: the text is blank, it is too long, and its first foreign character.
theorem parse_decides (raw : String) (max : Nat) :
    (∀ key, parse raw max = .ok key ↔
      key.text = raw ∧ 1 ≤ raw.toList.length ∧ raw.toList.length ≤ max ∧
        ∀ c ∈ raw.toList, c ∈ keyAlphabet) ∧
    (parse raw max = .error .empty ↔ ∀ c ∈ raw.toList, Text.isBlank c = true) ∧
    (∀ length bound, parse raw max = .error (.tooLong length bound) ↔
      (∃ c ∈ raw.toList, Text.isBlank c = false) ∧ max < raw.toList.length ∧
        length = raw.toList.length ∧ bound = max) ∧
    (∀ character position, parse raw max = .error (.invalidCharacter character position) ↔
      (∃ c ∈ raw.toList, Text.isBlank c = false) ∧ raw.toList.length ≤ max ∧
        IsFirstForeign raw.toList character position) ∧
    parse raw max ≠ .error .missing :=
  ⟨fun _ => parse_eq_ok_iff, parse_eq_empty_iff, fun _ _ => parse_eq_tooLong_iff,
    fun _ _ => parse_eq_invalidCharacter_iff, parse_ne_missing⟩

-- A blank is foreign among other characters, and too much behind as many as there may be.
example : parse "abc 123" 64 = .error (.invalidCharacter ' ' 3) ∧
    parse "abc 123" 6 = .error (.tooLong 7 6) ∧ parse "\u2003 \t" 0 = .error .empty := by decide

end Key

end OncePerKey
