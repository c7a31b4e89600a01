import OncePerKey.Proofs.Text.Utf8

set_option autoImplicit false

namespace OncePerKey.Utf8

def Continues (b : UInt8) : Prop := 0x80 ≤ b.toNat ∧ b.toNat ≤ 0xBF

inductive Spelling : Bytes → Prop where
  | one (a : UInt8) (ascii : a.toNat ≤ 0x7F) : Spelling [a]
  | two (a b : UInt8) (least : 0xC2 ≤ a.toNat) (most : a.toNat ≤ 0xDF) (second : Continues b) :
      Spelling [a, b]
  | three (a b c : UInt8) (least : 0xE0 ≤ a.toNat) (most : a.toNat ≤ 0xEF) (second : Continues b)
      (third : Continues c) (shortest : a.toNat = 0xE0 → 0xA0 ≤ b.toNat)
      (whole : a.toNat = 0xED → b.toNat ≤ 0x9F) : Spelling [a, b, c]
  | four (a b c d : UInt8) (least : 0xF0 ≤ a.toNat) (most : a.toNat ≤ 0xF4) (second : Continues b)
      (third : Continues c) (fourth : Continues d) (shortest : a.toNat = 0xF0 → 0x90 ≤ b.toNat)
      (within : a.toNat = 0xF4 → b.toNat ≤ 0x8F) : Spelling [a, b, c, d]

inductive WellFormed : Bytes → Prop where
  | nil : WellFormed []
  | cons {spelling rest : Bytes} (first : Spelling spelling) (more : WellFormed rest) :
      WellFormed (spelling ++ rest)

variable {a b : UInt8} {bytes before behind rest tail : Bytes}

theorem continues_byte {k : Nat} (fits : k < 0x40) : Continues (.ofNat (0x80 + k)) := by
  rw [Continues, toNat_byte (by omega)]
  omega

theorem spelling_encodeChar (c : Char) : Spelling (encodeChar c) := by
  have valid : c.toNat.isValidChar := c.valid
  unfold Nat.isValidChar at valid
  simp only [encodeChar]
  split
  · have lead : (UInt8.ofNat c.toNat).toNat = c.toNat := toNat_byte (by omega)
    exact .one _ (by omega)
  split
  · have lead : (UInt8.ofNat (0xC0 + c.toNat / 64)).toNat = 0xC0 + c.toNat / 64 := toNat_byte (by omega)
    exact .two _ _ (by omega) (by omega) (continues_byte (by omega))
  split
  · have lead : (UInt8.ofNat (0xE0 + c.toNat / 4096)).toNat = 0xE0 + c.toNat / 4096 :=
      toNat_byte (by omega)
    have second : (UInt8.ofNat (0x80 + c.toNat / 64 % 64)).toNat = 0x80 + c.toNat / 64 % 64 :=
      toNat_byte (by omega)
    exact .three _ _ _ (by omega) (by omega) (continues_byte (by omega)) (continues_byte (by omega))
      (by omega) (by omega)
  · have lead : (UInt8.ofNat (0xF0 + c.toNat / 262144)).toNat = 0xF0 + c.toNat / 262144 :=
      toNat_byte (by omega)
    have second : (UInt8.ofNat (0x80 + c.toNat / 4096 % 64)).toNat = 0x80 + c.toNat / 4096 % 64 :=
      toNat_byte (by omega)
    exact .four _ _ _ _ (by omega) (by omega) (continues_byte (by omega)) (continues_byte (by omega))
      (continues_byte (by omega)) (by omega) (by omega)

theorem exists_char_of_spelling (spelling : Spelling bytes) : ∃ c, encodeChar c = bytes := by
  cases spelling with
  | one a ascii =>
    have valid : a.toNat.isValidChar := .inl (by omega)
    refine ⟨Char.ofNat a.toNat, ?_⟩
    simp only [encodeChar, toNat_ofNat valid]
    rw [if_pos (by omega), UInt8.ofNat_toNat]
  | two a b least most second =>
    obtain ⟨low, high⟩ := second
    obtain ⟨n, code⟩ : ∃ n, n = (a.toNat - 0xC0) * 64 + (b.toNat - 0x80) := ⟨_, rfl⟩
    have valid : n.isValidChar := .inl (by omega)
    refine ⟨Char.ofNat n, ?_⟩
    simp only [encodeChar, toNat_ofNat valid]
    rw [if_neg (by omega), if_pos (by omega), ← eq_ofNat (b := a) (by omega), ← eq_ofNat (b := b) (by omega)]
  | three a b c least most second third shortest whole =>
    obtain ⟨low, high⟩ := second
    obtain ⟨low', high'⟩ := third
    obtain ⟨n, code⟩ : ∃ n, n = (a.toNat - 0xE0) * 4096 + (b.toNat - 0x80) * 64 + (c.toNat - 0x80) :=
      ⟨_, rfl⟩
    have valid : n.isValidChar := by
      unfold Nat.isValidChar
      omega
    refine ⟨Char.ofNat n, ?_⟩
    simp only [encodeChar, toNat_ofNat valid]
    rw [if_neg (by omega), if_neg (by omega), if_pos (by omega), ← eq_ofNat (b := a) (by omega),
      ← eq_ofNat (b := b) (by omega), ← eq_ofNat (b := c) (by omega)]
  | four a b c d least most second third fourth shortest within =>
    obtain ⟨low, high⟩ := second
    obtain ⟨low', high'⟩ := third
    obtain ⟨low'', high''⟩ := fourth
    obtain ⟨n, code⟩ : ∃ n, n = (a.toNat - 0xF0) * 262144 + (b.toNat - 0x80) * 4096 +
        (c.toNat - 0x80) * 64 + (d.toNat - 0x80) := ⟨_, rfl⟩
    have valid : n.isValidChar := .inr ⟨by omega, by omega⟩
    refine ⟨Char.ofNat n, ?_⟩
    simp only [encodeChar, toNat_ofNat valid]
    rw [if_neg (by omega), if_neg (by omega), if_neg (by omega), ← eq_ofNat (b := a) (by omega),
      ← eq_ofNat (b := b) (by omega), ← eq_ofNat (b := c) (by omega), ← eq_ofNat (b := d) (by omega)]

theorem wellFormed_encodeChars (chars : List Char) : WellFormed (encodeChars chars) := by
  induction chars with
  | nil => exact .nil
  | cons c rest ih =>
    rw [encodeChars, List.flatMap_cons]
    exact .cons (spelling_encodeChar c) ih

theorem wellFormed_iff : WellFormed bytes ↔ ∃ text, encode text = bytes := by
  constructor
  · intro formed
    induction formed with
    | nil => exact ⟨"", rfl⟩
    | cons first _ ih =>
      obtain ⟨c, rfl⟩ := exists_char_of_spelling first
      obtain ⟨text, rfl⟩ := ih
      refine ⟨String.ofList (c :: text.toList), ?_⟩
      rw [encode, String.toList_ofList, encodeChars, List.flatMap_cons]
      rfl
  · rintro ⟨text, rfl⟩
    exact wellFormed_encodeChars text.toList

theorem wellFormed_iff_decode : WellFormed bytes ↔ ∃ text, decode bytes = .ok text := by
  rw [wellFormed_iff]
  constructor
  · rintro ⟨text, rfl⟩
    exact ⟨text, decode_encode text⟩
  · rintro ⟨text, decoded⟩
    exact ⟨text, encode_of_decode decoded⟩

def extent (lead : UInt8) : Nat :=
  if lead.toNat < 0xC0 then 0 else if lead.toNat < 0xE0 then 1 else if lead.toNat < 0xF0 then 2 else 3

theorem Spelling.continued (spelling : Spelling (a :: tail)) :
    ¬ Continues a ∧ tail.length = extent a ∧ ∀ b ∈ tail, Continues b := by
  unfold extent
  cases spelling with
  | one a ascii =>
    refine ⟨fun inside => ?_, ?_, by simp⟩
    · have low := inside.1
      omega
    · rw [if_pos (by omega)]
      rfl
  | two a b least most second =>
    refine ⟨fun inside => ?_, ?_, by simp [second]⟩
    · have high := inside.2
      omega
    · rw [if_neg (by omega), if_pos (by omega)]
      rfl
  | three a b c least most second third =>
    refine ⟨fun inside => ?_, ?_, by simp [second, third]⟩
    · have high := inside.2
      omega
    · rw [if_neg (by omega), if_neg (by omega), if_pos (by omega)]
      rfl
  | four a b c d least most second third fourth =>
    refine ⟨fun inside => ?_, ?_, by simp [second, third, fourth]⟩
    · have high := inside.2
      omega
    · rw [if_neg (by omega), if_neg (by omega), if_neg (by omega)]
      rfl

theorem Spelling.ne_nil (spelling : Spelling bytes) : bytes ≠ [] := by
  cases spelling <;> exact List.cons_ne_nil _ _

theorem WellFormed.uncons (formed : WellFormed (a :: rest)) :
    ∃ tail behind, rest = tail ++ behind ∧ Spelling (a :: tail) := by
  generalize whole : a :: rest = bytes at formed
  cases formed with
  | nil => exact nomatch whole
  | @cons spelling behind first more =>
    cases spelling with
    | nil => exact absurd rfl first.ne_nil
    | cons b tail =>
      obtain ⟨rfl, rfl⟩ := List.cons.inj whole
      exact ⟨tail, behind, rfl, first⟩

theorem WellFormed.of_append (formed : WellFormed (before ++ a :: behind)) (begins : ¬ Continues a) :
    WellFormed (a :: behind) := by
  generalize whole : before ++ a :: behind = bytes at formed
  induction formed generalizing before with
  | nil => simp at whole
  | @cons spelling rest first more ih =>
    rcases List.append_eq_append_iff.1 whole with ⟨part, inside, later⟩ | ⟨part, inside, later⟩
    · cases part with
      | nil =>
        rw [List.nil_append] at later
        exact later ▸ more
      | cons b tail =>
        obtain ⟨rfl, rfl⟩ := List.cons.inj later
        cases before with
        | nil =>
          rw [inside] at first
          exact .cons first more
        | cons d before =>
          -- The byte would continue the character before it.
          rw [inside] at first
          exact absurd (first.continued.2.2 a (by simp)) begins
    · exact ih later.symm

def twoBytes (n : Nat) : Bytes :=
  [.ofNat (0xC0 + n / 64), .ofNat (0x80 + n % 64)]

def threeBytes (n : Nat) : Bytes :=
  [.ofNat (0xE0 + n / 4096), .ofNat (0x80 + n / 64 % 64), .ofNat (0x80 + n % 64)]

def fourBytes (n : Nat) : Bytes :=
  [.ofNat (0xF0 + n / 262144), .ofNat (0x80 + n / 4096 % 64), .ofNat (0x80 + n / 64 % 64),
   .ofNat (0x80 + n % 64)]

inductive Flawed : Bytes → Prop where
  | overlongTwo (n : Nat) (small : n < 0x80) (rest : Bytes) : Flawed (twoBytes n ++ rest)
  | overlongThree (n : Nat) (small : n < 0x800) (rest : Bytes) : Flawed (threeBytes n ++ rest)
  | overlongFour (n : Nat) (small : n < 0x10000) (rest : Bytes) : Flawed (fourBytes n ++ rest)
  | surrogate (n : Nat) (least : 0xD800 ≤ n) (most : n ≤ 0xDFFF) (rest : Bytes) :
      Flawed (threeBytes n ++ rest)
  | beyond (n : Nat) (large : 0x10FFFF < n) (fits : n < 0x200000) (rest : Bytes) :
      Flawed (fourBytes n ++ rest)
  -- A first byte of five bytes or more, which could hold nothing else either.
  | farBeyond (a : UInt8) (large : 0xF8 ≤ a.toNat) (rest : Bytes) : Flawed (a :: rest)
  | truncated (c : Char) (start missing : Bytes) (parts : encodeChar c = start ++ missing)
      (begun : start ≠ []) (lacks : missing ≠ []) (rest : Bytes)
      (ends : ∀ b ∈ rest.head?, ¬ Continues b) : Flawed (start ++ rest)

theorem Spelling.lead_bounds (spelling : Spelling (a :: tail)) :
    a.toNat ≤ 0x7F ∨ 0xC2 ≤ a.toNat ∧ a.toNat ≤ 0xF4 := by
  cases spelling <;> omega

theorem Spelling.second_bounds (spelling : Spelling (a :: tail)) (long : 0x80 ≤ a.toNat)
    (parts : b :: rest = tail ++ behind) :
    (a.toNat = 0xE0 → 0xA0 ≤ b.toNat) ∧ (a.toNat = 0xED → b.toNat ≤ 0x9F) ∧
      (a.toNat = 0xF0 → 0x90 ≤ b.toNat) ∧ (a.toNat = 0xF4 → b.toNat ≤ 0x8F) := by
  cases spelling with
  | one => omega
  | two | three | four =>
    obtain ⟨rfl, -⟩ := List.cons.inj parts
    omega

def Unspelled (bytes : Bytes) : Prop :=
  ∃ a rest, bytes = a :: rest ∧ ¬ Continues a ∧
    ∀ tail behind, rest = tail ++ behind → ¬ Spelling (a :: tail)

theorem unspelled_of_lead (begins : ¬ Continues a) (unfit : 0x7F < a.toNat)
    (outside : a.toNat < 0xC2 ∨ 0xF4 < a.toNat) (rest : Bytes) : Unspelled (a :: rest) := by
  refine ⟨a, rest, rfl, begins, fun tail behind _ spelling => ?_⟩
  have bounds := spelling.lead_bounds
  omega

theorem unspelled_of_second (begins : ¬ Continues a) (long : 0x80 ≤ a.toNat)
    (unfit : a.toNat = 0xE0 ∧ b.toNat < 0xA0 ∨ a.toNat = 0xED ∧ 0x9F < b.toNat ∨
      a.toNat = 0xF0 ∧ b.toNat < 0x90 ∨ a.toNat = 0xF4 ∧ 0x8F < b.toNat) (rest : Bytes) :
    Unspelled (a :: b :: rest) := by
  refine ⟨a, b :: rest, rfl, begins, fun tail behind parts spelling => ?_⟩
  have bounds := spelling.second_bounds long parts
  omega

theorem not_continues_of_le (large : 0xC0 ≤ a.toNat) : ¬ Continues a := by
  intro inside
  have high := inside.2
  omega

theorem unspelled_of_truncated {c : Char} {start missing : Bytes} (parts : encodeChar c = start ++ missing)
    (begun : start ≠ []) (lacks : missing ≠ []) (ends : ∀ b ∈ rest.head?, ¬ Continues b) :
    Unspelled (start ++ rest) := by
  obtain ⟨a, early, rfl⟩ := List.exists_cons_of_ne_nil begun
  have whole := spelling_encodeChar c
  rw [parts, List.cons_append] at whole
  obtain ⟨begins, reach, -⟩ := whole.continued
  refine ⟨a, early ++ rest, rfl, begins, fun tail behind cut spelling => ?_⟩
  obtain ⟨-, length, inside⟩ := spelling.continued
  -- The bytes of the character go on into the rest.
  have short : early.length < tail.length := by
    have more := List.length_pos_iff.2 lacks
    rw [List.length_append] at reach
    omega
  obtain ⟨b, more, goesOn⟩ : ∃ b more, rest = b :: more := by
    refine List.exists_cons_of_ne_nil fun empty => ?_
    have lengths := congrArg List.length cut
    rw [empty, List.append_nil, List.length_append] at lengths
    omega
  have there : b ∈ tail := by
    have found : (early ++ rest)[early.length]? = some b := by simp [goesOn]
    rw [cut, List.getElem?_append_left short] at found
    exact List.mem_of_getElem? found
  exact ends b (by simp [goesOn]) (inside b there)

theorem unspelled_of_flawed (flawed : Flawed bytes) : Unspelled bytes := by
  cases flawed with
  | overlongTwo n small rest =>
    have lead : (UInt8.ofNat (0xC0 + n / 64)).toNat = 0xC0 + n / 64 := toNat_byte (by omega)
    exact unspelled_of_lead (not_continues_of_le (by omega)) (by omega) (by omega) _
  | overlongThree n small rest =>
    have lead : (UInt8.ofNat (0xE0 + n / 4096)).toNat = 0xE0 + n / 4096 := toNat_byte (by omega)
    have second : (UInt8.ofNat (0x80 + n / 64 % 64)).toNat = 0x80 + n / 64 % 64 := toNat_byte (by omega)
    exact unspelled_of_second (not_continues_of_le (by omega)) (by omega) (by omega) _
  | overlongFour n small rest =>
    have lead : (UInt8.ofNat (0xF0 + n / 262144)).toNat = 0xF0 + n / 262144 := toNat_byte (by omega)
    have second : (UInt8.ofNat (0x80 + n / 4096 % 64)).toNat = 0x80 + n / 4096 % 64 :=
      toNat_byte (by omega)
    exact unspelled_of_second (not_continues_of_le (by omega)) (by omega) (by omega) _
  | surrogate n least most rest =>
    have lead : (UInt8.ofNat (0xE0 + n / 4096)).toNat = 0xE0 + n / 4096 := toNat_byte (by omega)
    have second : (UInt8.ofNat (0x80 + n / 64 % 64)).toNat = 0x80 + n / 64 % 64 := toNat_byte (by omega)
    exact unspelled_of_second (not_continues_of_le (by omega)) (by omega) (by omega) _
  | beyond n large fits rest =>
    have lead : (UInt8.ofNat (0xF0 + n / 262144)).toNat = 0xF0 + n / 262144 := toNat_byte (by omega)
    have second : (UInt8.ofNat (0x80 + n / 4096 % 64)).toNat = 0x80 + n / 4096 % 64 :=
      toNat_byte (by omega)
    by_cases last : n / 262144 = 4
    · exact unspelled_of_second (not_continues_of_le (by omega)) (by omega) (by omega) _
    · exact unspelled_of_lead (not_continues_of_le (by omega)) (by omega) (by omega) _
  | farBeyond a large rest =>
    exact unspelled_of_lead (not_continues_of_le (by omega)) (by omega) (by omega) _
  | truncated c start missing parts begun lacks rest ends =>
    exact unspelled_of_truncated parts begun lacks ends

theorem not_wellFormed_of_flawed (flawed : Flawed behind) (before : Bytes) :
    ¬ WellFormed (before ++ behind) := by
  obtain ⟨a, rest, rfl, begins, unspelled⟩ := unspelled_of_flawed flawed
  intro formed
  obtain ⟨tail, later, parts, spelling⟩ := (formed.of_append begins).uncons
  exact unspelled tail later parts spelling

end OncePerKey.Utf8
