import OncePerKey.Text.Blank

set_option autoImplicit false

namespace OncePerKey.Text

structure Digits (cs : List Char) : Prop where
  all : ∀ c ∈ cs, c.isDigit = true
  some : cs ≠ []

theorem digits_toDigits (n : Nat) : Digits (Nat.toDigits 10 n) where
  all _ := Nat.isDigit_of_mem_toDigits (by decide) (by decide)
  some := Nat.toDigits_ne_nil

def Stops (rest : List Char) : Prop :=
  ∀ c ∈ rest.head?, c.isDigit = false

theorem stops_nil : Stops [] := by
  intro c present
  exact nomatch present

theorem stops_cons {c : Char} {rest : List Char} (stop : c.isDigit = false) : Stops (c :: rest) := by
  intro d present
  cases present
  exact stop

theorem isBlank_of_isDigit {c : Char} (digit : c.isDigit = true) : isBlank c = false := by
  have range : 48 ≤ c.toNat ∧ c.toNat ≤ 57 := Char.isDigit_iff_toNat.1 digit
  simp [isBlank, inRanges, blankRanges]
  omega

namespace Digits

variable {cs rest : List Char}

theorem first (digits : Digits cs) {c : Char} {more : List Char} (same : cs ++ rest = c :: more) :
    c.isDigit = true := by
  obtain ⟨d, others, rfl⟩ := List.exists_cons_of_ne_nil digits.some
  cases same
  exact digits.all c List.mem_cons_self

theorem trimStart (digits : Digits cs) : Text.trimStart isBlank (cs ++ rest) = cs ++ rest := by
  obtain ⟨c, others, rfl⟩ := List.exists_cons_of_ne_nil digits.some
  have sharp := isBlank_of_isDigit (digits.all c List.mem_cons_self)
  simp [Text.trimStart, sharp]

theorem takeWhile (digits : Digits cs) (stops : Stops rest) :
    (cs ++ rest).takeWhile Char.isDigit = cs := by
  rw [List.takeWhile_append_of_pos digits.all]
  cases rest with
  | nil => simp
  | cons c rest => simp [stops c rfl]

theorem dropWhile (digits : Digits cs) (stops : Stops rest) :
    (cs ++ rest).dropWhile Char.isDigit = rest := by
  rw [List.dropWhile_append_of_pos digits.all]
  cases rest with
  | nil => simp
  | cons c rest => simp [stops c rfl]

end Digits

theorem toDigits_ne_zero_cons {n : Nat} (positive : 0 < n) {more : List Char} :
    Nat.toDigits 10 n ≠ '0' :: more := by
  induction n using Nat.strongRecOn generalizing more with
  | ind n ih =>
    rw [Nat.toDigits_eq_if (by decide)]
    split
    · rename_i small
      intro same
      have code := Nat.toNat_digitChar_of_lt_ten small
      rw [(List.cons.inj same).1] at code
      have zero : '0'.toNat = 48 := rfl
      omega
    · intro same
      obtain ⟨c, others, first⟩ :=
        List.exists_cons_of_ne_nil (Nat.toDigits_ne_nil (n := n / 10) (b := 10))
      rw [first] at same
      have begins := (List.cons.inj same).1
      subst begins
      exact ih (n / 10) (by omega) (by omega) first

end OncePerKey.Text
