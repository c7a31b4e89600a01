import Mathlib.Algebra.Group.Nat.Defs
import OncePerKey.Uuid

set_option autoImplicit false

namespace OncePerKey

namespace Hex

theorem digit?_digit {n : Nat} (small : n < 16) : digit? (digit n) = some n := by
  have each : ∀ n : Fin 16, digit? (digit n) = some n.val := by decide
  exact each ⟨n, small⟩

@[simp] theorem length_fixed (width n : Nat) : (fixed width n).length = width := by
  induction width generalizing n with
  | zero => rfl
  | succ width ih => simp [fixed, ih]

theorem value?_fixed (width n : Nat) : value? (fixed width n) = some (n % 16 ^ width) := by
  induction width generalizing n with
  | zero => simp [fixed, value?, Nat.mod_one]
  | succ width ih =>
    have high : value? (fixed width (n / 16)) = some (n / 16 % 16 ^ width) := ih (n / 16)
    have low : digit? (digit (n % 16)) = some (n % 16) := digit?_digit (Nat.mod_lt n (by decide))
    have parts : n % 16 ^ (width + 1) = n / 16 % 16 ^ width * 16 + n % 16 := by
      rw [Nat.pow_succ, Nat.mul_comm, Nat.mod_mul]
      omega
    unfold value? at high ⊢
    rw [fixed, List.foldl_append, high, parts]
    simp [low]

theorem fixed_inj {width n m : Nat} (hn : n < 16 ^ width) (hm : m < 16 ^ width)
    (same : fixed width n = fixed width m) : n = m := by
  have values := congrArg value? same
  rw [value?_fixed, value?_fixed, Nat.mod_eq_of_lt hn, Nat.mod_eq_of_lt hm] at values
  exact Option.some.inj values

end Hex

namespace Uuid

theorem flatten_groups (cs : List Char) : (groups cs).flatten = cs := by
  have cut (i j : Nat) : (cs.drop i).take j ++ cs.drop (i + j) = cs.drop i := by
    rw [← List.drop_drop, List.take_append_drop]
  simp only [groups, List.flatten_cons, List.flatten_nil, List.append_nil]
  rw [cut 16 4, cut 12 4, cut 8 4, List.take_append_drop]

theorem intercalate_inj {sep : List Char} {gs hs : List (List Char)}
    (lengths : gs.map List.length = hs.map List.length)
    (same : List.intercalate sep gs = List.intercalate sep hs) : gs = hs := by
  induction gs generalizing hs with
  | nil => simpa using lengths.symm
  | cons g gs ih =>
    cases hs with
    | nil => simp at lengths
    | cons h hs =>
      obtain ⟨head, tail⟩ := List.cons.inj lengths
      cases gs with
      | nil =>
        have none : hs = [] := by simpa using tail.symm
        simpa [none, List.intercalate] using same
      | cons g' gs =>
        cases hs with
        | nil => simp at tail
        | cons h' hs =>
          have split (x y : List Char) (xs : List (List Char)) :
              List.intercalate sep (x :: y :: xs) = x ++ (sep ++ List.intercalate sep (y :: xs)) := by
            simp [List.intercalate, List.intersperse]
          rw [split, split] at same
          obtain ⟨first, rest⟩ := List.append_inj same head
          rw [first, ih tail (List.append_cancel_left rest)]

theorem render_injective : Function.Injective render := by
  intro u v same
  have chars : u.chars = v.chars := String.ofList_injective same
  have lengths : (groups (Hex.fixed 32 u.bits.toNat)).map List.length =
      (groups (Hex.fixed 32 v.bits.toNat)).map List.length := by
    simp [groups]
  have digits := congrArg List.flatten (intercalate_inj lengths chars)
  rw [flatten_groups, flatten_groups] at digits
  have bound (x : Uuid) : x.bits.toNat < 16 ^ 32 := x.bits.isLt
  have bits := BitVec.eq_of_toNat_eq (Hex.fixed_inj (bound u) (bound v) digits)
  cases u
  cases v
  exact congrArg Uuid.mk bits

end Uuid

end OncePerKey
