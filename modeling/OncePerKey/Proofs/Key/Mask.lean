import OncePerKey.Key.Mask

set_option autoImplicit false

namespace OncePerKey

structure IsMasked (visible : Nat) (cs masked : List Char) : Prop where
  length : masked.length = cs.length
  hidden : cs.length ≤ 2 * visible → ∀ c ∈ masked, c = '*'
  first : 2 * visible < cs.length → masked.take visible = cs.take visible
  last : 2 * visible < cs.length →
    masked.drop (cs.length - visible) = cs.drop (cs.length - visible)
  between : 2 * visible < cs.length → ∀ i, visible ≤ i → i < cs.length - visible → masked[i]? = some '*'

section

variable {visible : Nat} {s t : List Char}

theorem maskChars_of_short (short : s.length ≤ 2 * visible) :
    maskChars visible s = List.replicate s.length '*' :=
  if_pos (by omega)

theorem maskChars_of_long (long : 2 * visible < s.length) :
    maskChars visible s = s.take visible ++
      (List.replicate (s.length - 2 * visible) '*' ++ s.drop (s.length - visible)) := by
  rw [maskChars, if_neg (by omega), Nat.mul_comm, List.append_assoc]

theorem isMasked_maskChars (visible : Nat) (s : List Char) : IsMasked visible s (maskChars visible s) := by
  have front (long : 2 * visible < s.length) : (s.take visible).length = visible := by
    rw [List.length_take]
    omega
  constructor
  case length => exact length_maskChars visible s
  case hidden =>
    intro short c present
    rw [maskChars_of_short short] at present
    exact List.eq_of_mem_replicate present
  case first =>
    intro long
    rw [maskChars_of_long long, List.take_left' (front long)]
  case last =>
    intro long
    have middle : (s.take visible ++ List.replicate (s.length - 2 * visible) '*').length =
        s.length - visible := by
      rw [List.length_append, front long, List.length_replicate]
      omega
    rw [maskChars_of_long long, ← List.append_assoc, List.drop_left' middle]
  case between =>
    intro long i after before
    rw [maskChars_of_long long, List.getElem?_append_right (by omega), front long,
      List.getElem?_append_left (by rw [List.length_replicate]; omega), List.getElem?_replicate]
    exact if_pos (by omega)

theorem maskChars_eq_iff : maskChars visible s = maskChars visible t ↔
    s.length = t.length ∧ (s.length ≤ 2 * visible ∨
      s.take visible = t.take visible ∧ s.drop (s.length - visible) = t.drop (t.length - visible)) := by
  constructor
  · intro same
    have length : s.length = t.length := by
      rw [← length_maskChars visible s, same, length_maskChars]
    refine ⟨length, ?_⟩
    by_cases long : 2 * visible < s.length
    · have masked := isMasked_maskChars visible s
      have masked' := isMasked_maskChars visible t
      refine .inr ⟨?_, ?_⟩
      · rw [← masked.first long, same, masked'.first (length ▸ long)]
      · rw [← masked.last long, same, length, masked'.last (length ▸ long)]
    · exact .inl (by omega)
  · rintro ⟨length, ends⟩
    by_cases long : 2 * visible < s.length
    · obtain ⟨first, last⟩ := ends.resolve_left (by omega)
      rw [maskChars_of_long long, maskChars_of_long (length ▸ long), first, last, length]
    · rw [maskChars_of_short (by omega), maskChars_of_short (by omega), length]

end

theorem maskKey_eq_iff {a b : String} : maskKey a = maskKey b ↔
    a.toList.length = b.toList.length ∧ (a.toList.length ≤ 8 ∨
      a.toList.take 4 = b.toList.take 4 ∧
        a.toList.drop (a.toList.length - 4) = b.toList.drop (b.toList.length - 4)) := by
  rw [maskKey, maskKey, mask, mask, String.ofList_inj]
  exact maskChars_eq_iff

end OncePerKey
