import Mathlib.Data.List.Basic
import OncePerKey.Text.Utf8

set_option autoImplicit false

namespace OncePerKey.Utf8

theorem toNat_ofNat {n : Nat} (valid : n.isValidChar) : (Char.ofNat n).toNat = n := by
  unfold Char.ofNat
  rw [dif_pos valid]
  rfl

inductive Begun : Option Pending → Bytes → Prop where
  | nothing : Begun none []
  | ofTwo (bits : Nat) (least : 2 ≤ bits) (most : bits < 0x20) :
      Begun (some ⟨1, 0x80, 0xBF, bits, 1⟩) [.ofNat (0xC0 + bits)]
  | ofThree (low high bits : Nat) (least : 0x80 ≤ low) (most : high ≤ 0xBF) (fits : bits < 0x10)
      (overlong : bits = 0 → low = 0xA0) (surrogate : bits = 0xD → high = 0x9F) :
      Begun (some ⟨2, low, high, bits, 1⟩) [.ofNat (0xE0 + bits)]
  | ofFour (low high bits : Nat) (least : 0x80 ≤ low) (most : high ≤ 0xBF) (fits : bits < 5)
      (overlong : bits = 0 → low = 0x90) (beyond : bits = 4 → high = 0x8F) :
      Begun (some ⟨3, low, high, bits, 1⟩) [.ofNat (0xF0 + bits)]
  | twoOfThree (bits : Nat) (least : 0x20 ≤ bits) (most : bits < 0x400)
      (surrogate : bits < 0x360 ∨ 0x380 ≤ bits) :
      Begun (some ⟨1, 0x80, 0xBF, bits, 2⟩) [.ofNat (0xE0 + bits / 64), .ofNat (0x80 + bits % 64)]
  | twoOfFour (bits : Nat) (least : 0x10 ≤ bits) (most : bits < 0x110) :
      Begun (some ⟨2, 0x80, 0xBF, bits, 2⟩) [.ofNat (0xF0 + bits / 64), .ofNat (0x80 + bits % 64)]
  | threeOfFour (bits : Nat) (least : 0x400 ≤ bits) (most : bits < 0x4400) :
      Begun (some ⟨1, 0x80, 0xBF, bits, 3⟩)
        [.ofNat (0xF0 + bits / 4096), .ofNat (0x80 + bits / 64 % 64), .ofNat (0x80 + bits % 64)]

def Reading.Spells (r : Reading) (bytes : Bytes) : Prop :=
  ∃ chars start, r.seen = (chars.map Piece.char).reverse ∧ Begun r.pending start ∧
    bytes = encodeChars chars ++ start

theorem Reading.spells_start : Reading.start.Spells [] :=
  ⟨[], [], rfl, .nothing, rfl⟩

theorem begun_of_toNat {b : UInt8} {n : Nat} {p : Pending} (same : n = b.toNat)
    (begun : Begun (some p) [.ofNat n]) : Begun (some p) [b] := by
  rwa [same, UInt8.ofNat_toNat] at begun

theorem begun_ofLead {b : UInt8} {p : Pending} (lead : Pending.ofLead b.toNat = some p) :
    Begun (some p) [b] := by
  -- One case for each range of first bytes.
  unfold Pending.ofLead at lead
  split at lead
  · exact nomatch lead
  split at lead
  · cases lead
    exact begun_of_toNat (by omega) (.ofTwo _ (by omega) (by omega))
  split at lead
  · cases lead
    exact begun_of_toNat (by omega)
      (.ofThree _ _ 0 (by omega) (by omega) (by omega) (by omega) (by omega))
  split at lead
  · cases lead
    exact begun_of_toNat (by omega)
      (.ofThree _ _ 0xD (by omega) (by omega) (by omega) (by omega) (by omega))
  split at lead
  · cases lead
    exact begun_of_toNat (by omega)
      (.ofThree _ _ _ (by omega) (by omega) (by omega) (by omega) (by omega))
  split at lead
  · cases lead
    exact begun_of_toNat (by omega)
      (.ofFour _ _ 0 (by omega) (by omega) (by omega) (by omega) (by omega))
  split at lead
  · cases lead
    exact begun_of_toNat (by omega)
      (.ofFour _ _ _ (by omega) (by omega) (by omega) (by omega) (by omega))
  split at lead
  · cases lead
    exact begun_of_toNat (by omega)
      (.ofFour _ _ 4 (by omega) (by omega) (by omega) (by omega) (by omega))
  · exact nomatch lead

theorem encodeChar_of_begun {p : Pending} {start : Bytes} (begun : Begun (some p) start)
    (last : p.missing ≤ 1) {b : UInt8} (low : p.low ≤ b.toNat) (high : b.toNat ≤ p.high) :
    encodeChar (Char.ofNat (p.bits * 64 + b.toNat % 64)) = start ++ [b] := by
  generalize whole : p.bits * 64 + b.toNat % 64 = n
  cases begun with
  | ofTwo bits least most =>
    simp only at low high whole
    have valid : n.isValidChar := .inl (by omega)
    have first : 0xC0 + n / 64 = 0xC0 + bits := by omega
    have second : 0x80 + n % 64 = b.toNat := by omega
    unfold encodeChar
    simp only [toNat_ofNat valid]
    rw [if_neg (by omega), if_pos (by omega), first, second, UInt8.ofNat_toNat]
    rfl
  | ofThree | ofFour | twoOfFour => simp at last
  | twoOfThree bits least most surrogate =>
    simp only at low high whole
    have valid : n.isValidChar := by
      rcases surrogate with below | above
      · exact .inl (by omega)
      · exact .inr ⟨by omega, by omega⟩
    have first : 0xE0 + n / 4096 = 0xE0 + bits / 64 := by omega
    have second : 0x80 + n / 64 % 64 = 0x80 + bits % 64 := by omega
    have third : 0x80 + n % 64 = b.toNat := by omega
    unfold encodeChar
    simp only [toNat_ofNat valid]
    rw [if_neg (by omega), if_neg (by omega), if_pos (by omega), first, second, third,
      UInt8.ofNat_toNat]
    rfl
  | threeOfFour bits least most =>
    simp only at low high whole
    have valid : n.isValidChar := .inr ⟨by omega, by omega⟩
    have first : 0xF0 + n / 262144 = 0xF0 + bits / 4096 := by omega
    have second : 0x80 + n / 4096 % 64 = 0x80 + bits / 64 % 64 := by omega
    have third : 0x80 + n / 64 % 64 = 0x80 + bits % 64 := by omega
    have fourth : 0x80 + n % 64 = b.toNat := by omega
    unfold encodeChar
    simp only [toNat_ofNat valid]
    rw [if_neg (by omega), if_neg (by omega), if_neg (by omega), first, second, third, fourth,
      UInt8.ofNat_toNat]
    rfl

theorem eq_ofNat {b : UInt8} {n : Nat} (same : b.toNat = n) : b = .ofNat n := by
  rw [← same, UInt8.ofNat_toNat]

theorem begun_next {p : Pending} {start : Bytes} (begun : Begun (some p) start)
    (more : 1 < p.missing) {b : UInt8} (low : p.low ≤ b.toNat) (high : b.toNat ≤ p.high) :
    Begun (some ⟨p.missing - 1, 0x80, 0xBF, p.bits * 64 + b.toNat % 64, p.width + 1⟩)
      (start ++ [b]) := by
  generalize whole : p.bits * 64 + b.toNat % 64 = n
  cases begun with
  | ofTwo | twoOfThree | threeOfFour => simp at more
  | ofThree least most bits atLeast atMost fits overlong surrogate =>
    simp only at low high whole
    have first : 0xE0 + bits = 0xE0 + n / 64 := by omega
    have second : b = .ofNat (0x80 + n % 64) := eq_ofNat (by omega)
    rw [first, second]
    exact .twoOfThree n (by omega) (by omega) (by omega)
  | ofFour least most bits atLeast atMost fits overlong beyond =>
    simp only at low high whole
    have first : 0xF0 + bits = 0xF0 + n / 64 := by omega
    have second : b = .ofNat (0x80 + n % 64) := eq_ofNat (by omega)
    rw [first, second]
    exact .twoOfFour n (by omega) (by omega)
  | twoOfFour bits least most =>
    simp only at low high whole
    have first : 0xF0 + bits / 64 = 0xF0 + n / 4096 := by omega
    have second : 0x80 + bits % 64 = 0x80 + n / 64 % 64 := by omega
    have third : b = .ofNat (0x80 + n % 64) := eq_ofNat (by omega)
    rw [first, second, third]
    exact .threeOfFour n (by omega) (by omega)

namespace Reading

variable {r : Reading} {bytes : Bytes}

theorem spells_takeLead {chars : List Char} (seen : r.seen = (chars.map Piece.char).reverse)
    (spelled : bytes = encodeChars chars) (b : UInt8) :
    (r.takeLead b.toNat).Spells (bytes ++ [b]) ∨ ∃ width, .bad width ∈ (r.takeLead b.toNat).seen := by
  unfold takeLead
  split
  case isTrue ascii =>
    have byte : encodeChar (Char.ofNat b.toNat) = [b] := by
      unfold encodeChar
      simp only [toNat_ofNat (.inl (by omega) : b.toNat.isValidChar)]
      rw [if_pos ascii, UInt8.ofNat_toNat]
    refine .inl ⟨chars ++ [Char.ofNat b.toNat], [], by simp [seen], .nothing, ?_⟩
    simp [encodeChars, byte, spelled]
  case isFalse =>
    cases lead : Pending.ofLead b.toNat with
    | none => exact .inr ⟨1, List.mem_cons_self⟩
    | some p => exact .inl ⟨chars, [b], seen, begun_ofLead lead, by rw [spelled]⟩

theorem spells_take (spells : r.Spells bytes) (b : UInt8) :
    (r.take b).Spells (bytes ++ [b]) ∨ ∃ width, .bad width ∈ (r.take b).seen := by
  obtain ⟨chars, start, seen, begun, spelled⟩ := spells
  obtain ⟨pieces, pending⟩ := r
  simp only at seen begun
  unfold take
  cases pending with
  | none =>
    cases begun
    exact spells_takeLead seen (by simpa using spelled) b
  | some p =>
    simp only
    split
    case isTrue inside =>
      simp only [Bool.and_eq_true, decide_eq_true_eq] at inside
      obtain ⟨low, high⟩ := inside
      split
      case isTrue last =>
        refine .inl ⟨chars ++ [Char.ofNat (p.bits * 64 + b.toNat % 64)], [], by simp [seen],
          .nothing, ?_⟩
        simp [encodeChars, encodeChar_of_begun begun last low high, spelled]
      case isFalse more =>
        refine .inl ⟨chars, start ++ [b], seen, begun_next begun (by omega) low high, ?_⟩
        rw [spelled, List.append_assoc]
    case isFalse =>
      refine .inr ⟨p.width, ?_⟩
      unfold takeLead
      split
      · simp
      · split <;> simp

theorem seen_subset_take (r : Reading) (b : UInt8) : r.seen ⊆ (r.take b).seen := by
  have lead (r : Reading) (n : Nat) : r.seen ⊆ (r.takeLead n).seen := by
    unfold takeLead
    split
    · simp
    · split <;> simp
  unfold take
  split
  · exact lead r _
  · simp only
    split
    · split <;> simp
    · exact fun _ present => lead _ _ (List.mem_cons_of_mem _ present)

theorem seen_subset_finish (r : Reading) : r.seen ⊆ r.finish := by
  unfold finish
  split <;> simp

theorem seen_subset_foldl (bytes : Bytes) (r : Reading) :
    r.seen ⊆ (bytes.foldl take r).finish := by
  induction bytes generalizing r with
  | nil => exact r.seen_subset_finish
  | cons b rest ih => exact fun _ present => ih (r.take b) (r.seen_subset_take b present)

theorem encodeChars_of_finish (spells : r.Spells bytes) (rest : Bytes) {chars : List Char}
    (read : (rest.foldl take r).finish = chars.map Piece.char) :
    encodeChars chars = bytes ++ rest := by
  induction rest generalizing r bytes with
  | nil =>
    obtain ⟨before, start, seen, begun, spelled⟩ := spells
    obtain ⟨pieces, pending⟩ := r
    cases pending with
    | none =>
      cases begun
      simp only [List.foldl_nil, finish] at read seen
      rw [seen, List.reverse_reverse] at read
      have same : before = chars := List.map_injective_iff.2 (fun _ _ => Piece.char.inj) read
      simp [spelled, same]
    | some p =>
      have cut : Piece.cut p.width ∈ chars.map Piece.char := by
        rw [← read]
        simp [finish]
      simp at cut
  | cons b rest ih =>
    rcases spells_take spells b with goesOn | ⟨width, bad⟩
    · rw [ih goesOn read, List.append_assoc]
      rfl
    -- A piece that is no character stays among those seen.
    · have present := seen_subset_foldl rest _ bad
      rw [List.foldl_cons] at read
      rw [read] at present
      simp at present

end Reading

theorem collect_eq_ok {seen chars : List Char} {index : Nat} {read : List Piece}
    (collected : collect seen index read = .ok chars) :
    ∃ rest, read = rest.map Piece.char ∧ chars = seen.reverse ++ rest := by
  induction read generalizing seen index with
  | nil =>
    cases collected
    exact ⟨[], rfl, by simp⟩
  | cons piece read ih =>
    cases piece with
    | bad | cut => exact nomatch collected
    | char c =>
      obtain ⟨rest, same, rfl⟩ := ih collected
      exact ⟨c :: rest, by simp [same], by simp⟩

theorem encode_of_decode {bytes : Bytes} {text : String} (decoded : decode bytes = .ok text) :
    encode text = bytes := by
  unfold decode at decoded
  cases collected : decodeChars bytes with
  | error fault => simp [collected, Except.map] at decoded
  | ok chars =>
    simp only [collected, Except.map, Except.ok.injEq] at decoded
    obtain ⟨rest, read, same⟩ := collect_eq_ok collected
    simp only [List.reverse_nil, List.nil_append] at same
    subst same
    have spelled := Reading.encodeChars_of_finish Reading.spells_start bytes read
    rw [← decoded]
    simpa [encode] using spelled

theorem toNat_byte {k : Nat} (small : k < 256) : (UInt8.ofNat k).toNat = k :=
  UInt8.toNat_ofNat_of_lt small

theorem ofLead_two {k : Nat} (least : 2 ≤ k) (most : k < 0x20) :
    Pending.ofLead (0xC0 + k) = some ⟨1, 0x80, 0xBF, k, 1⟩ := by
  unfold Pending.ofLead
  rw [if_neg (by omega), if_pos (by omega), Nat.add_sub_cancel_left]

theorem ofLead_three {k n : Nat} (most : k < 0x10) (fits : n < 0x40)
    (overlong : k = 0 → 0x20 ≤ n) (surrogate : k = 0xD → n < 0x20) :
    ∃ low high, Pending.ofLead (0xE0 + k) = some ⟨2, low, high, k, 1⟩ ∧ low ≤ 0x80 + n ∧
      0x80 + n ≤ high := by
  unfold Pending.ofLead
  rw [if_neg (by omega), if_neg (by omega)]
  by_cases zero : k = 0
  · subst zero
    exact ⟨_, _, rfl, Nat.add_le_add_left (overlong rfl) 0x80, by omega⟩
  rw [if_neg (by omega)]
  by_cases last : k = 0xD
  · subst last
    exact ⟨_, _, rfl, by omega, Nat.add_le_add_left (Nat.le_of_lt_succ (surrogate rfl)) 0x80⟩
  · rw [if_neg (by omega), if_pos (by omega), Nat.add_sub_cancel_left]
    exact ⟨_, _, rfl, by omega, by omega⟩

theorem ofLead_four {k n : Nat} (most : k < 5) (fits : n < 0x40)
    (overlong : k = 0 → 0x10 ≤ n) (beyond : k = 4 → n < 0x10) :
    ∃ low high, Pending.ofLead (0xF0 + k) = some ⟨3, low, high, k, 1⟩ ∧ low ≤ 0x80 + n ∧
      0x80 + n ≤ high := by
  unfold Pending.ofLead
  rw [if_neg (by omega), if_neg (by omega), if_neg (by omega), if_neg (by omega), if_neg (by omega)]
  by_cases zero : k = 0
  · subst zero
    exact ⟨_, _, rfl, Nat.add_le_add_left (overlong rfl) 0x80, by omega⟩
  rw [if_neg (by omega)]
  by_cases last : k = 4
  · subst last
    exact ⟨_, _, rfl, by omega, Nat.add_le_add_left (Nat.le_of_lt_succ (beyond rfl)) 0x80⟩
  · rw [if_pos (by omega), Nat.add_sub_cancel_left]
    exact ⟨_, _, rfl, by omega, by omega⟩

theorem take_lead {seen : List Piece} {k : Nat} {p : Pending} (small : k < 256) (large : 0x80 ≤ k)
    (lead : Pending.ofLead k = some p) :
    Reading.take ⟨seen, none⟩ (.ofNat k) = ⟨seen, some p⟩ := by
  simp only [Reading.take, toNat_byte small, Reading.takeLead, if_neg (Nat.not_lt.2 large), lead]

theorem take_more {seen : List Piece} {missing low high bits width k : Nat} (fits : k < 0x40)
    (least : low ≤ 0x80 + k) (most : 0x80 + k ≤ high) :
    Reading.take ⟨seen, some ⟨missing + 2, low, high, bits, width⟩⟩ (.ofNat (0x80 + k)) =
      ⟨seen, some ⟨missing + 1, 0x80, 0xBF, bits * 64 + k, width + 1⟩⟩ := by
  have six : (0x80 + k) % 64 = k := by omega
  simp only [Reading.take]
  rw [toNat_byte (by omega), six, if_pos (by simp [least, most]), if_neg (by omega)]
  rfl

theorem take_last {seen : List Piece} {bits width k : Nat} (fits : k < 0x40) :
    Reading.take ⟨seen, some ⟨1, 0x80, 0xBF, bits, width⟩⟩ (.ofNat (0x80 + k)) =
      ⟨.char (Char.ofNat (bits * 64 + k)) :: seen, none⟩ := by
  have six : (0x80 + k) % 64 = k := by omega
  have most : 0x80 + k ≤ 0xBF := by omega
  simp only [Reading.take]
  rw [toNat_byte (by omega), six, if_pos (by simp [most])]
  rfl

theorem foldl_take_encodeChar (seen : List Piece) (c : Char) :
    (encodeChar c).foldl Reading.take ⟨seen, none⟩ = ⟨.char c :: seen, none⟩ := by
  have valid : c.toNat.isValidChar := c.valid
  unfold Nat.isValidChar at valid
  simp only [encodeChar]
  split
  · rename_i ascii
    simp only [List.foldl_cons, List.foldl_nil, Reading.take]
    rw [toNat_byte (by omega), Reading.takeLead, if_pos ascii, c.ofNat_toNat]
  split
  · have whole : c.toNat / 64 * 64 + c.toNat % 64 = c.toNat := by omega
    simp only [List.foldl_cons, List.foldl_nil]
    rw [take_lead (by omega) (by omega) (ofLead_two (by omega) (by omega)), take_last (by omega),
      whole, c.ofNat_toNat]
  split
  · have whole : (c.toNat / 4096 * 64 + c.toNat / 64 % 64) * 64 + c.toNat % 64 = c.toNat := by omega
    obtain ⟨low, high, lead, least, most⟩ :=
      ofLead_three (k := c.toNat / 4096) (n := c.toNat / 64 % 64) (by omega) (by omega) (by omega)
        (by omega)
    simp only [List.foldl_cons, List.foldl_nil]
    rw [take_lead (by omega) (by omega) lead, take_more (by omega) least most, take_last (by omega),
      whole, c.ofNat_toNat]
  · have whole : ((c.toNat / 262144 * 64 + c.toNat / 4096 % 64) * 64 + c.toNat / 64 % 64) * 64 +
        c.toNat % 64 = c.toNat := by omega
    obtain ⟨low, high, lead, least, most⟩ :=
      ofLead_four (k := c.toNat / 262144) (n := c.toNat / 4096 % 64) (by omega) (by omega)
        (by omega) (by omega)
    simp only [List.foldl_cons, List.foldl_nil]
    rw [take_lead (by omega) (by omega) lead, take_more (by omega) least most,
      take_more (by omega) (by omega) (by omega), take_last (by omega), whole, c.ofNat_toNat]

theorem foldl_take_encodeChars (seen : List Piece) (chars : List Char) :
    (encodeChars chars).foldl Reading.take ⟨seen, none⟩ =
      ⟨(chars.map Piece.char).reverse ++ seen, none⟩ := by
  induction chars generalizing seen with
  | nil => rfl
  | cons c rest ih =>
    rw [encodeChars, List.flatMap_cons, List.foldl_append, foldl_take_encodeChar]
    simpa [encodeChars] using ih (.char c :: seen)

theorem collect_chars (seen chars : List Char) (index : Nat) :
    collect seen index (chars.map Piece.char) = .ok (seen.reverse ++ chars) := by
  induction chars generalizing seen index with
  | nil => simp [collect]
  | cons c rest ih => simp [collect, ih]

theorem decode_encode (text : String) : decode (encode text) = .ok text := by
  have read := foldl_take_encodeChars [] text.toList
  simp only [decode, decodeChars, pieces, encode, Reading.start, read, Reading.finish,
    List.append_nil, List.reverse_reverse, collect_chars, List.reverse_nil, List.nil_append]
  simp [Except.map]

theorem encode_injective {t u : String} (same : encode t = encode u) : t = u := by
  have texts := congrArg decode same
  rw [decode_encode, decode_encode] at texts
  exact Except.ok.inj texts

theorem pieces_encode (text : String) : pieces (encode text) = text.toList.map .char := by
  have read := foldl_take_encodeChars [] text.toList
  simp [pieces, encode, Reading.start, read, Reading.finish]

theorem decodeLossy_encode (text : String) : decodeLossy (encode text) = text := by
  rw [decodeLossy, pieces_encode, List.map_map]
  change String.ofList (text.toList.map id) = text
  rw [List.map_id, String.ofList_toList]

theorem encode_decodeLossy {bytes : Bytes} (clean : '\uFFFD' ∉ (decodeLossy bytes).toList) :
    encode (decodeLossy bytes) = bytes := by
  rw [decodeLossy, String.toList_ofList, List.mem_map] at clean
  have same : ∀ piece ∈ pieces bytes, piece = .char piece.shown := by
    intro piece present
    cases piece with
    | char c => rfl
    | bad | cut => exact absurd ⟨_, present, rfl⟩ clean
  have read : pieces bytes = ((pieces bytes).map Piece.shown).map .char := by
    rw [List.map_map]
    exact (List.map_id _).symm.trans (List.map_congr_left same)
  have spelled := Reading.encodeChars_of_finish Reading.spells_start bytes read
  rw [encode, decodeLossy, String.toList_ofList]
  exact spelled

theorem encodeChars_ascii {chars : List Char} (ascii : ∀ c ∈ chars, c.toNat < 0x80) :
    encodeChars chars = chars.map fun c => .ofNat c.toNat := by
  induction chars with
  | nil => rfl
  | cons c rest ih =>
    have tail := ih fun d present => ascii d (List.mem_cons_of_mem c present)
    rw [encodeChars, List.flatMap_cons, ← encodeChars, tail, encodeChar,
      if_pos (ascii c List.mem_cons_self)]
    rfl

def ofAscii (bytes : Bytes) : String :=
  String.ofList (bytes.map fun b => Char.ofNat b.toNat)

theorem toNat_ofNat_of_ascii {b : UInt8} (ascii : b.toNat < 0x80) :
    (Char.ofNat b.toNat).toNat = b.toNat :=
  toNat_ofNat (by unfold Nat.isValidChar; omega)

theorem encode_ofAscii {bytes : Bytes} (ascii : ∀ b ∈ bytes, b.toNat < 0x80) :
    encode (ofAscii bytes) = bytes := by
  rw [encode, ofAscii, String.toList_ofList, encodeChars_ascii, List.map_map]
  · refine (List.map_congr_left fun b present => ?_).trans (List.map_id bytes)
    simp [toNat_ofNat_of_ascii (ascii b present)]
  · intro c present
    obtain ⟨b, inside, rfl⟩ := List.mem_map.1 present
    rw [toNat_ofNat_of_ascii (ascii b inside)]
    exact ascii b inside

end OncePerKey.Utf8
