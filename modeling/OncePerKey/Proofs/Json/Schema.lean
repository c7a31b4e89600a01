import OncePerKey.Json.Schema
import OncePerKey.Proofs.Json.Scanner
import OncePerKey.Proofs.Time.Rfc3339

set_option autoImplicit false

namespace OncePerKey.Json

def Schema.IsScalar : Schema → Prop
  | .text | .moment => True
  | .natural bound => bound ≤ wordLimit
  | _ => False

def Schema.IsMember : Schema → Prop
  | .optional s => s.IsScalar
  | s => s.IsScalar

def Fields.names : Fields → List String
  | .nil => []
  | .cons name _ rest => name :: rest.names

def Fields.AreFlat : Fields → Prop
  | .nil => True
  | .cons name s rest => s.IsMember ∧ name ∉ rest.names ∧ rest.AreFlat

@[induction_eliminator]
theorem Fields.induction {motive : Fields → Prop} (nil : motive .nil)
    (cons : ∀ name s rest, motive rest → motive (.cons name s rest)) : ∀ fields, motive fields
  | .nil => nil
  | .cons name s rest => cons name s rest (Fields.induction nil cons rest)

mutual

def Schema.civil : (s : Schema) → s.Value → s.Value
  | .moment, t => Timestamp.civil t
  | .optional s, v => Option.map s.civil v
  | .list s, vs => List.map s.civil vs
  | .record fields, v => fields.civil v
  | .text, v | .flag, v | .natural _, v | .real, v | .unit, v | .uuid, v | .choice _, v => v

def Fields.civil : (fields : Fields) → fields.Value → fields.Value
  | .nil, v => v
  | .cons _ s rest, (v, vs) => (s.civil v, rest.civil vs)

end

theorem bind_of_ok {ε α β : Type} {x : Except ε α} {a : α} {f : α → Except ε β} (same : x = .ok a) :
    (x >>= f) = f a := by
  rw [same]
  rfl

section

variable {cs rest : List Char} {s : Schema}

def IsSharp (cs : List Char) : Prop :=
  ∃ c more, cs = c :: more ∧ isSpace c = false ∧ c ≠ 'n'

theorem IsSharp.skipSpace (sharp : IsSharp cs) : skipSpace (cs ++ rest) = cs ++ rest := by
  obtain ⟨c, more, rfl, visible, -⟩ := sharp
  simp [Json.skipSpace, visible]

theorem isSharp_quote (text : List Char) : IsSharp (quoteChars escapeChar text) :=
  ⟨'"', _, rfl, by decide, by decide⟩

theorem isSharp_digits (digits : Text.Digits cs) : IsSharp cs := by
  obtain ⟨c, more, rfl⟩ := List.exists_cons_of_ne_nil digits.some
  have digit : 48 ≤ c.toNat ∧ c.toNat ≤ 57 :=
    Char.isDigit_iff_toNat.1 (digits.all c List.mem_cons_self)
  refine ⟨c, more, rfl, ?_, ?_⟩
  · simp only [isSpace, Bool.or_eq_false_iff, beq_eq_false_iff_ne]
    refine ⟨⟨⟨?_, ?_⟩, ?_⟩, ?_⟩ <;> (rintro rfl; revert digit; decide)
  · rintro rfl
    revert digit
    decide

theorem isSharp_write (scalar : s.IsScalar) (v : s.Value) : IsSharp (s.write v) := by
  cases s with
  | text | moment => exact isSharp_quote _
  | natural => exact isSharp_digits (Text.digits_toDigits _)
  | _ => exact scalar.elim

theorem readString_quote (text : String) (rest : List Char) :
    readString (quoteChars escapeChar text.toList ++ rest) = .ok (text, rest) := by
  unfold readString
  rw [(isSharp_quote _).skipSpace]
  simp [quoteChars, string_quoted]

theorem read_write_scalar (scalar : s.IsScalar) (v : s.Value) (ends : EndsNumber rest) :
    s.read (s.write v ++ rest) = .ok (s.civil v, rest) := by
  cases s with
  | text => exact readString_quote v rest
  | moment =>
    refine (bind_of_ok (readString_quote _ rest)).trans ?_
    simp only [Rfc3339.parse?_render]
    rfl
  | natural bound =>
    have fits : v.val < wordLimit := Nat.lt_of_lt_of_le v.isLt scalar
    have digits := Text.digits_toDigits v.val
    have number : readNumber (Nat.toDigits 10 v.val ++ rest) = .ok (.whole v.val, rest) := by
      unfold readNumber
      rw [(isSharp_digits digits).skipSpace]
      split
      · rename_i empty
        simp at empty
      · rename_i sign
        exact absurd (digits.first sign) (by decide)
      · rename_i c more _ same
        rw [isDigit_eq, digits.first same, if_pos rfl, ← same]
        exact number_toDigits fits ends
    refine (bind_of_ok number).trans ?_
    simp [v.isLt]
    rfl
  | _ => exact scalar.elim

theorem read_write_member (member : s.IsMember) (v : s.Value) (ends : EndsNumber rest) :
    s.read (s.write v ++ rest) = .ok (s.civil v, rest) := by
  cases s with
  | optional s =>
    cases v with
    | none => rfl
    | some v =>
      have sharp := isSharp_write member v
      have read := read_write_scalar member v ends
      simp only [Schema.read, Schema.write]
      rw [sharp.skipSpace]
      split
      · rename_i same
        obtain ⟨c, more, first, -, other⟩ := sharp
        rw [first] at same
        exact absurd (List.cons.inj same).1 other
      · exact (bind_of_ok read)
  | _ =>
    refine read_write_scalar ?_ v ends
    exact member

end

def Fields.members : (fields : Fields) → fields.Value → List (String × List Char)
  | .nil, _ => []
  | .cons name s rest, (v, vs) => (name, s.write v) :: rest.members vs

def written (member : String × List Char) : List Char :=
  quoteChars escapeChar member.1.toList ++ ':' :: member.2

theorem Fields.write_eq (fields : Fields) (v : fields.Value) :
    fields.write v = (fields.members v).map written := by
  induction fields with
  | nil => rfl
  | cons name s rest ih =>
    obtain ⟨v, vs⟩ := v
    simp [Fields.write, Fields.members, written, ih]

def Fields.slots : (fields : Fields) → fields.Value → fields.Slots
  | .nil, _ => ()
  | .cons _ _ rest, (v, vs) => (some v, rest.slots vs)

theorem Fields.fill?_slots (fields : Fields) (v : fields.Value) :
    fields.fill? (fields.slots v) = some v := by
  induction fields with
  | nil => rfl
  | cons name s rest ih =>
    obtain ⟨v, vs⟩ := v
    simp [Fields.fill?, Fields.slots, ih]

-- Reading the members one after the other leads from some slots to others.
inductive Fields.Reads (fields : Fields) :
    fields.Slots → List (String × List Char) → fields.Slots → Prop where
  | nil (slots : fields.Slots) : fields.Reads slots [] slots
  | cons {before now after : fields.Slots} {name : String} {text : List Char}
      {more : List (String × List Char)}
      (first : ∀ rest, EndsNumber rest →
        fields.readMember name before (':' :: (text ++ rest)) = some (.ok (now, rest)))
      (others : fields.Reads now more after) : fields.Reads before ((name, text) :: more) after

theorem Fields.Reads.cons_field {fields : Fields} {before after : fields.Slots}
    {members : List (String × List Char)} (reads : fields.Reads before members after) {name : String}
    {s : Schema} (slot : Option s.Value) (other : ∀ member ∈ members, name ≠ member.1) :
    (Fields.cons name s fields).Reads (slot, before) members (slot, after) := by
  induction reads with
  | nil => exact .nil _
  | cons first others ih =>
    have differ := other _ List.mem_cons_self
    have later := ih fun member present => other member (List.mem_cons_of_mem _ present)
    refine .cons (fun rest ends => ?_) later
    simp only [Fields.readMember, if_neg differ, first rest ends, Option.map_some]
    rfl

theorem Fields.fst_mem_names {fields : Fields} {v : fields.Value} {member : String × List Char}
    (present : member ∈ fields.members v) : member.1 ∈ fields.names := by
  induction fields with
  | nil => exact nomatch present
  | cons name s rest ih =>
    obtain ⟨v, vs⟩ := v
    rcases List.mem_cons.1 present with rfl | later
    · exact List.mem_cons_self
    · exact List.mem_cons_of_mem _ (ih later)

theorem Fields.reads (fields : Fields) (flat : fields.AreFlat) (v : fields.Value) :
    fields.Reads fields.noSlots (fields.members v) (fields.slots (fields.civil v)) := by
  induction fields with
  | nil => exact .nil _
  | cons name s rest ih =>
    obtain ⟨v, vs⟩ := v
    obtain ⟨member, fresh, flat⟩ := flat
    have others : ∀ other ∈ rest.members vs, name ≠ other.1 := by
      rintro other present rfl
      exact fresh (Fields.fst_mem_names present)
    refine .cons (fun more ends => ?_) ((ih flat vs).cons_field (some (s.civil v)) others)
    simp only [Fields.readMember, if_true]
    refine congrArg some ((bind_of_ok (a := s.write v ++ more) rfl).trans ?_)
    exact bind_of_ok (read_write_member member v ends)

section

variable {σ : Type} {member : String → σ → List Char → Except Fault (σ × List Char)} {before now : σ}
  {name : String} {text more : List Char}

theorem written_append (name : String) (text more : List Char) : written (name, text) ++ more =
    '"' :: (name.toList.flatMap escapeChar ++ '"' :: (':' :: (text ++ more))) := by
  simp [written, quoteChars]

theorem membersFrom_first (read : member name before (':' :: (text ++ more)) = .ok (now, more))
    (fuel : Nat) : membersFrom member (fuel + 1) true before (written (name, text) ++ more) =
      membersFrom member fuel false now more := by
  rw [written_append, membersFrom]
  exact (bind_of_ok rfl).trans ((bind_of_ok (string_quoted name)).trans (bind_of_ok read))

theorem membersFrom_next (read : member name before (':' :: (text ++ more)) = .ok (now, more))
    (fuel : Nat) : membersFrom member (fuel + 1) false before (',' :: (written (name, text) ++ more)) =
      membersFrom member fuel false now more := by
  rw [written_append, membersFrom]
  exact (bind_of_ok rfl).trans ((bind_of_ok (string_quoted name)).trans (bind_of_ok read))

theorem endsNumber_close (rest : List Char) : EndsNumber ('\x7d' :: rest) := by
  intro c present
  cases present
  decide

theorem endsNumber_comma (rest : List Char) : EndsNumber (',' :: rest) := by
  intro c present
  cases present
  decide

theorem endsNumber_more (members : List (String × List Char)) (rest : List Char) :
    EndsNumber ((members.map written).flatMap (',' :: ·) ++ '\x7d' :: rest) := by
  cases members with
  | nil => exact endsNumber_close rest
  | cons member members => exact endsNumber_comma _

end

section

variable {fields : Fields}
  {member : String → fields.Slots → List Char → Except Fault (fields.Slots × List Char)}
  {before after : fields.Slots} {members : List (String × List Char)}
  (agrees : ∀ name slots cs r, fields.readMember name slots cs = some r → member name slots cs = r)

include agrees

theorem membersFrom_more (reads : fields.Reads before members after) {fuel : Nat}
    (enough : members.length < fuel) (rest : List Char) :
    membersFrom member fuel false before
      ((members.map written).flatMap (',' :: ·) ++ '\x7d' :: rest) = .ok (after, rest) := by
  induction reads generalizing fuel with
  | nil slots =>
    obtain ⟨fuel, rfl⟩ := Nat.exists_eq_succ_of_ne_zero (Nat.ne_of_gt enough)
    rfl
  | @cons before now after name text more first others ih =>
    obtain ⟨fuel, rfl⟩ := Nat.exists_eq_succ_of_ne_zero (Nat.ne_zero_of_lt enough)
    have read := agrees _ _ _ _ (first _ (endsNumber_more more rest))
    rw [List.map_cons, List.flatMap_cons, List.append_assoc]
    refine (membersFrom_next read fuel).trans (ih ?_)
    simpa using enough

theorem membersFrom_reads (reads : fields.Reads before members after) {fuel : Nat}
    (enough : members.length < fuel) (rest : List Char) :
    membersFrom member fuel true before
      (commaSeparated (members.map written) ++ '\x7d' :: rest) = .ok (after, rest) := by
  obtain ⟨fuel, rfl⟩ := Nat.exists_eq_succ_of_ne_zero (Nat.ne_zero_of_lt enough)
  cases reads with
  | nil => rfl
  | @cons _ now _ name text more first others =>
    have read := agrees _ _ _ _ (first _ (endsNumber_more more rest))
    rw [List.map_cons, commaSeparated, List.append_assoc]
    refine (membersFrom_first read fuel).trans (membersFrom_more agrees others ?_ rest)
    simpa using enough

end

theorem length_le_commas (pieces : List (List Char)) :
    pieces.length ≤ (pieces.flatMap (',' :: ·)).length := by
  induction pieces with
  | nil => exact Nat.le_refl _
  | cons piece rest ih =>
    simp only [List.flatMap_cons, List.length_append, List.length_cons]
    omega

theorem length_le_commaSeparated (pieces : List (List Char)) :
    pieces.length ≤ (commaSeparated pieces).length + 1 := by
  cases pieces with
  | nil => exact Nat.zero_le _
  | cons piece rest =>
    have more := length_le_commas rest
    simp only [commaSeparated, List.length_append, List.length_cons]
    omega

theorem read_write_record {fields : Fields} (flat : fields.AreFlat) (v : fields.Value)
    (rest : List Char) :
    (Schema.record fields).read ((Schema.record fields).write v ++ rest) =
      .ok (fields.civil v, rest) := by
  have reads := fields.reads flat v
  have text : (Schema.record fields).write v ++ rest =
      '\x7b' :: (commaSeparated ((fields.members v).map written) ++ '\x7d' :: rest) := by
    simp [Schema.write, Fields.write_eq]
  have enough := length_le_commaSeparated ((fields.members v).map written)
  rw [List.length_map] at enough
  rw [text, Schema.read]
  refine (bind_of_ok (membersFrom_reads (fun name slots cs r found => ?_) reads ?_ rest)).trans ?_
  · simp only [found]
  · simp only [List.length_append, List.length_cons]
    omega
  · simp only [Fields.fill?_slots]
    rfl

theorem Codec.parse_render {α : Type} {c : Codec α} {fields : Fields} (shape : c.schema = .record fields)
    (flat : fields.AreFlat) (a : α) :
    c.parse (c.render a) = .ok (c.ofValue (c.schema.civil (c.toValue a))) := by
  obtain ⟨schema, toValue, ofValue, inverse⟩ := c
  cases shape
  have read := read_write_record flat (toValue a) []
  rw [List.append_nil] at read
  simp only [Codec.parse, Codec.render, String.toList_ofList]
  exact (bind_of_ok read).trans rfl

end OncePerKey.Json
