import OncePerKey.Json.Reader
import OncePerKey.Json.Writer
import OncePerKey.Time.Rfc3339
import OncePerKey.Uuid

set_option autoImplicit false

namespace OncePerKey.Json

mutual

inductive Schema where
  | text
  | flag
  | natural (bound : Nat)
  | real
  | unit
  | moment
  | uuid
  | choice (names : List String)
  | optional (s : Schema)
  | list (s : Schema)
  | record (fields : Fields)

inductive Fields where
  | nil
  | cons (name : String) (s : Schema) (rest : Fields)

end

mutual

@[reducible] def Schema.Value : Schema → Type
  | .text => String
  | .flag => Bool
  | .natural bound => Fin bound
  | .real => Float
  | .unit => Unit
  | .moment => Timestamp
  | .uuid => Uuid
  | .choice names => Fin names.length
  | .optional s => Option s.Value
  | .list s => List s.Value
  | .record fields => fields.Value

@[reducible] def Fields.Value : Fields → Type
  | .nil => Unit
  | .cons _ s rest => s.Value × rest.Value

end

mutual

def Schema.write : (s : Schema) → s.Value → List Char
  | .text, v => quoteChars escapeChar v.toList
  | .flag, v => literalChars v
  | .natural _, v => Nat.toDigits 10 v.val
  | .real, v => floatChars v
  | .unit, _ => "null".toList
  | .moment, v => quoteChars escapeChar (Rfc3339.render v).toList
  | .uuid, v => quoteChars escapeChar v.chars
  | .choice names, v => quoteChars escapeChar (names[v.val]).toList
  | .optional _, none => "null".toList
  | .optional s, some v => s.write v
  | .list s, vs => '[' :: (commaSeparated (vs.map s.write) ++ [']'])
  | .record fields, v => '\x7b' :: (commaSeparated (fields.write v) ++ ['\x7d'])

def Fields.write : (fields : Fields) → fields.Value → List (List Char)
  | .nil, _ => []
  | .cons name s rest, (v, vs) =>
      (quoteChars escapeChar name.toList ++ ':' :: s.write v) :: rest.write vs

end

-- The fault of a value of the wrong shape. A scalar is read first, so its own fault counts.
def wrongShape (s : List Char) : Fault :=
  let afterScalar {α : Type} (r : Except Fault α) : Fault :=
    match r with
    | .ok _ => .mismatched
    | .error e => e
  match s with
  | [] => .malformed
  | 'n' :: s => afterScalar (word ['u', 'l', 'l'] s)
  | 't' :: s => afterScalar (word ['r', 'u', 'e'] s)
  | 'f' :: s => afterScalar (word ['a', 'l', 's', 'e'] s)
  | '"' :: s => afterScalar (string s)
  | '-' :: s => afterScalar (number true s)
  | c :: rest =>
      if isDigit c then afterScalar (number false (c :: rest))
      else if c = '[' || c = '\x7b' then .mismatched
      else .malformed

def readString (s : List Char) : Except Fault (String × List Char) :=
  match skipSpace s with
  | [] => .error .unfinished
  | '"' :: s => string s
  | s => .error (wrongShape s)

def readNumber (s : List Char) : Except Fault (Number × List Char) :=
  match skipSpace s with
  | [] => .error .unfinished
  | '-' :: s => number true s
  | c :: s => if isDigit c then number false (c :: s) else .error (wrongShape (c :: s))

def readFlag (s : List Char) : Except Fault (Bool × List Char) :=
  match skipSpace s with
  | [] => .error .unfinished
  | 't' :: s => do return (true, ← word ['r', 'u', 'e'] s)
  | 'f' :: s => do return (false, ← word ['a', 'l', 's', 'e'] s)
  | s => .error (wrongShape s)

def readUnit (s : List Char) : Except Fault (Unit × List Char) :=
  match skipSpace s with
  | [] => .error .unfinished
  | 'n' :: s => do return ((), ← word ['u', 'l', 'l'] s)
  | s => .error (wrongShape s)

def readAs {α : Type} (meaning : String → Option α) (s : List Char) :
    Except Fault (α × List Char) := do
  let (text, rest) ← readString s
  match meaning text with
  | some a => return (a, rest)
  | none => throw .mismatched

def readNatural (bound : Nat) (s : List Char) : Except Fault (Fin bound × List Char) := do
  let (n, rest) ← readNumber s
  match n with
  | .whole (.ofNat k) => if h : k < bound then return (⟨k, h⟩, rest) else throw .mismatched
  | _ => throw .mismatched

def indexOf? (names : List String) (name : String) : Option (Fin names.length) :=
  (List.finRange names.length).find? fun i => names[i.val] == name

def readChoice (names : List String) (s : List Char) :
    Except Fault (Fin names.length × List Char) :=
  match skipSpace s with
  | [] => .error .unfinished
  | '\x7b' :: s => do
      let (i, s) ← readAs (indexOf? names) s
      let ((), s) ← readUnit (← colon s)
      match skipSpace s with
      | '\x7d' :: s => return (i, s)
      | [] => throw .unfinished
      | _ => throw .malformed
  | '"' :: s => readAs (indexOf? names) ('"' :: s)
  | _ => .error .malformed

mutual

-- A record under way: the values of the members read so far.
@[reducible] def Fields.Slots : Fields → Type
  | .nil => Unit
  | .cons _ s rest => Option s.Value × rest.Slots

end

def Fields.noSlots : (fields : Fields) → fields.Slots
  | .nil => ()
  | .cons _ _ rest => (none, rest.noSlots)

-- What a member is when the text does not have it: an optional one is none.
def Schema.absent? : (s : Schema) → Option s.Value
  | .optional _ => some none
  | _ => none

def Fields.fill? : (fields : Fields) → fields.Slots → Option fields.Value
  | .nil, _ => some ()
  | .cons _ s rest, (slot, slots) => do
      let v ← slot.orElse fun _ => s.absent?
      let vs ← rest.fill? slots
      return (v, vs)

mutual

def Schema.read : (s : Schema) → List Char → Except Fault (s.Value × List Char)
  | .text, cs => readString cs
  | .flag, cs => readFlag cs
  | .natural bound, cs => readNatural bound cs
  | .real, cs => do
      let (n, rest) ← readNumber cs
      return (n.toFloat, rest)
  | .unit, cs => readUnit cs
  | .moment, cs => readAs Rfc3339.parse? cs
  | .uuid, cs => readAs Uuid.parse? cs
  | .choice names, cs => readChoice names cs
  | .optional s, cs =>
      match skipSpace cs with
      | 'n' :: rest => do return (none, ← word ['u', 'l', 'l'] rest)
      | cs => do
          let (v, rest) ← s.read cs
          return (some v, rest)
  | .list s, cs =>
      match skipSpace cs with
      | [] => .error .unfinished
      | '[' :: rest => itemsFrom s.read (rest.length + 1) true [] rest
      | cs => .error (wrongShape cs)
  | .record fields, cs =>
      match skipSpace cs with
      | [] => .error .unfinished
      | '[' :: rest => fields.readItems true rest
      | '\x7b' :: rest => do
          let member (name : String) (slots : fields.Slots) (s : List Char) :=
            match fields.readMember name slots s with
            | some r => r
            | none => do return (slots, ← skipValue (← colon s))
          let (slots, rest) ← membersFrom member (rest.length + 1) true fields.noSlots rest
          match fields.fill? slots with
          | some v => return (v, rest)
          | none => throw .mismatched
      | cs => .error (wrongShape cs)

def Fields.readMember : (fields : Fields) → (name : String) → fields.Slots → List Char →
    Option (Except Fault (fields.Slots × List Char))
  | .nil, _, _, _ => none
  | .cons field s rest, name, (slot, slots), cs =>
      if field = name then
        some <|
          if slot.isSome then .error .mismatched
          else do
            let (v, cs) ← s.read (← colon cs)
            return ((some v, slots), cs)
      else
        (rest.readMember name slots cs).map fun r => do
          let (slots, cs) ← r
          return ((slot, slots), cs)

-- Reads a record written as the array of all its values.
def Fields.readItems : (fields : Fields) → (first : Bool) → List Char →
    Except Fault (fields.Value × List Char)
  | .nil, _, cs =>
      match skipSpace cs with
      | ']' :: rest => .ok ((), rest)
      | [] => .error .unfinished
      | _ => .error .malformed
  | .cons _ s rest, first, cs =>
      match skipSpace cs with
      | [] => .error .unfinished
      | ']' :: _ => .error .mismatched
      | cs => do
          let (v, cs) ← s.read (← nextItem ']' first cs)
          let (vs, cs) ← rest.readItems false cs
          return ((v, vs), cs)

end

structure Codec (α : Type) where
  schema : Schema
  toValue : α → schema.Value
  ofValue : schema.Value → α
  ofValue_toValue : ∀ a, ofValue (toValue a) = a

def Codec.render {α : Type} (c : Codec α) (a : α) : String :=
  String.ofList (c.schema.write (c.toValue a))

def Codec.optional {α : Type} (c : Codec α) : Codec (Option α) where
  schema := .optional c.schema
  toValue := Option.map c.toValue
  ofValue := Option.map c.ofValue
  ofValue_toValue a := by cases a <;> simp [c.ofValue_toValue]

def Codec.list {α : Type} (c : Codec α) : Codec (List α) where
  schema := .list c.schema
  toValue := List.map c.toValue
  ofValue := List.map c.ofValue
  ofValue_toValue a := by simp [List.map_map, Function.comp_def, c.ofValue_toValue]

def Codec.parse {α : Type} (c : Codec α) (s : String) : Except Fault α := do
  let (v, rest) ← c.schema.read s.toList
  atEnd rest
  return c.ofValue v

end OncePerKey.Json
