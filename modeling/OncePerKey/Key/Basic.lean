import OncePerKey.Text.Quoted

set_option autoImplicit false

namespace OncePerKey

inductive InvalidKey where
  | missing
  | empty
  | tooLong (length max : Nat)
  | invalidCharacter (character : Char) (position : Nat)
  deriving DecidableEq, Repr

def InvalidKey.message : InvalidKey → String
  | .missing => "idempotency key is missing"
  | .empty => "idempotency key is empty"
  | .tooLong length max => s!"idempotency key is {length} characters long, maximum is {max}"
  | .invalidCharacter character position =>
      "idempotency key contains invalid character " ++ Text.quoteChar character
        ++ s!" at position {position}"

-- Only `Key.parse` checks a key. One that was read back is whatever text stands there.
structure Key where
  text : String
  deriving DecidableEq, Repr, Inhabited

def isKeyChar (c : Char) : Bool :=
  ('a' ≤ c && c ≤ 'z') || ('A' ≤ c && c ≤ 'Z') || ('0' ≤ c && c ≤ '9') || c == '-' || c == '_'

def firstInvalid : (position : Nat) → List Char → Option (Nat × Char)
  | _, [] => none
  | position, c :: rest =>
      if isKeyChar c then firstInvalid (position + 1) rest else some (position, c)

theorem firstInvalid_eq_none_iff (position : Nat) (cs : List Char) :
    firstInvalid position cs = none ↔ ∀ c ∈ cs, isKeyChar c = true := by
  induction cs generalizing position with
  | nil => simp [firstInvalid]
  | cons c rest ih => by_cases h : isKeyChar c <;> simp [firstInvalid, h, ih]

-- A text of blanks alone is no key at all; a longer one than `max` is refused before its characters
-- are looked at.
def Key.parse (raw : String) (max : Nat) : Except InvalidKey Key :=
  let cs := raw.toList
  if cs.all Text.isBlank then .error .empty
  else if max < cs.length then .error (.tooLong cs.length max)
  else match firstInvalid 0 cs with
    | some (position, character) => .error (.invalidCharacter character position)
    | none => .ok ⟨raw⟩

end OncePerKey
