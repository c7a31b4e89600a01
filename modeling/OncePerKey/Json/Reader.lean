import OncePerKey.Json.Scanner

set_option autoImplicit false

namespace OncePerKey.Json

def nextItem (close : Char) (first : Bool) (s : List Char) : Except Fault (List Char) :=
  if first then .ok s
  else match s with
    | ',' :: rest =>
        match skipSpace rest with
        | [] => .error .unfinished
        | c :: rest => if c = close then .error .malformed else .ok (c :: rest)
    | _ => .error .malformed

-- Reads the rest of an array. `seen` holds its items so far, last first.
def itemsFrom {α : Type} (item : List Char → Except Fault (α × List Char)) :
    (fuel : Nat) → (first : Bool) → (seen : List α) → List Char → Except Fault (List α × List Char)
  | 0, _, _, _ => .error .unfinished
  | fuel + 1, first, seen, s =>
      match skipSpace s with
      | [] => .error .unfinished
      | ']' :: rest => .ok (seen.reverse, rest)
      | s => do
          let (a, rest) ← item (← nextItem ']' first s)
          itemsFrom item fuel false (a :: seen) rest

def colon (s : List Char) : Except Fault (List Char) :=
  match skipSpace s with
  | ':' :: rest => .ok rest
  | [] => .error .unfinished
  | _ => .error .malformed

def membersFrom {σ : Type} (member : String → σ → List Char → Except Fault (σ × List Char)) :
    (fuel : Nat) → (first : Bool) → σ → List Char → Except Fault (σ × List Char)
  | 0, _, _, _ => .error .unfinished
  | fuel + 1, first, gathered, s =>
      match skipSpace s with
      | [] => .error .unfinished
      | '\x7d' :: rest => .ok (gathered, rest)
      | s => do
          match ← nextItem '\x7d' first s with
          | '"' :: rest =>
              let (name, rest) ← string rest
              let (gathered, rest) ← member name gathered rest
              membersFrom member fuel false gathered rest
          | _ => .error .malformed

def putMember (name : String) (value : Json) : List (String × Json) → List (String × Json)
  | [] => [(name, value)]
  | (other, v) :: rest =>
      if other = name then (name, value) :: rest else (other, v) :: putMember name value rest

def ofNumber : Number → Json
  | .whole n => .int n
  | .real x => .float x

-- Reads any value in which brackets are nested at most `room` deep.
def value : (room : Nat) → List Char → Except Fault (Json × List Char)
  | room, s =>
      match skipSpace s with
      | [] => .error .unfinished
      | 'n' :: s => do return (.null, ← word ['u', 'l', 'l'] s)
      | 't' :: s => do return (.bool true, ← word ['r', 'u', 'e'] s)
      | 'f' :: s => do return (.bool false, ← word ['a', 'l', 's', 'e'] s)
      | '"' :: s => (string s).map fun (text, rest) => (.str text, rest)
      | '-' :: s => (number true s).map fun (n, rest) => (ofNumber n, rest)
      | '[' :: s =>
          match room with
          | 0 => .error .malformed
          | room + 1 =>
              (itemsFrom (value room) (s.length + 1) true [] s).map fun (items, rest) =>
                (.arr items, rest)
      | '\x7b' :: s =>
          match room with
          | 0 => .error .malformed
          | room + 1 =>
              let member (name : String) (seen : List (String × Json)) (s : List Char) := do
                let (v, rest) ← value room (← colon s)
                return (putMember name v seen, rest)
              (membersFrom member (s.length + 1) true [] s).map fun (members, rest) =>
                (.obj members, rest)
      | c :: s =>
          if isDigit c then (number false (c :: s)).map fun (n, rest) => (ofNumber n, rest)
          else .error .malformed

def atEnd (s : List Char) : Except Fault Unit :=
  if (skipSpace s).isEmpty then .ok () else .error .malformed

def maxDepth : Nat := 127

def parse (s : String) : Except Fault Json := do
  let (j, rest) ← value maxDepth s.toList
  atEnd rest
  return j

end OncePerKey.Json
