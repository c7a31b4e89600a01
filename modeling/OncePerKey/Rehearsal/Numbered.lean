import OncePerKey.Json.Value
import OncePerKey.Uuid

set_option autoImplicit false

namespace OncePerKey.Rehearsal

abbrev Seen := List String

def uuidWidth : Nat := 36

def uuidAt? (cs : List Char) : Option String :=
  let written := cs.take uuidWidth
  if written[8]? ≠ some '-' || !written[19]?.any (· ∈ ['8', '9', 'a', 'b']) then none
  else
    match Uuid.parseChars written with
    | some u => if u.version = 4 && u.chars = written then some (String.ofList written) else none
    | none => none

def Seen.mark (seen : Seen) (uuid : String) : String × Seen :=
  let seen := if uuid ∈ seen then seen else seen ++ [uuid]
  (s!"<uuid-{seen.idxOf uuid + 1}>", seen)

def numberChars (out : List Char) (skip : Nat) (seen : Seen) : List Char → String × Seen
  | [] => (String.ofList out.reverse, seen)
  | c :: rest =>
      if 0 < skip then numberChars out (skip - 1) seen rest
      else
        match uuidAt? (c :: rest) with
        | none => numberChars (c :: out) 0 seen rest
        | some uuid =>
            let (mark, seen) := seen.mark uuid
            numberChars (mark.toList.reverse ++ out) (uuidWidth - 1) seen rest

def numberUuids (seen : Seen) : Json → Json × Seen
  | .str s =>
      let (text, seen) := numberChars [] 0 seen s.toList
      (.str text, seen)
  | .arr items =>
      let (items, seen) := numberItems seen items
      (.arr items, seen)
  | .obj members =>
      let (members, seen) := numberMembers seen members
      (.obj members, seen)
  | j => (j, seen)
where
  numberItems (seen : Seen) : List Json → List Json × Seen
    | [] => ([], seen)
    | j :: rest =>
        let (j, seen) := numberUuids seen j
        let (rest, seen) := numberItems seen rest
        (j :: rest, seen)
  numberMembers (seen : Seen) : List (String × Json) → List (String × Json) × Seen
    | [] => ([], seen)
    | (name, j) :: rest =>
        let (j, seen) := numberUuids seen j
        let (rest, seen) := numberMembers seen rest
        ((name, j) :: rest, seen)

end OncePerKey.Rehearsal
