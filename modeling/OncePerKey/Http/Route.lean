import OncePerKey.Http.Message

set_option autoImplicit false

namespace OncePerKey.Http

inductive Segment where
  | exactly (text : List Char)
  | any
  | rest
  deriving DecidableEq, Repr

structure Pattern where
  text : String
  segments : List Segment
  deriving DecidableEq, Repr

def Segment.ofChars : List Char → Segment
  | ':' :: _ => .any
  | '*' :: _ => .rest
  | cs => .exactly cs

def splitPath (part : List Char) : List Char → List (List Char)
  | [] => [part.reverse]
  | '/' :: rest => part.reverse :: splitPath [] rest
  | c :: rest => splitPath (c :: part) rest

def Pattern.ofText (s : String) : Pattern :=
  { text := s, segments := (splitPath [] s.toList).map Segment.ofChars }

-- Only a segment that is not empty is any segment, and only a rest that is not empty is a rest.
def fits : List Segment → List (List Char) → Bool
  | [], [] => true
  | [.rest], [[]] => false
  | [.rest], _ :: _ => true
  | .exactly text :: segments, part :: parts => text = part && fits segments parts
  | .any :: segments, part :: parts => part ≠ [] && fits segments parts
  | _, _ => false

def Segment.weight : Segment → Nat
  | .exactly _ => 0
  | .any => 1
  | .rest => 2

def precedes : List Segment → List Segment → Bool
  | a :: as, b :: bs => a.weight < b.weight || (a.weight = b.weight && precedes as bs)
  | _, _ => false

structure Route (E : Type) where
  pattern : Pattern
  methods : Option (List String)
  guarded : Bool
  endpoint : E

namespace Route

variable {E : Type}

def best (a : Option (Route E)) (b : Route E) : Option (Route E) :=
  match a with
  | none => some b
  | some a => if precedes b.pattern.segments a.pattern.segments then some b else some a

def find? (routes : List (Route E)) (path : String) : Option (Route E) :=
  let parts := splitPath [] path.toList
  (routes.filter fun r => fits r.pattern.segments parts).foldl best none

-- A route for reading also answers when only the head of the response is wanted.
def answers (r : Route E) (method : String) : Bool :=
  r.methods.all fun ms => method ∈ ms || (method = "HEAD" && "GET" ∈ ms)

def allowed (methods : List String) : String :=
  let order := ["GET", "HEAD", "TRACE", "PUT", "POST", "PATCH", "OPTIONS", "DELETE"]
  ",".intercalate (order.filter fun m => m ∈ methods || (m = "HEAD" && "GET" ∈ methods))

end Route

end OncePerKey.Http
