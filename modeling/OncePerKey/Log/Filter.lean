import OncePerKey.Observe.Event
import OncePerKey.Text.LowerCase

set_option autoImplicit false

namespace OncePerKey

def Level.verbosity : Level → Nat
  | .error => 1
  | .warn => 2
  | .info => 3
  | .debug => 4
  | .trace => 5

namespace Log

structure Directive where
  target : Option String
  limit : Nat
  deriving DecidableEq, Repr

def digits? (cs : List Char) : Option Nat :=
  let cs := if cs.head? = some '+' then cs.tail else cs
  if cs.isEmpty || !cs.all Char.isDigit then none
  else some (cs.foldl (fun n c => n * 10 + (c.toNat - 48)) 0)

def limit? (cs : List Char) : Option Nat :=
  match digits? cs with
  | some n => if n ≤ Level.trace.verbosity then some n else none
  | none =>
      [("off", 0), ("error", 1), ("warn", 2), ("info", 3), ("debug", 4), ("trace", 5)].lookup
        (Text.asciiLowerText (String.ofList cs))

def startsTarget (c : Char) : Bool :=
  c.isAlphanum || c == '-' || c == ':' || c == '_' || 0x80 ≤ c.toNat

-- Blanks around a directive do not count in the place of the sign, but belong to what stands before or
-- behind it.
def Directive.parse? (s : String) : Option Directive :=
  let cs := s.toList
  let trimmed := Text.trimBoth Text.isBlank cs
  if !(trimmed.head?.any startsTarget) then none
  else
    match trimmed.idxOf? '=' with
    | none =>
        match limit? cs with
        | some limit => some ⟨none, limit⟩
        | none => some ⟨some s, Level.trace.verbosity⟩
    | some i =>
        let target := some (String.ofList (cs.take i))
        match cs.drop (i + 1) with
        | [] => some ⟨target, Level.trace.verbosity⟩
        | level => (limit? level).map fun limit => ⟨target, limit⟩

def parts (s : String) : List String :=
  ((s.splitOn ",").filter (· ≠ ""))

abbrev Filter := List Directive

namespace Filter

-- Reads a filter, leaving out what is no directive. Without directives, errors are taken.
def ofText (s : String) : Filter :=
  match (parts s).filterMap Directive.parse? with
  | [] => [⟨none, Level.error.verbosity⟩]
  | f => f

def ofText? (s : String) : Option Filter :=
  (parts s).mapM Directive.parse?

def choose (environment : Option String) (level : String) : Filter :=
  (environment.bind ofText?).getD (ofText level)

def specificity (d : Directive) : Nat :=
  match d.target with
  | none => 0
  | some t => t.utf8ByteSize + 1

-- Of two directives the more specific one, the later of two that are alike.
def moreSpecific (best : Option Directive) (d : Directive) : Option Directive :=
  match best with
  | none => some d
  | some b => if specificity d < specificity b then some b else some d

def takes (f : Filter) (target : String) (level : Level) : Bool :=
  let about := f.filter fun d => d.target.all fun t => t.toList.isPrefixOf target.toList
  match about.foldl moreSpecific none with
  | some d => level.verbosity ≤ d.limit
  | none => false

end Filter

end Log

end OncePerKey
