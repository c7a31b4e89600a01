import OncePerKey.Json.Value
import OncePerKey.Log.Filter
import OncePerKey.Text.Quoted
import OncePerKey.Time.Rfc3339

set_option autoImplicit false

namespace OncePerKey.Log

inductive Format where
  | pretty
  | json
  | compact
  deriving DecidableEq, Repr

def Format.ofText (s : String) : Format :=
  let name := Text.lower s
  if name = "json" then .json else if name = "compact" then .compact else .pretty

def Format.name : Format → String
  | .pretty => "Pretty"
  | .json => "Json"
  | .compact => "Compact"

structure Config where
  level : String := "info"
  format : Format := .pretty
  includeTarget : Bool := true
  includeFile : Bool := false
  includeLine : Bool := false
  deriving DecidableEq

inductive What where
  | event (e : Event)
  | spanClosed
  deriving DecidableEq

structure Entry where
  at_ : Timestamp
  span : Option Span
  what : What
  deriving DecidableEq

inductive Line where
  | json (j : Json)
  | text (s : String)

def levelName : Level → String
  | .trace => "TRACE"
  | .debug => "DEBUG"
  | .info => "INFO"
  | .warn => "WARN"
  | .error => "ERROR"

def paddedLevel (l : Level) : String :=
  let name := levelName l
  String.ofList (List.replicate (5 - name.length) ' ') ++ name

def spanFields (s : Span) : List (String × String) :=
  [("method", s.method), ("route", s.route), ("key", s.key)]

def valueText : FieldValue → String
  | .shown s => s
  | .quoted s => Text.quoteText s
  | .number n => toString n

def valueJson : FieldValue → Json
  | .shown s | .quoted s => .str s
  | .number n => .ofNat n

-- The event that an entry shows. Of the end of a span only machines are told.
def Entry.event? (machine : Bool) (e : Entry) : Option Event :=
  match e.what with
  | .event ev => some ev
  | .spanClosed =>
      if machine then
        some { level := .info, target := Part.handler.target, message := "close", fields := [] }
      else none

def spanJson (s : Span) : Json :=
  .obj ((spanFields s).map (fun (name, value) => (name, Json.str value))
    ++ [("name", .str "idempotency")])

def jsonLine (c : Config) (closed : Bool) (span : Option Span) (ev : Event) : Json :=
  let around : List Json := if closed then [] else (span.map spanJson).toList
  .obj <|
    [("timestamp", .bool true), ("level", .str (levelName ev.level)),
     ("fields", .obj (("message", .str ev.message)
       :: ev.fields.map fun (name, value) => (name, valueJson value)))]
    ++ (if c.includeTarget then [("target", Json.str ev.target)] else [])
    ++ (match span with
      | none => []
      | some s => [("span", spanJson s), ("spans", .arr around)])

def compactLine (c : Config) (at_ : Timestamp) (span : Option Span) (ev : Event) : String :=
  let fields := ev.fields.map fun (name, value) => " " ++ name ++ "=" ++ valueText value
  let around := (span.map spanFields).getD []
  Rfc3339.renderMicros at_ ++ " " ++ paddedLevel ev.level ++ " "
    ++ (if span.isSome then "idempotency: " else "")
    ++ (if c.includeTarget then ev.target ++ ": " else "")
    ++ ev.message ++ String.join fields
    ++ String.join (around.map fun (name, value) => " " ++ name ++ "=" ++ value)

def prettyLines (c : Config) (at_ : Timestamp) (span : Option Span) (ev : Event) : List String :=
  let fields := ev.fields.map fun (name, value) => ", " ++ name ++ ": " ++ valueText value
  let owner := if c.includeTarget then Part.handler.target ++ "::" else ""
  let around := span.map fun s =>
    "    in " ++ owner ++ "idempotency with "
      ++ ", ".intercalate ((spanFields s).map fun (name, value) => name ++ ": " ++ value)
  ["  " ++ Rfc3339.renderMicros at_ ++ " " ++ paddedLevel ev.level ++ " "
    ++ (if c.includeTarget then ev.target ++ ": " else " ")
    ++ ev.message ++ String.join fields]
    ++ around.toList ++ [""]

def Entry.lines (c : Config) (f : Filter) (e : Entry) : List Line :=
  let span := if f.takes Part.handler.target .info then e.span else none
  let closed := e.what = .spanClosed
  if closed && span.isNone then []
  else
    match e.event? (c.format = .json) with
    | none => []
    | some ev =>
        if !f.takes ev.target ev.level then []
        else
          match c.format with
          | .json => [.json (jsonLine c closed span ev)]
          | .compact => ((compactLine c e.at_ span ev).splitOn "\n").map .text
          | .pretty => ((prettyLines c e.at_ span ev).flatMap (·.splitOn "\n")).map .text

def firstEntry (c : Config) (at_ : Timestamp) : Entry :=
  { at_, span := none, what := .event
      { level := .info, target := Part.logging.target
        message := "Logging initialized with level: " ++ c.level, fields := [] } }

def render (c : Config) (f : Filter) (start : Timestamp) (entries : List Entry) : List Line :=
  (firstEntry c start :: entries).flatMap (·.lines c f)

end OncePerKey.Log
