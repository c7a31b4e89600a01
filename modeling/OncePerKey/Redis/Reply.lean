import OncePerKey.Failure
import OncePerKey.Text.Quoted
import OncePerKey.Text.Utf8

set_option autoImplicit false

namespace OncePerKey.Redis

inductive Reply where
  | nil
  | int (n : Int)
  | data (bytes : Bytes)
  | okay
  | status (text : String)
  | error (line : String)
  deriving DecidableEq, Repr

inductive Fault where
  | unconnected (detail : String)
  | signalled (line : String)
  | unfitting (wanted : String) (reply : Reply)
  | notText
  deriving DecidableEq, Repr

def splitLine (line : String) : String × Option String :=
  let cs := line.toList
  let code := String.ofList (cs.takeWhile (· ≠ ' '))
  match cs.dropWhile (· ≠ ' ') with
  | [] => (code, none)
  | _ :: detail => (code, some (String.ofList detail))

def noScriptCode : String := "NOSCRIPT"

def codeNames : List (String × String) :=
  [("ERR", "ResponseError"), ("EXECABORT", "ExecAbortError"), ("LOADING", "BusyLoadingError"),
   (noScriptCode, "NoScriptError"), ("MOVED", "Moved"), ("ASK", "Ask"), ("TRYAGAIN", "TryAgain"),
   ("CLUSTERDOWN", "ClusterDown"), ("CROSSSLOT", "CrossSlot"), ("MASTERDOWN", "MasterDown"),
   ("READONLY", "ReadOnly"), ("NOTBUSY", "NotBusy")]

def lineMessage (line : String) : String :=
  let signalled := "An error was signalled by the server"
  match splitLine line with
  | (code, detail) =>
      match codeNames.lookup code, detail with
      | some name, some detail => signalled ++ " - " ++ name ++ ": " ++ detail
      | some name, none => signalled ++ "- " ++ name
      | none, detail => code ++ ": " ++ detail.getD "Unknown extension error encountered"

def Reply.shown : Reply → String
  | .nil => "nil"
  | .int n => s!"int({n})"
  | .data bytes =>
      match Utf8.decode bytes with
      | .ok s => "string-data('" ++ Text.quoteText s ++ "')"
      | .error _ =>
          "binary-data([" ++ ", ".intercalate (bytes.map fun b => toString b.toNat) ++ "])"
  | .okay => "ok"
  | .status s => "status(" ++ Text.quoteText s ++ ")"
  | .error line => line

def Fault.message : Fault → String
  | .unconnected detail => detail
  | .signalled line => lineMessage line
  | .unfitting wanted reply =>
      "Response was of incompatible type - TypeError: " ++ Text.quoteText wanted
        ++ " (response was " ++ reply.shown ++ ")"
  | .notText => "Invalid UTF-8- TypeError"

def Fault.toFailure (f : Fault) : Failure :=
  .storeUnavailable (.redis f.message)

def Fault.isNoScript : Fault → Bool
  | .signalled line => (splitLine line).1 = noScriptCode
  | _ => false

namespace Reply

def done? : Reply → Except Fault Unit
  | .error line => .error (.signalled line)
  | _ => .ok ()

def text? : Reply → Except Fault (Option String)
  | .nil => .ok none
  | .data bytes =>
      match Utf8.decode bytes with
      | .ok s => .ok (some s)
      | .error _ => .error .notText
  | .okay => .ok (some "OK")
  | .status s => .ok (some s)
  | .error line => .error (.signalled line)
  | .int n => .error (.unfitting "Response type not string compatible." (.int n))

def digitsValue (cs : List Char) : Option Nat :=
  if cs.isEmpty || !cs.all Char.isDigit then none
  else some (cs.foldl (fun n c => n * 10 + (c.toNat - 48)) 0)

-- A number in decimal digits, with or without a sign, that fits into 64 bits.
def parseInt (s : String) : Option Int := do
  let n : Int ← match s.toList with
    | '-' :: cs => (digitsValue cs).map fun n => -(n : Int)
    | '+' :: cs => (digitsValue cs).map fun n => (n : Int)
    | cs => (digitsValue cs).map fun n => (n : Int)
  if Int64.minValue.toInt ≤ n ∧ n ≤ Int64.maxValue.toInt then some n else none

def parsed? (reply : Reply) (s : String) : Except Fault Int :=
  match parseInt s with
  | some n => .ok n
  | none => .error (.unfitting "Could not convert from string." reply)

def number? : Reply → Except Fault Int
  | .int n => .ok n
  | .data bytes =>
      match Utf8.decode bytes with
      | .ok s => parsed? (.data bytes) s
      | .error _ => .error .notText
  | .status s => parsed? (.status s) s
  | .error line => .error (.signalled line)
  | reply => .error (.unfitting "Response type not convertible to numeric." reply)

end Reply

end OncePerKey.Redis
