import OncePerKey.Key.Basic
import OncePerKey.Text.LowerCase

set_option autoImplicit false

namespace OncePerKey

structure CompositeKey where
  method : String
  route : String
  key : Key
  deriving DecidableEq, Repr, Inhabited

-- Blanks around the route and then the slashes behind it are taken away, each once.
def normalizeRoute (route : String) : String :=
  let kept := Text.trimEnd (· == '/') (Text.trimBoth Text.isBlank route.toList)
  let lowered := Text.lowerFrom [] [] kept
  match lowered with
  | '/' :: _ => String.ofList lowered
  | _ => String.ofList ('/' :: lowered)

def CompositeKey.build (method route : String) (key : Key) : CompositeKey :=
  { method := Text.asciiUpperText (Text.trim method), route := normalizeRoute route, key }

-- The method and the key hold no colon, so the first and the last colon delimit the route.
def CompositeKey.storageKey (k : CompositeKey) : String :=
  k.method ++ ":" ++ k.route ++ ":" ++ k.key.text

def CompositeKey.shown (k : CompositeKey) : String :=
  k.method ++ " " ++ k.route ++ " [" ++ k.key.text ++ "]"

end OncePerKey
