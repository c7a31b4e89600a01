import OncePerKey.Json.Schema
import OncePerKey.Key.Composite

set_option autoImplicit false

namespace OncePerKey

def Key.codec : Json.Codec Key where
  schema := .text
  toValue k := k.text
  ofValue := Key.mk
  ofValue_toValue _ := rfl

def CompositeKey.codec : Json.Codec CompositeKey where
  schema := .record <| .cons "method" .text <| .cons "route" .text <| .cons "key" .text .nil
  toValue k := (k.method, k.route, k.key.text, ())
  ofValue := fun (method, route, key, ()) => { method, route, key := ⟨key⟩ }
  ofValue_toValue _ := rfl

end OncePerKey
