import OncePerKey.Orders

set_option autoImplicit false

namespace OncePerKey

structure ErrorBody where
  code : String
  message : String
  details : Option (List FieldProblem) := none

structure Envelope (α : Type) where
  success : Bool
  data : Option α
  error : Option ErrorBody

def FieldProblem.codec : Json.Codec FieldProblem where
  schema := .record <| .cons "field" .text <| .cons "message" .text .nil
  toValue p := (p.field, p.message, ())
  ofValue := fun (field, message, ()) => { field, message }
  ofValue_toValue _ := rfl

def ErrorBody.codec : Json.Codec ErrorBody where
  schema := .record <|
    .cons "code" .text <| .cons "message" .text <|
    .cons "details" (.optional (.list FieldProblem.codec.schema)) .nil
  toValue e := (e.code, e.message, FieldProblem.codec.list.optional.toValue e.details, ())
  ofValue := fun (code, message, details, ()) =>
    { code, message, details := FieldProblem.codec.list.optional.ofValue details }
  ofValue_toValue e := by simp [FieldProblem.codec.list.optional.ofValue_toValue]

namespace Envelope

def succeeded {α : Type} (data : α) : Envelope α :=
  { success := true, data := some data, error := none }

def failed (error : ErrorBody) : Envelope Unit :=
  { success := false, data := none, error := some error }

def codec {α : Type} (c : Json.Codec α) : Json.Codec (Envelope α) where
  schema := .record <|
    .cons "success" .flag <| .cons "data" (.optional c.schema) <|
    .cons "error" (.optional ErrorBody.codec.schema) .nil
  toValue e := (e.success, c.optional.toValue e.data, ErrorBody.codec.optional.toValue e.error, ())
  ofValue := fun (success, data, error, ()) =>
    { success, data := c.optional.ofValue data, error := ErrorBody.codec.optional.ofValue error }
  ofValue_toValue e := by
    simp [c.optional.ofValue_toValue, ErrorBody.codec.optional.ofValue_toValue]

def unitCodec : Json.Codec Unit where
  schema := .unit
  toValue _ := ()
  ofValue _ := ()
  ofValue_toValue _ := rfl

end Envelope

end OncePerKey
