import OncePerKey.Json.Schema

set_option autoImplicit false

namespace OncePerKey

structure OrderRequest where
  item : String
  quantity : UInt32
  customerReference : Option String
  deriving DecidableEq

structure FieldProblem where
  field : String
  message : String
  deriving DecidableEq, Repr

namespace OrderRequest

def codec : Json.Codec OrderRequest where
  schema := .record <|
    .cons "item" .text <| .cons "quantity" (.natural UInt32.size) <|
    .cons "customer_reference" (.optional .text) .nil
  toValue r := (r.item, r.quantity.toFin, r.customerReference, ())
  ofValue := fun (item, quantity, customerReference, ()) =>
    { item, quantity := .ofFin quantity, customerReference }
  ofValue_toValue _ := rfl

def problems (r : OrderRequest) : List FieldProblem :=
  (if r.item.toList.all Text.isBlank then [⟨"item", "item cannot be empty"⟩] else [])
    ++ (if r.quantity = 0 then [⟨"quantity", "quantity must be positive"⟩] else [])

end OrderRequest

structure Order where
  id : Uuid
  item : String
  quantity : UInt32
  customerReference : Option String
  createdAt : Timestamp
  deriving DecidableEq

namespace Order

def ofRequest (r : OrderRequest) (id : Uuid) (createdAt : Timestamp) : Order :=
  { id, item := r.item, quantity := r.quantity, customerReference := r.customerReference
    createdAt }

def codec : Json.Codec Order where
  schema := .record <|
    .cons "orderId" .uuid <| .cons "item" .text <| .cons "quantity" (.natural UInt32.size) <|
    .cons "customerReference" (.optional .text) <| .cons "createdAt" .moment .nil
  toValue o := (o.id, o.item, o.quantity.toFin, o.customerReference, o.createdAt, ())
  ofValue := fun (id, item, quantity, customerReference, createdAt, ()) =>
    { id, item, quantity := .ofFin quantity, customerReference, createdAt }
  ofValue_toValue _ := rfl

end Order

end OncePerKey
