import RecordBinding.Binding.Accessor

namespace RecordBinding

/-- How the values of a binding come about. -/
inductive Variant where
  | immutable
  | modifiable
  deriving DecidableEq, Repr

namespace Variant

def name : Variant → String
  | immutable => "immutable"
  | modifiable => "modifiable"

def bindingName : Variant → String
  | immutable => "ImmutableBinding"
  | modifiable => "ModifiableBinding"

end Variant

/-- A binding of a resolved type. `start` makes the target of a construction; `finish` turns the target
into the value, and is missing when the target is the value. Bindings are told apart by `serial`. -/
structure Binding (σ : Type) where
  serial : Nat
  variant : Variant
  type : TypeExpr
  definition : TypeExpr
  implementation : TypeExpr
  builderClass : Option ClassId
  accessors : List (Accessor σ)
  start : Action σ Value
  finish : Option (Value → Action σ Value)

namespace Binding

variable {σ : Type}

def names (b : Binding σ) : List String :=
  b.accessors.map (·.name)

def has (b : Binding σ) (name : String) : Bool :=
  b.names.contains name

def accessor (b : Binding σ) (name : String) : Except Failure (Accessor σ) :=
  match b.accessors.find? fun a => a.name == name with
  | some a => .ok a
  | none => .error (.construction ⟨.unknownProperty, .set, b.type, some name⟩)

/-- The values of all properties of an instance; those not set are absent. -/
def read (b : Binding σ) (target : Value) : Action σ (List (String × Value)) :=
  b.accessors.mapM fun a => do return (a.name, ← a.get target)

def text (module : String) (b : Binding σ) : String :=
  b.variant.bindingName ++ "(" ++ b.type.text module ++ ", properties=[" ++
    ", ".intercalate (b.names.map Text.quote) ++ "])"

end Binding

end RecordBinding
