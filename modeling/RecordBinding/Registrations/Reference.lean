import RecordBinding.Object.Call
import RecordBinding.Registrations.Document
import RecordBinding.Registry.Basic

namespace RecordBinding

namespace Universe

/-- What the module holds under a name. -/
def attribute? (u : Universe) (name : String) : Option Attribute :=
  match u.names.lookup name with
  | some t => some (.value (.type t))
  | none =>
      match u.functions.find? fun f => f.name == name with
      | some f => some (.function f [])
      | none => (u.values.lookup name).map .value

/-- What a module holds under a name. -/
def global (u : Universe) (module name : String) : Except Failure Attribute :=
  match if module = u.module then u.attribute? name else none with
  | some object => .ok object
  | none => (u.surroundings.global module name).map .value

/-- The attribute of an object under a name. What the surroundings say of it comes before the members of its
class. -/
def attributeOf (u : Universe) (object : Attribute) (name : String) : Action World Attribute :=
  match u.surroundings.attribute? object.toValue.toType name with
  | some found => Action.ofExcept (found.map .value)
  | none =>
      match object with
      | .value v => Action.getAttribute u v name
      | _ => throw (.misuse .attributeError)

/-- The object at the end of a path of attributes in a module. -/
def objectAt (u : Universe) (module : String) : List String → Action World Attribute
  | [] => throw (.misuse .attributeError)
  | first :: rest => do
      let object ← Action.ofExcept (u.global module first)
      rest.foldlM u.attributeOf object

/-- Asks that there is a module of a name. A name that starts with a dot is relative to another module, of
which nothing is said. -/
def requireModule (u : Universe) (name : String) : Except Failure Unit :=
  if name.isEmpty then .error (.misuse .valueError)
  else if name.toList.head? = some '.' then .error (.misuse .typeError)
  else if name = u.module || u.surroundings.isModule name then .ok ()
  else .error (.configuration (.noSuchModule name))

/-- A failure on the way along a reference: an attribute that is missing is a fault of the reference. -/
def unresolved (reference : String) (failure : Failure) : Failure :=
  if failure.kind.isAttribute then .configuration (.unresolvedReference reference) else failure

/-- The object that a reference names. Reading its path may run properties of instances. -/
def importReference (u : Universe) (reference : String) : Action World Attribute := do
  let (module, path) := (splitReference? reference.toList).getD (reference.toList, [])
  Action.ofExcept (u.requireModule (String.ofList module))
  (u.objectAt (String.ofList module) ((path.splitOn '.').map String.ofList)).adapt (unresolved reference)

/-- The object that a reference names, if one is given. -/
def importOptional (u : Universe) : Option String → Action World (Option Attribute)
  | some reference => some <$> u.importReference reference
  | none => return none

/-- The request that a registration of a document makes. References are imported from left to right. -/
def importEntry (u : Universe) (entry : RegistrationEntry) : Action World RegistrationRequest := do
  let definition ← u.importReference entry.definition
  let immutable ← u.importReference entry.immutable
  let modifiable ← u.importOptional entry.modifiable
  let builder ← u.importOptional entry.builder
  let create ← u.importOptional entry.create
  return { definition := definition.toValue.toType
           immutable := immutable.toValue.toType
           modifiable := (modifiable.map fun object => object.toValue.toType).getD .none
           builder
           create }

end Universe

end RecordBinding
