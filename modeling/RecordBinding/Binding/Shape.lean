import RecordBinding.Binding.Basic
import RecordBinding.Object.Call
import RecordBinding.Property.Discovery

namespace RecordBinding

/-- A shape error about a class, which is given by its name; a type without a name cannot be reported
on. -/
def shapeError (implementation : TypeExpr) (error : String → ShapeError) : Failure :=
  match implementation.qualname? with
  | some name => .shape (error name)
  | none => .misuse .attributeError

namespace Universe

/-- The member that a type has as a class; a null attribute counts as none. -/
def staticMember? (u : Universe) (t : TypeExpr) (name : String) : Option Member :=
  match t.class?.bind fun c => u.classes.member? c name with
  | some (_, member) =>
      match member.kind with
      | .attribute v => if v.isNull then none else some member
      | _ => some member
  | none => none

/-- Whether a class member that is a class method takes no further arguments. Its first parameter
receives the class, also one that collects arguments. -/
def boundTakesNothing (parameters : Signature) : Bool :=
  match parameters with
  | [] => false
  | first :: rest =>
      if first.isPositional then Signature.takesExactly rest 0 true
      else first.kind = .rest && Signature.takesExactly (first :: rest) 0 true

/-- Whether the signature of a class is empty when its bases say nothing else. The constructor that a protocol
gives to the classes below it collects arguments, and not every built-in class shows a signature. -/
def startsEmpty : ClassId → Bool
  | .builtin .object => true
  | .builtin .float => true
  | .builtin .complex => true
  | .builtin .list => true
  | .builtin .tuple => true
  | .builtin _ => false
  | .any => false
  | .protocol => false
  | .ofValues _ _ => false
  | _ => true

/-- Whether the signature of a class tells that it can be called without arguments. -/
def callsEmpty (u : Universe) (c : ClassId) : Bool :=
  c = .protocol || (u.classes.ancestors c).all startsEmpty

/-- The factory that an implementation has under a name: a static or class method without arguments. A
static method may also stand for a class. -/
def findFactory (u : Universe) (implementation : TypeExpr) (name : String) :
    Except Failure Attribute :=
  let missing := Except.error (shapeError implementation fun impl => .noFactory impl name)
  let withArguments :=
    Except.error (shapeError implementation fun impl => .factoryTakesArguments impl name)
  match u.staticMember? implementation name with
  | some member =>
      match member.kind with
      | .staticMethod f =>
          if f.parameters.takesExactly 0 true then .ok (.function f []) else withArguments
      | .classMethod f =>
          if boundTakesNothing f.parameters then .ok (.function f [.type implementation])
          else withArguments
      | .staticValue (.type (.cls c)) =>
          if u.callsEmpty c then .ok (.value (.type (.cls c))) else withArguments
      | .staticValue _ => withArguments
      | _ => missing
  | none => missing

/-- Whether what is supplied fits an annotation. Annotations left as text fit, and so does a protocol,
which cannot be checked. -/
def admits (u : Universe) (supplied hint : TypeExpr) : Bool :=
  if supplied.isUnresolved || hint.isUnresolved then true
  else
    let actual := supplied.erase
    let expected := hint.erase
    if actual = expected then true
    else if expected ≠ .protocol && u.classes.isProtocol expected then true
    else u.inherits actual expected

end Universe

namespace Action

/-- The result annotation of a function in the scope of a class, reported when it is left as text. -/
def returnHint (u : Universe) (f : Function) (c : ClassId) : Action World TypeExpr := do
  let hint ← ofExcept (u.returnHint f c)
  reportHint u f c hint
  return hint.type

/-- Reads a property of a value: as an attribute, or by calling what the attribute yields. -/
def readProperty (u : Universe) (name : String) (isAttribute : Bool) (target : Value) :
    Action World Value := do
  let found ← getAttribute u target name
  if isAttribute then return found.toValue else found.call u []

/-- The factory that is given unless it counts as false, else the one that the implementation has. -/
def chooseFactory (u : Universe) (given : Option Attribute) (implementation : TypeExpr)
    (name : String) : Action World Attribute :=
  match given with
  | some (.value v) => if v.truth then return .value v else ofExcept (u.findFactory implementation name)
  | some factory => return factory
  | none => ofExcept (u.findFactory implementation name)

/-- A number for a new binding, with the report that the binding is built. -/
def completeBinding (u : Universe) (variant : Variant) (resolved : TypeExpr)
    (accessors : List (Accessor World)) : Action World Nat := do
  let names := (accessors.map (·.name)).mergeSort fun a b => decide (a ≤ b)
  log .debug .bindings
    ("Built " ++ variant.name ++ " binding for " ++ resolved.plainText u.module ++
      " with properties " ++ nameList names)
  let w ← get
  set { w with bindingsBuilt := w.bindingsBuilt + 1 }
  return w.bindingsBuilt

end Action

end RecordBinding
