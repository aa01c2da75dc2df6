import RecordBinding.Object.World
/-!
Calls and attribute access. Bodies are data and call nothing themselves, so a call ends after one
step; it leaves its label in the trace once its arguments have found their parameters.
-/

namespace RecordBinding

namespace Universe

/-- The classes that an overload is written for. -/
def overloadClasses (u : Universe) (source : TypeSource) : List ClassId :=
  match source.evaluate u.scope with
  | .ok (.union _ members) => members.filterMap TypeExpr.class?
  | .ok .none => [.noneType]
  | .ok (.cls c) => [c]
  | _ => []

/-- The function that an overloaded member has for a class itself: the last one written for it, and
the base function for the root class when none is. -/
def overloadFor? (u : Universe) (base : Function) (cases : List (TypeSource × Function))
    (c : ClassId) : Option Function :=
  match cases.reverse.find? fun entry => (u.overloadClasses entry.1).contains c with
  | some entry => some entry.2
  | none => if c = .object then some base else none

/-- The function that an overloaded member runs for values of a class: that of its first ancestor for
which there is one. -/
def dispatch (u : Universe) (base : Function) (cases : List (TypeSource × Function)) (c : ClassId) :
    Function :=
  ((u.classes.ancestors c).findSome? (u.overloadFor? base cases)).getD base

/-- The state that a new instance of a class starts with: that of its ancestors, the root first. -/
def initialFields (u : Universe) (c : ClassId) : Fields :=
  (u.classes.ancestors c).reverse.foldl (fun fields ancestor =>
    match u.classes.find? ancestor with
    | some info => fields.setAll info.initial
    | none => fields) []

/-- The class that the module or the language gives a name to. -/
def classNamed? (u : Universe) (name : String) : Option ClassId :=
  match u.scope.resolve? name with
  | some (.cls c) => some c
  | some .none => some .noneType
  | _ => none

end Universe

namespace Action

/-- What a call without arguments of a built-in class returns. -/
def emptyOf : Builtin → Value
  | .object => .opaqueObject "object" "<object object>"
  | .int => .scalar (.int 0)
  | .str => .str ""
  | .float => .scalar (.float 0.0)
  | .bool => .bool false
  | .bytes => .bytes []
  | .list => .list []
  | .dict => .map []
  | .tuple => .opaqueObject "tuple" "()"
  | .set => .opaqueObject "set" "set()"
  | .frozenset => .opaqueObject "frozenset" "frozenset()"
  | .complex => .opaqueObject "complex" "0j"
  | .noneType => .null

/-- A new instance of a class. Contracts have none, and neither have the classes of the type system. -/
def instantiate (u : Universe) (c : ClassId) : Action World Value :=
  match c with
  | .builtin b => return emptyOf b
  | .abc => return .opaqueObject "ABC" "<abc.ABC object>"
  | .declared name =>
      match u.classes.find? c with
      | some info =>
          if info.isContract then throw (.misuse .typeError)
          else allocate name (u.initialFields c)
      | none => throw (.misuse .typeError)
  | _ => throw (.misuse .typeError)

/-- Calls a type without arguments. -/
def callType (u : Universe) : TypeExpr → Action World Value
  | .cls c => instantiate u c
  | .generic c _ => instantiate u c
  | .annotated inner _ => callType u inner
  | _ => throw (.misuse .typeError)

def runBody (u : Universe) (body : Body) (args : List Value) : Action World Value := do
  let receiver := args.headD .null
  match body with
  | .nothing => return .null
  | .get key fallback =>
      let fields ← fieldsOf receiver
      match fields.get? key, fallback with
      | some value, _ => return value
      | none, some value => return value
      | none, none => throw (.raised .keyError key)
  | .isSet key => return .bool ((← fieldsOf receiver).has key)
  | .set key =>
      setField receiver key (args.tail.headD .null)
      return receiver
  | .create name =>
      match u.classNamed? name with
      | some c => instantiate u c
      | none => throw (.misuse (.other "NameError"))
  | .createFirst =>
      match receiver with
      | .type t => callType u t
      | _ => throw (.misuse .typeError)
  | .first => return receiver
  | .build name needed =>
      let fields ← fieldsOf receiver
      match needed.find? fun key => !fields.has key with
      | some key => throw (.raised .valueError ("missing " ++ key))
      | none =>
          match u.classNamed? name with
          | some c =>
              let built ← instantiate u c
              for entry in fields do
                setField built entry.1 entry.2
              return built
          | none => throw (.misuse (.other "NameError"))
  | .give value => return value
  | .fail kind message => throw (.raised kind message)

def callFunction (u : Universe) (f : Function) (args : List Value) : Action World Value := do
  if f.parameters.binds args.length then
    called f.label
    runBody u f.body args
  else throw (.misuse .typeError)

end Action

/-- What access to an attribute yields: a function with the arguments that it already holds, an
overloaded member likewise, a property that was not read, or a value. -/
inductive Attribute where
  | function (f : Function) (held : List Value)
  | overloaded (base : Function) (cases : List (TypeSource × Function)) (held : List Value)
  | property
  | value (v : Value)

namespace Attribute

def toValue : Attribute → Value
  | function f (receiver :: _) => .method f.label receiver
  | function f [] => .function f.label
  | overloaded base _ _ => .function base.label
  | property => .opaqueObject "property" "<property object>"
  | value v => v

/-- Calls what an attribute yields. An overloaded member needs an argument to choose by. -/
def call (u : Universe) (target : Attribute) (args : List Value) : Action World Value := do
  match target with
  | function f held => Action.callFunction u f (held ++ args)
  | overloaded base cases held =>
      match args with
      | [] => throw (.misuse .indexError)
      | first :: _ =>
          Action.callFunction u (u.dispatch base cases (u.classOf first)) (held ++ args)
  | property => throw (.misuse .typeError)
  | value (.type t) => if args.isEmpty then Action.callType u t else throw (.misuse .typeError)
  | value _ => throw (.misuse .typeError)

def ofClass (c : ClassId) (member : Member) : Attribute :=
  match member.kind with
  | .method f => function f []
  | .staticMethod f => function f []
  | .classMethod f => function f [.type (.cls c)]
  | .staticValue v => value v
  | .property _ => property
  | .overload base cases => overloaded base cases []
  | .attribute v => value v

/-- A member as an attribute of an instance: methods hold the instance, properties are read. -/
def ofInstance (u : Universe) (c : ClassId) (self : Value) (member : Member) :
    Action World Attribute := do
  match member.kind with
  | .method f => return function f [self]
  | .property (some getter) => return value (← Action.callFunction u getter [self])
  | .property none => throw (.misuse .attributeError)
  | .overload base cases => return overloaded base cases [self]
  | _ => return ofClass c member

end Attribute

/-- The class whose members a type gives access to. -/
def TypeExpr.memberClass? : TypeExpr → Option ClassId
  | cls c => some c
  | generic c _ => some c
  | annotated inner _ => inner.memberClass?
  | _ => Option.none

def Action.getAttribute (u : Universe) (target : Value) (name : String) : Action World Attribute := do
  match target with
  | .object className _ =>
      let c : ClassId := .declared className
      match u.classes.member? c name with
      | some (_, member) => Attribute.ofInstance u c target member
      | none => throw (.misuse .attributeError)
  | .type t =>
      match t.memberClass?.bind fun c => (u.classes.member? c name).map fun found => (c, found.2) with
      | some (c, member) => return Attribute.ofClass c member
      | none => throw (.misuse .attributeError)
  | _ => throw (.misuse .attributeError)

def Value.integer? : Value → Option Int
  | scalar (.int i) => some i
  | scalar (.bool b) => some (if b then 1 else 0)
  | _ => none

namespace Action

/-- The answer of an instance under a name that its class gives a meaning to, if the class has such a
member. -/
def askInstance? (u : Universe) (className : String) (self : Value) (name : String) :
    Option (Action World Value) :=
  (u.classes.member? (.declared className) name).map fun found => do
    let held ← Attribute.ofInstance u (.declared className) self found.2
    held.call u []

/-- A value as an integer. An instance is none, but may give one as its index. -/
def indexOf (u : Universe) (v : Value) : Action World Int := do
  let given ← match v with
    | .object className _ => (askInstance? u className v "__index__").getD (pure v)
    | v => pure v
  match given.integer? with
  | some i => return i
  | none => throw (.misuse .typeError)

/-- The lengths that an instance may have are below this bound. -/
def lengthBound : Int := .ofNat (Nat.pow 2 63)

/-- Whether a value counts as true. An instance may tell so itself, with a truth value, or by its length;
one that does neither counts as true. -/
def truthOf (u : Universe) (v : Value) : Action World Bool := do
  match v with
  | .object className _ =>
      match askInstance? u className v "__bool__", askInstance? u className v "__len__" with
      | some answer, _ =>
          match ← answer with
          | .scalar (.bool b) => return b
          | _ => throw (.misuse .typeError)
      | none, some answer =>
          let length ← indexOf u (← answer)
          if length < 0 then throw (.misuse .valueError)
          else if lengthBound ≤ length then throw (.misuse (.other "OverflowError"))
          else return length != 0
      | none, none => return true
  | v => return v.truth

end Action

end RecordBinding
