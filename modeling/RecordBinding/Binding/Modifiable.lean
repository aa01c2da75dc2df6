import RecordBinding.Binding.Shape
import RecordBinding.Text.LetterCase

namespace RecordBinding

/-- The name of the setter of a property: its name with a capital letter, after `set`. -/
def setterName (name : String) : String :=
  "set" ++ String.ofList (match name.toList with
    | [] => []
    | c :: rest => Text.upperChar c ++ rest)

/-- The name of the probe of a property. -/
def probeName (name : String) : String :=
  name ++ "IsSet"

namespace Universe

/-- The annotation of the argument of a setter, if there is one that can be evaluated. -/
def argumentHint? (u : Universe) (f : Function) (c : ClassId) :
    Except Failure (Option TypeExpr) :=
  match f.argumentHint? (u.scopeOf c) with
  | .ok hint => .ok hint
  | .error _ => .error (.misuse .typeError)

/-- How an implementation tells whether a property is set; nothing when it does not tell. -/
def findProbe (u : Universe) (implementation : TypeExpr) (property : String) :
    Except Failure (Option (Value → Action World Value)) :=
  let probe := probeName property
  let bad := Except.error (shapeError implementation fun name => .badProbe name probe)
  match u.staticMember? implementation probe with
  | none => .ok none
  | some member =>
      match member.kind with
      | .property _ => .ok (some (Action.readProperty u probe true))
      | .method f =>
          if f.takesExactly 0 then .ok (some fun target => Action.callFunction u f [target])
          else bad
      | _ => bad

end Universe

namespace Action

/-- Asks that the annotation of a setter's argument, where there is one, admits the type of the
property. -/
def checkArgument (u : Universe) (implementation : TypeExpr) (property : DeclaredProperty)
    (f : Function) (c : ClassId) : Action World Unit := do
  match ← ofExcept (u.argumentHint? f c) with
  | some accepted =>
      if u.admits property.type accepted then return ()
      else throw (shapeError implementation fun name =>
        .setterAccepts name (setterName property.name) accepted property.name property.type)
  | none => return ()

/-- The setter of a property on an implementation: a method of one argument that accepts the property's
type and returns the implementation, as far as its annotations say. -/
def findSetter (u : Universe) (implementation : TypeExpr) (property : DeclaredProperty) :
    Action World Function := do
  let setter := setterName property.name
  let c := implementation.class?.getD .object
  match (u.staticMember? implementation setter).map Member.kind with
  | some (.method f) =>
      if f.takesExactly 1 then
        checkArgument u implementation property f c
        let returned ← returnHint u f c
        if u.admits implementation returned then return f
        else throw (shapeError implementation fun name => .setterReturns name setter returned)
      else throw (shapeError implementation fun name => .noSetter name setter)
  | _ => throw (shapeError implementation fun name => .noSetter name setter)

/-- Binds a resolved type to an implementation that is changed in place. -/
def bindModifiable (u : Universe) (resolved definition implementation : TypeExpr)
    (create : Option Attribute) : Action World (Binding World) := do
  let factory ← chooseFactory u create implementation "create"
  let declared ← discover u resolved definition
  let accessors ← declared.mapM fun property => do
    let setter ← findSetter u implementation property
    let probe ← ofExcept (u.findProbe implementation property.name)
    return { name := property.name
             type := property.type
             owner := resolved
             metadata := property.metadata
             getter := readProperty u property.name property.isAttribute
             setter := fun target value => do discard <| callFunction u setter [target, value]
             probe
             truth := truthOf u : Accessor World }
  let serial ← completeBinding u .modifiable resolved accessors
  return { serial
           variant := .modifiable
           type := resolved
           definition
           implementation
           builderClass := none
           accessors
           start := factory.call u []
           finish := none }

end Action

end RecordBinding
