import RecordBinding.Binding.Shape

namespace RecordBinding

namespace Universe

/-- How a builder writes one property. An overloaded setter with a function for the class of the
property is that function; another overloaded one chooses by the value written. -/
def builderSetter (u : Universe) (builder : ClassId) (definition : TypeExpr)
    (declared : DeclaredProperty) : Except Failure (Value → Value → Action World Unit) :=
  let missing := Except.error
    (shapeError definition fun name => .noBuilderSetter builder.qualname declared.name name)
  match u.staticMember? (.cls builder) declared.name with
  | some member =>
      match member.kind with
      | .overload base cases =>
          let captured? :=
            if declared.type.isUnresolved then none
            else u.overloadFor? base cases declared.type.erase
          match captured? with
          | some f => .ok fun target value => do discard <| Action.callFunction u f [target, value]
          | none => .ok fun target value => do
              let found ← Action.getAttribute u target declared.name
              discard <| found.call u [value]
      | .method f =>
          if f.takesExactly 1 then
            .ok fun target value => do discard <| Action.callFunction u f [target, value]
          else missing
      | _ => missing
  | none => missing

end Universe

namespace Action

/-- The method of a builder's class that ends a construction. -/
def findBuild (u : Universe) (builder : ClassId) (implementation : TypeExpr) :
    Action World Function := do
  match (u.staticMember? (.cls builder) "build").map Member.kind with
  | some (.method f) =>
      if f.takesExactly 0 then
        let produced ← returnHint u f builder
        if u.admits implementation produced then return f
        else throw (shapeError implementation fun name => .wrongBuild builder.qualname produced name)
      else throw (.shape (.noBuild builder.qualname))
  | _ => throw (.shape (.noBuild builder.qualname))

/-- The class of the builders that a factory makes. -/
def builderClass (u : Universe) (factory : Attribute) (implementation : TypeExpr) :
    Action World ClassId := do
  match ← attempt (factory.call u []) with
  | .ok builder => return u.classOf builder
  | .error failure =>
      if failure.kind.isStructural then
        throw (shapeError implementation fun name => .builderFactoryFailed name failure.kind)
      else throw failure

/-- Binds a resolved type to an implementation that is made by a builder. -/
def bindImmutable (u : Universe) (resolved definition implementation : TypeExpr)
    (builder : Option Attribute) : Action World (Binding World) := do
  let factory ← chooseFactory u builder implementation "builder"
  let builderId ← builderClass u factory implementation
  let build ← findBuild u builderId implementation
  let declared ← discover u resolved definition
  let accessors ← declared.mapM fun property => do
    let setter ← ofExcept (u.builderSetter builderId definition property)
    return { name := property.name
             type := property.type
             owner := resolved
             metadata := property.metadata
             getter := readProperty u property.name property.isAttribute
             setter
             probe := none
             truth := truthOf u : Accessor World }
  let serial ← completeBinding u .immutable resolved accessors
  return { serial
           variant := .immutable
           type := resolved
           definition
           implementation
           builderClass := some builderId
           accessors
           start := factory.call u []
           finish := some fun target => callFunction u build [target] }

end Action

end RecordBinding
