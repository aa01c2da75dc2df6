import RecordBinding.Object.World
import RecordBinding.Universe.Hierarchy

namespace RecordBinding

/-- A property as a definition declares it, before it is bound to an implementation. -/
structure DeclaredProperty where
  name : String
  type : TypeExpr
  declaration : Function
  declaringClass : ClassId
  isAttribute : Bool
  metadata : List Scalar
  hint : Function.ReturnHint

/-- The function that reads a member and whether it is read as an attribute. -/
def Member.reader? (member : Member) : Option (Function × Bool) :=
  match member.kind with
  | .property (some getter) => some (getter, true)
  | .method f => if f.takesExactly 0 then some (f, false) else none
  | _ => none

def isPrivateName (name : String) : Bool :=
  name.toList.head? == some '_'

namespace Classes

/-- The members that some classes hold themselves, class by class; those of universal bases do not
count. -/
def membersOf (classes : Classes) (ancestors : List ClassId) : List (ClassId × Member) :=
  (ancestors.filter fun c => !c.isUniversal).flatMap fun c =>
    (classes.ownMembers c).map fun member => (c, member)

/-- The members without those whose name an earlier one has. -/
def firstOfName : List (ClassId × Member) → List (ClassId × Member)
  | [] => []
  | entry :: rest =>
      entry :: (firstOfName rest).filter fun other => other.2.name != entry.2.name

/-- The public members along some ancestors, each name at its first place. -/
def publicMembers (classes : Classes) (ancestors : List ClassId) : List (ClassId × Member) :=
  (firstOfName (classes.membersOf ancestors)).filter fun entry => !isPrivateName entry.2.name

end Classes

namespace Universe

/-- The ancestors of a definition, if it is a class or a built-in container with arguments. -/
def definitionAncestors? (u : Universe) : TypeExpr → Option (List ClassId)
  | .cls c => some (u.classes.ancestors c)
  | .generic (.builtin b) _ => some (u.classes.ancestors (.builtin b))
  | _ => none

/-- The instantiation in which the properties of a definition are resolved: that of the resolved type,
joined by that of the definition when the resolved type does not descend from it. -/
def discoveryInstantiation (u : Universe) (resolved definition : TypeExpr) : Instantiation :=
  let walk := u.instantiation resolved
  match definition with
  | .cls c => if walk.has c then walk else walk.update (u.instantiation definition)
  | _ => walk.update (u.instantiation definition)

/-- The result annotation of a function read in the scope of a class. -/
def returnHint (u : Universe) (f : Function) (c : ClassId) :
    Except Failure Function.ReturnHint :=
  match f.returnHint (u.scopeOf c) with
  | .ok hint => .ok hint
  | .error _ => .error (.misuse .typeError)

/-- The property that a member declares, if it can be read. -/
def declare (u : Universe) (walk : Instantiation) (c : ClassId) (member : Member) :
    Except Failure (Option DeclaredProperty) :=
  match member.reader? with
  | none => .ok none
  | some (f, isAttribute) => do
      let hint ← u.returnHint f c
      let (type, metadata) := (walk.resolve c hint.type).stripAnnotated
      return some
        { name := member.name
          type
          declaration := f
          declaringClass := c
          isAttribute
          metadata
          hint }

/-- The properties that members declare, in order. -/
def declareAll (u : Universe) (walk : Instantiation) :
    List (ClassId × Member) → Except Failure (List DeclaredProperty)
  | [] => .ok []
  | (c, member) :: rest => do
      let first ← u.declare walk c member
      let others ← u.declareAll walk rest
      return first.toList ++ others

/-- The properties of a definition with their types as seen from a resolved type. -/
def discover (u : Universe) (resolved definition : TypeExpr) :
    Except Failure (List DeclaredProperty) :=
  if definition.isKey then
    match u.definitionAncestors? definition with
    | some ancestors =>
        u.declareAll (u.discoveryInstantiation resolved definition)
          (u.classes.publicMembers ancestors)
    | none => .error (.misuse .attributeError)
  else .error (.misuse .typeError)

end Universe

def nameList (names : List String) : String :=
  "[" ++ ", ".intercalate (names.map Text.quote) ++ "]"

namespace Action

/-- Reports an annotation that was kept as text. -/
def reportHint (u : Universe) (f : Function) (c : ClassId)
    (hint : Function.ReturnHint) : Action World Unit :=
  if hint.evaluated then pure ()
  else
    log .debug .properties
      ("Keeping unresolved return annotation " ++ hint.type.text u.module ++ " of " ++
        c.qualname ++ "." ++ f.name)

/-- Discovers the properties of a definition and reports them. -/
def discover (u : Universe) (resolved definition : TypeExpr) :
    Action World (List DeclaredProperty) := do
  let declared ← ofExcept (u.discover resolved definition)
  for property in declared do
    reportHint u property.declaration property.declaringClass property.hint
  log .debug .properties
    ("Discovered " ++ toString declared.length ++ " properties on " ++ resolved.plainText u.module ++
      ": " ++ nameList (declared.map (·.name)))
  return declared

end Action

end RecordBinding
