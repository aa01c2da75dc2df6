import RecordBinding.Declaration.Module
import RecordBinding.TypeExpr.Erasure
import RecordBinding.TypeExpr.Substitution
import RecordBinding.Universe.BuiltinMembers
import RecordBinding.Universe.Linearization
import RecordBinding.Universe.Surroundings

namespace RecordBinding

/-- A class of the universe. `typeParameters` are those it declares; `parameters` are those that an
instance of it is applied to. -/
structure ClassInfo where
  name : String
  kind : ClassKind
  typeParameters : List TypeVar
  parameters : List TypeVar
  listedBases : List TypeExpr
  bases : List ClassId
  ancestors : List ClassId
  members : List Member
  abstractNames : List String
  initial : List (String × Value)

namespace ClassInfo

def id (info : ClassInfo) : ClassId := .declared info.name

/-- Whether a class is a protocol, or has members left abstract. -/
def isContract (info : ClassInfo) : Bool :=
  info.kind = .protocol || !info.abstractNames.isEmpty

end ClassInfo

/-- The classes of a universe, newest first. -/
abbrev Classes := List ClassInfo

namespace Classes

def find? (classes : Classes) (c : ClassId) : Option ClassInfo :=
  List.find? (fun info => info.id = c) classes

def parameters (classes : Classes) (c : ClassId) : List TypeVar :=
  ((classes.find? c).map ClassInfo.parameters).getD []

/-- The ancestors of a class in order, itself first and the root last. -/
def ancestors (classes : Classes) (c : ClassId) : List ClassId :=
  match c with
  | .declared _ => ((classes.find? c).map ClassInfo.ancestors).getD [c]
  | .builtin .object => [.object]
  | .builtin .bool => [c, .builtin .int, .object]
  | .protocol => [c, .generic, .object]
  | _ => [c, .object]

/-- The direct bases of a class, without their arguments. -/
def directBases (classes : Classes) (c : ClassId) : List ClassId :=
  match c with
  | .declared _ => ((classes.find? c).map ClassInfo.bases).getD []
  | .builtin .object => []
  | .builtin .bool => [.builtin .int]
  | .protocol => [.generic]
  | _ => [.object]

def ownMembers (classes : Classes) (c : ClassId) : List Member :=
  match classes.find? c with
  | some info => info.members
  | none => c.builtinMembers

/-- The member under a name in the dictionary of a class. -/
def ownMember? (classes : Classes) (c : ClassId) (name : String) : Option Member :=
  (classes.ownMembers c).find? fun member => member.name == name

/-- The first ancestor that holds a member under a name, with the member. -/
def memberAlong? (classes : Classes) (name : String) : List ClassId → Option (ClassId × Member)
  | [] => none
  | c :: rest =>
      match classes.ownMember? c name with
      | some member => some (c, member)
      | none => classes.memberAlong? name rest

/-- The member that a class has or inherits under a name. -/
def member? (classes : Classes) (c : ClassId) (name : String) : Option (ClassId × Member) :=
  classes.memberAlong? name (classes.ancestors c)

/-- Whether a class descends from another or is that class. -/
def inherits (classes : Classes) (c ancestor : ClassId) : Bool :=
  (classes.ancestors c).contains ancestor

def isProtocol (classes : Classes) (c : ClassId) : Bool :=
  match c with
  | .protocol => true
  | c => ((classes.find? c).map fun info => decide (info.kind = .protocol)).getD false

end Classes

/-- Members with the earlier of two of one name replaced in its place by the later one. -/
def mergeMembers (members : List Member) : List Member :=
  members.foldl (fun kept member =>
    if kept.any fun other => other.name == member.name then
      kept.map fun other => if other.name == member.name then member else other
    else kept ++ [member]) []

namespace ClassDeclaration

/-- The classes that a kind adds behind the listed bases. -/
def kindBases : ClassKind → List ClassId
  | .concrete => []
  | .protocol => [.protocol]
  | .abstract => [.abc]

/-- The class that a listed base instantiates. -/
def baseClass? : TypeExpr → Option ClassId
  | .cls c => some c
  | .generic origin _ => some origin
  | _ => none

/-- Whether a listed base is a declared class with arguments. -/
def isDeclaredApplication : TypeExpr → Bool
  | .generic (.declared _) _ => true
  | _ => false

/-- The bases of a class without their arguments. A class with parameters of its own is generic; that
is listed unless a base says so already. -/
def allBases (kind : ClassKind) (hasParameters : Bool) (listed : List TypeExpr) : List ClassId :=
  let stated := listed.filterMap baseClass? ++ kindBases kind
  let bases :=
    if hasParameters && !stated.contains .protocol && !listed.any isDeclaredApplication then
      stated ++ [.generic]
    else stated
  if bases.isEmpty then [.object] else bases

def withoutRepetition (vars : List TypeVar) : List TypeVar :=
  vars.foldl (fun kept v => if kept.any v.same then kept else kept ++ [v]) []

/-- Adds a class to the classes declared before it. -/
def declare (names : String → Option TypeExpr) (classes : Classes) (d : ClassDeclaration) :
    Classes :=
  let outer : Scope :=
    { lookup := names
      arity := fun c => (classes.find? c).map fun info => info.parameters.length
      keepsMissing := false }
  let unbounded := d.parameters.map fun p => (p.name, TypeExpr.typeVar ⟨some d.name, p.name, .object⟩)
  let typeParameters := d.parameters.map fun p =>
    let bound :=
      match p.bound with
      | some source =>
          match source.evaluate (outer.extend unbounded) with
          | .ok t => t.erase
          | .error _ => .object
      | none => .object
    (⟨some d.name, p.name, bound⟩ : TypeVar)
  let scope := outer.extend (typeParameters.map fun v => (v.name, .typeVar v))
  let listed := d.bases.filterMap fun source => (source.evaluate scope).toOption
  let bases := allBases d.kind (!d.parameters.isEmpty) listed
  let ancestors :=
    .declared d.name ::
      Linearization.merge (bases.map (Classes.ancestors classes) ++ [bases])
  let parameters :=
    if !typeParameters.isEmpty then typeParameters
    else if ancestors.contains .generic then
      withoutRepetition (TypeExpr.parametersOfAll listed)
    else []
  let members := mergeMembers d.members
  let hasMember := fun name => members.find? fun member => member.name == name
  let inherited := (bases.flatMap fun b =>
    ((classes.find? b).map ClassInfo.abstractNames).getD []).filter fun name =>
      match hasMember name with
      | some member => member.isAbstract
      | none =>
          match classes.memberAlong? name ancestors.tail with
          | some (_, member) => member.isAbstract
          | none => false
  let declared := (members.filter Member.isAbstract).map Member.name
  let abstractNames :=
    if ancestors.contains .abc || ancestors.contains .protocol then declared ++ inherited else []
  { name := d.name
    kind := d.kind
    typeParameters
    parameters
    listedBases := listed
    bases
    ancestors
    members
    abstractNames
    initial := d.initial } :: classes

end ClassDeclaration

structure Universe where
  module : String
  classes : Classes
  names : List (String × TypeExpr)
  functions : List Function
  values : List (String × Value)
  surroundings : Surroundings := {}

namespace ModuleDeclaration

/-- The meaning of a declared name. Declarations may refer to one another in any order; `fuel` bounds
the length of a chain of references. -/
def typeNamed? (m : ModuleDeclaration) : Nat → String → Option TypeExpr
  | 0, _ => none
  | fuel + 1, n =>
      if m.classes.any fun d => d.name == n then some (.cls (.declared n))
      else
        let scope : Scope :=
          { lookup := m.typeNamed? fuel, arity := fun _ => none, keepsMissing := false }
        match m.types.find? fun d => d.name == n with
        | some (.typeVar name bound) =>
            let erased :=
              match bound.map fun source => source.evaluate scope with
              | some (.ok t) => t.erase
              | _ => .object
            some (.typeVar ⟨none, name, erased⟩)
        | some (.newtype name base) =>
            (base.evaluate scope).toOption.map fun t => .newtype name t
        | some (.alias name target) =>
            (target.evaluate scope).toOption.map fun t => .alias name t
        | none => none

def typeNames (m : ModuleDeclaration) : List (String × TypeExpr) :=
  let names := m.classes.map (·.name) ++ m.types.map TypeDeclaration.name
  names.filterMap fun n => (m.typeNamed? (m.types.length + 1) n).map fun t => (n, t)

/-- The universe of a module: its classes are declared one after the other. -/
def toUniverse (m : ModuleDeclaration) : Universe :=
  let names := m.typeNames
  { module := m.name
    classes := m.classes.foldl (ClassDeclaration.declare fun n => names.lookup n) []
    names
    functions := m.functions
    values := m.values
    surroundings := .ofLanguage m.name }

end ModuleDeclaration

namespace Universe

/-- The meaning of a name of the module: a type, or a function or value where a type is expected. -/
def name? (u : Universe) (n : String) : Option TypeExpr :=
  match u.names.lookup n with
  | some t => some t
  | none =>
      match u.functions.find? fun f => f.name == n with
      | some f => some (.datum (.function f.name))
      | none => (u.values.lookup n).map Value.toType

def scope (u : Universe) : Scope :=
  { lookup := u.name?
    arity := fun c => (u.classes.find? c).map fun info => info.parameters.length
    keepsMissing := false }

/-- The scope in which the annotations of a class are read: its type parameters, its own name, then
the names of the module. -/
def scopeOf (u : Universe) (c : ClassId) : Scope :=
  let params := ((u.classes.find? c).map ClassInfo.typeParameters).getD []
  u.scope.extend (params.map (fun v => (v.name, .typeVar v)) ++ [(c.qualname, .cls c)])

/-- Whether a type is a class that describes others without being complete: a protocol, or a class
with members left abstract. -/
def isContract (u : Universe) : TypeExpr → Bool
  | .cls .protocol => true
  | .cls c => ((u.classes.find? c).map ClassInfo.isContract).getD false
  | _ => false

/-- Whether values of the first class are values of the second. -/
def inherits (u : Universe) (c ancestor : ClassId) : Bool :=
  u.classes.inherits c ancestor

end Universe

end RecordBinding
