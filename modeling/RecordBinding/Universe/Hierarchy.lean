import RecordBinding.Universe.Basic
/-!
What the type parameters stand for along a class hierarchy. Walking from a resolved type to its bases,
every class is entered with the substitution that its arguments make of its parameters; the first path
that reaches a class decides.
-/

namespace RecordBinding

/-- The classes of a hierarchy in visiting order, each with what its parameters stand for. -/
abbrev Instantiation := List (ClassId × Substitution)

namespace Instantiation

def has (walk : Instantiation) (c : ClassId) : Bool :=
  walk.any fun entry => entry.1 = c

/-- What the parameters of a class stand for; nothing when the class was not visited. -/
def entry (walk : Instantiation) (c : ClassId) : Substitution :=
  ((walk.find? fun entry => entry.1 = c).map (·.2)).getD []

/-- Adds a class that has not been visited. -/
def visitLeaf (walk : Instantiation) (c : ClassId) (s : Substitution) : Instantiation :=
  if Instantiation.has walk c then walk else walk ++ [(c, s)]

/-- Replaces entries by those of another instantiation and adds the rest of them at the end. -/
def update (walk other : Instantiation) : Instantiation :=
  walk.map (fun entry =>
    match other.find? fun new => new.1 = entry.1 with
    | some new => new
    | none => entry) ++ other.filter fun new => !walk.has new.1

end Instantiation

namespace Classes

def baseArguments : TypeExpr → List TypeExpr
  | .generic _ args => args
  | _ => []

/-- The class of a listed base, unless it is a universal base. -/
def visitedBase? (base : TypeExpr) : Option ClassId :=
  match ClassDeclaration.baseClass? base with
  | some c => if c.isUniversal then none else some c
  | none => none

/-- Visits a class and its bases, depth first. The bases of a class are looked for among the classes
declared before it, which are the ones after it in the list. -/
def visit : Classes → ClassId → Substitution → Instantiation → Instantiation
  | [], c, s, walk =>
      match c with
      | .builtin .bool =>
          if walk.has c then walk else (walk.visitLeaf c s).visitLeaf (.builtin .int) []
      | _ => walk.visitLeaf c s
  | info :: earlier, c, s, walk =>
      if info.id = c then
        if walk.has c then walk
        else
          info.listedBases.foldl (fun reached base =>
            match visitedBase? base with
            | some b =>
                let args := (baseArguments base).map (TypeExpr.substitute s)
                visit earlier b (.ofArguments (Classes.parameters earlier b) args) reached
            | none => reached) (walk ++ [(c, s)])
      else visit earlier c s walk

end Classes

/-- What the parameters of every class in the hierarchy of a resolved type stand for. -/
def Universe.instantiation (u : Universe) (resolved : TypeExpr) : Instantiation :=
  let root := resolved.erase
  u.classes.visit root (.ofArguments (u.classes.parameters root) resolved.arguments) []

/-- An annotation of a declaring class as seen from the resolved type. -/
def Instantiation.resolve (walk : Instantiation) (declaring : ClassId) (hint : TypeExpr) :
    TypeExpr :=
  hint.substitute (Instantiation.entry walk declaring)

/-- An annotated type as its inner type and its metadata. -/
def TypeExpr.stripAnnotated : TypeExpr → TypeExpr × List Scalar
  | annotated inner metadata => (inner, metadata)
  | t => (t, [])

end RecordBinding
