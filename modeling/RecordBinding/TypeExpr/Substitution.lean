import RecordBinding.TypeExpr.Formation

namespace RecordBinding

/-- What some type variables stand for. -/
abbrev Substitution := List (TypeVar × TypeExpr)

/-- What a type variable stands for, if it is replaced. -/
def Substitution.image? (s : Substitution) (v : TypeVar) : Option TypeExpr :=
  (s.find? fun entry => entry.1.same v).map (·.2)

/-- What a type variable stands for; itself if it is not replaced. -/
def Substitution.image (s : Substitution) (v : TypeVar) : TypeExpr :=
  (s.image? v).getD (.typeVar v)

def Substitution.fixes (s : Substitution) (v : TypeVar) : Bool :=
  (s.image v).same (.typeVar v)

/-- Type variables paired with types in order, as far as both lists reach. -/
def Substitution.ofArguments (params : List TypeVar) (args : List TypeExpr) : Substitution :=
  params.zip args

namespace TypeExpr

mutual

/-- The type variables in a type, in order of appearance. -/
def parameters : TypeExpr → List TypeVar
  | typeVar v => [v]
  | generic _ args => parametersOfAll args
  | union _ members => parametersOfAll members
  | annotated inner _ => parameters inner
  | _ => []

def parametersOfAll : List TypeExpr → List TypeVar
  | [] => []
  | t :: ts => parameters t ++ parametersOfAll ts

end

mutual

/-- A compound type formed anew with every variable replaced. -/
def rebuild (s : Substitution) : TypeExpr → TypeExpr
  | typeVar v => (s.image v).asArgument
  | generic origin args => generic origin (rebuildAll s args)
  | union style members => unite style (rebuildAll s members)
  | annotated inner metadata => annotate (rebuild s inner) metadata
  | t => t

/-- The types of a list formed anew. -/
def rebuildAll (s : Substitution) : List TypeExpr → List TypeExpr
  | [] => []
  | t :: ts => rebuild s t :: rebuildAll s ts

end

/-- Replaces the type variables of a type. A type without a variable that is replaced by another type
is returned as it stands. -/
def substitute (s : Substitution) : TypeExpr → TypeExpr
  | typeVar v => s.image v
  | t => if t.parameters.all s.fixes then t else rebuild s t

/-- Replaces the type variables of a type, if they may be replaced. A variable on its own may stand for
anything; one that is a part of a type may not stand for the base of protocols. -/
def substitute? (s : Substitution) (t : TypeExpr) : Option TypeExpr :=
  match t with
  | typeVar v => some (s.image v)
  | t => if t.parameters.any fun v => (s.image v).isProtocolBase then Option.none else some (t.substitute s)

end TypeExpr

end RecordBinding
