import RecordBinding.TypeExpr.Equality

namespace RecordBinding.TypeExpr

mutual

/-- The raw class of a type. -/
def erase : TypeExpr → ClassId
  | none => .noneType
  | cls c => if c = .any then .object else c
  | typeVar v => v.bound
  | newtype _ base => erase base
  | .alias _ target => erase target
  | generic origin _ => origin
  | annotated inner _ => erase inner
  | union _ members =>
      match erasePresent members with
      | [c] => c
      | _ => .object
  | _ => .object

/-- The raw classes of the distinct members other than the class of the null value. -/
def erasePresent : List TypeExpr → List ClassId
  | [] => []
  | t :: ts =>
      if t.isNoneType || ts.any t.same then erasePresent ts else erase t :: erasePresent ts

end

end RecordBinding.TypeExpr
