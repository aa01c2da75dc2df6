import RecordBinding.TypeExpr.Equality

namespace RecordBinding.TypeExpr

/-- A type as an argument of another: the null value stands for its class there, and a text for a
name still to be looked up. -/
def asArgument : TypeExpr → TypeExpr
  | none => noneType
  | unresolved source => forward source
  | t => t

/-- The members that a type contributes to a union. -/
def memberList (t : TypeExpr) : List TypeExpr :=
  match t with
  | union _ members => members
  | t => [t.asArgument]

/-- The list without the members that are equal to an earlier one. -/
def withoutDuplicates : List TypeExpr → List TypeExpr
  | [] => []
  | t :: ts => t :: (withoutDuplicates ts).filter fun other => !t.same other

/-- The union of some types: flat, without duplicates, and a single member instead of a union of
one. -/
def unite (style : UnionStyle) (ts : List TypeExpr) : TypeExpr :=
  match withoutDuplicates (ts.flatMap memberList) with
  | [t] => t
  | members => union style members

/-- A type with metadata attached; the metadata of an annotated type come first. -/
def annotate (t : TypeExpr) (metadata : List Scalar) : TypeExpr :=
  match t with
  | annotated inner first => annotated inner (first ++ metadata)
  | t => annotated t.asArgument metadata

def literalOf (items : List Scalar) : TypeExpr :=
  literal (items.foldl (fun kept item =>
    if kept.any item.identical then kept else kept ++ [item]) [])

/-- Whether a type can stand beside a bar with another such type without a named form. -/
def joinsByBar : TypeExpr → Bool
  | none => true
  | cls _ => true
  | generic (.builtin _) _ => true
  | union .bars _ => true
  | _ => false

/-- Whether a type turns a union that it is written into into a named form. -/
def joinsByName : TypeExpr → Bool
  | selfType => true
  | typeVar _ => true
  | newtype _ _ => true
  | .alias _ _ => true
  | generic _ _ => true
  | union .named _ => true
  | annotated _ _ => true
  | literal _ => true
  | _ => false

/-- Two types with a bar between them, if they can be joined so. The base of protocols joins other classes
only. -/
def join? (a b : TypeExpr) : Option TypeExpr :=
  if a.joinsByBar && b.joinsByBar then
    match a, b with
    | none, none => Option.none
    | _, _ => some (unite .bars [a, b])
  else if a.isProtocolBase || b.isProtocolBase then Option.none
  else if a.joinsByName || b.joinsByName then some (unite .named [a, b])
  else Option.none

end RecordBinding.TypeExpr
