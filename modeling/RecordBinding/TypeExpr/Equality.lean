import RecordBinding.TypeExpr.Basic

namespace RecordBinding

mutual

def Datum.same : Datum → Datum → Bool
  | .scalar a, .scalar b => a.same b
  | .bytes a, .bytes b => a == b
  | .list as, .list bs => Datum.sameList as bs
  | .map as, .map bs =>
      as.length == bs.length && Datum.entriesIn as bs &&
        bs.all fun entry => Datum.someEntry as entry
  | .cls a, .cls b => a = b
  | .function a, .function b => a == b
  | .method a r, .method b r' => a == b && Datum.same r r'
  | .individual _ a, .individual _ b => a == b
  | .other kind a, .other kind' b => kind == kind' && a == b
  | _, _ => false

def Datum.sameList : List Datum → List Datum → Bool
  | [], [] => true
  | a :: as, b :: bs => Datum.same a b && Datum.sameList as bs
  | _, _ => false

/-- Whether every entry of the first map is one of the second. -/
def Datum.entriesIn : List (Datum × Datum) → List (Datum × Datum) → Bool
  | [], _ => true
  | (key, value) :: rest, bs =>
      bs.any (fun entry => Datum.same key entry.1 && Datum.same value entry.2) &&
        Datum.entriesIn rest bs

/-- Whether an entry of the map is equal to the given one. -/
def Datum.someEntry : List (Datum × Datum) → Datum × Datum → Bool
  | [], _ => false
  | (key, value) :: rest, entry =>
      (Datum.same key entry.1 && Datum.same value entry.2) || Datum.someEntry rest entry

end

/-- Whether two lists of scalars are equal as sets, items of different kinds apart. -/
def Scalar.sameSet (as bs : List Scalar) : Bool :=
  as.all (fun a => bs.any a.identical) && bs.all (fun b => as.any b.identical)

mutual

def TypeExpr.same : TypeExpr → TypeExpr → Bool
  | .none, .none => true
  | .cls a, .cls b => a = b
  | .selfType, .selfType => true
  | .typeVar a, .typeVar b => a.same b
  | .newtype a base, .newtype b base' => a == b && TypeExpr.same base base'
  | .alias a target, .alias b target' => a == b && TypeExpr.same target target'
  | .generic a as, .generic b bs => a = b && TypeExpr.sameList as bs
  | .union _ as, .union _ bs =>
      TypeExpr.eachIn as bs && bs.all fun b => TypeExpr.someSame as b
  | .annotated a as, .annotated b bs => TypeExpr.same a b && Scalar.sameList as bs
  | .literal as, .literal bs => Scalar.sameSet as bs
  | .unresolved a, .unresolved b => a == b
  | .forward a, .forward b => a == b
  | .datum a, .datum b => a.same b
  | _, _ => false
  termination_by structural t => t

def TypeExpr.sameList : List TypeExpr → List TypeExpr → Bool
  | [], [] => true
  | a :: as, b :: bs => TypeExpr.same a b && TypeExpr.sameList as bs
  | _, _ => false

/-- Whether every member of the first list is equal to one of the second. -/
def TypeExpr.eachIn : List TypeExpr → List TypeExpr → Bool
  | [], _ => true
  | a :: as, bs => bs.any (fun b => TypeExpr.same a b) && TypeExpr.eachIn as bs

/-- Whether a member of the list is equal to the given type. -/
def TypeExpr.someSame : List TypeExpr → TypeExpr → Bool
  | [], _ => false
  | a :: as, b => TypeExpr.same a b || TypeExpr.someSame as b

end

/-- The kinds of values besides lists and maps that can be changed in place. -/
def changeableKinds : List String := ["set", "bytearray", "deque", "SimpleNamespace"]

/-- Whether a plain value can be a key. Those that can be changed in place cannot. -/
def Datum.isKey : Datum → Bool
  | .list _ => false
  | .map _ => false
  | .other kind _ => !changeableKinds.contains kind
  | _ => true

mutual

/-- Whether a type expression can be a key: it can unless a value that is none stands in it. -/
def TypeExpr.isKey : TypeExpr → Bool
  | .datum d => d.isKey
  | .generic _ args => TypeExpr.areKeys args
  | .union _ members => TypeExpr.areKeys members
  | .annotated inner _ => TypeExpr.isKey inner
  | _ => true

def TypeExpr.areKeys : List TypeExpr → Bool
  | [] => true
  | t :: ts => TypeExpr.isKey t && TypeExpr.areKeys ts

end

end RecordBinding
