import RecordBinding.TypeExpr.Equality

namespace RecordBinding

/-- A value. Instances of declared classes are told apart by their number; what is opaque is known by its
kind and its written form. `absent` is the reading of a property that was never set. -/
inductive Value where
  | scalar (value : Scalar)
  | bytes (value : List UInt8)
  | list (items : List Value)
  | map (entries : List (Value × Value))
  | type (t : TypeExpr)
  | object (className : String) (id : Nat)
  | absent
  | function (name : String)
  | method (name : String) (receiver : Value)
  | opaqueObject (kind text : String)

instance : Inhabited Value := ⟨.scalar .null⟩

namespace Value

def null : Value := scalar .null

def bool (b : Bool) : Value := scalar (.bool b)

def str (s : String) : Value := scalar (.str s)

/-- Whether a scalar counts as true: null, false, zero and the empty text do not. -/
def scalarTruth : Scalar → Bool
  | .null => false
  | .bool b => b
  | .int i => i != 0
  | .float x => !(x == 0.0)
  | .str s => !s.isEmpty

/-- The kinds of opaque values that occur with nothing in them only. -/
def emptyKinds : List String := ["tuple", "set", "frozenset", "complex"]

/-- Whether a value counts as true: empty values and the absent value do not. -/
def truth : Value → Bool
  | scalar s => scalarTruth s
  | bytes bs => !bs.isEmpty
  | list items => !items.isEmpty
  | map entries => !entries.isEmpty
  | absent => false
  | opaqueObject kind _ => !emptyKinds.contains kind
  | _ => true

def isNull : Value → Bool
  | scalar .null => true
  | _ => false

def isAbsent : Value → Bool
  | absent => true
  | _ => false

def scalarClass : Scalar → ClassId
  | .null => .noneType
  | .bool _ => .builtin .bool
  | .int _ => .builtin .int
  | .float _ => .builtin .float
  | .str _ => .builtin .str

mutual

/-- The plain value that a value is where a type is expected. -/
def toDatum : Value → Datum
  | scalar s => .scalar s
  | bytes bs => .bytes bs
  | list items => .list (toData items)
  | map entries => .map (entriesToData entries)
  | type t => .cls (t.class?.getD .object)
  | object className id => .individual (.declared className) id
  | absent => .other "Absent" "ABSENT"
  | function name => .function name
  | method name receiver => .method name (toDatum receiver)
  | opaqueObject kind text => .other kind text

def toData : List Value → List Datum
  | [] => []
  | item :: items => toDatum item :: toData items

/-- The plain values of the entries of a map. -/
def entriesToData : List (Value × Value) → List (Datum × Datum)
  | [] => []
  | (key, value) :: entries => (toDatum key, toDatum value) :: entriesToData entries

end

/-- A value where a type is expected. -/
def toType : Value → TypeExpr
  | type t => t
  | scalar s => .ofScalar s
  | value => .datum value.toDatum

def same (a b : Value) : Bool :=
  a.toType.same b.toType

/-- A map of entries in order: a key that occurs again changes the value at its first place. -/
def ofEntries (entries : List (Value × Value)) : Value :=
  map (entries.foldl (fun kept entry =>
    if kept.any fun other => other.1.same entry.1 then
      kept.map fun other => if other.1.same entry.1 then (other.1, entry.2) else other
    else kept ++ [entry]) [])

end Value

end RecordBinding
