import RecordBinding.Scalar

namespace RecordBinding

inductive Builtin where
  | object
  | int
  | str
  | float
  | bool
  | bytes
  | list
  | dict
  | tuple
  | set
  | frozenset
  | complex
  | noneType
  deriving DecidableEq, Repr

namespace Builtin

def name : Builtin → String
  | object => "object"
  | int => "int"
  | str => "str"
  | float => "float"
  | bool => "bool"
  | bytes => "bytes"
  | list => "list"
  | dict => "dict"
  | tuple => "tuple"
  | set => "set"
  | frozenset => "frozenset"
  | complex => "complex"
  | noneType => "NoneType"

/-- Whether a class takes type arguments of any number. -/
def isContainer : Builtin → Bool
  | list => true
  | dict => true
  | tuple => true
  | set => true
  | frozenset => true
  | _ => false

end Builtin

/-- A class: built in, one of the special classes of the type system, declared by the module under
inspection, or a class that only values have, such as that of functions. -/
inductive ClassId where
  | builtin (b : Builtin)
  | any
  | protocol
  | generic
  | abc
  | declared (name : String)
  | ofValues (home name : String)
  deriving DecidableEq, Repr

namespace ClassId

def object : ClassId := builtin .object

def noneType : ClassId := builtin .noneType

/-- The name of a class without its module. -/
def qualname : ClassId → String
  | builtin b => b.name
  | any => "Any"
  | protocol => "Protocol"
  | generic => "Generic"
  | abc => "ABC"
  | declared name => name
  | ofValues _ name => name

/-- The name of a class with its module, which built-in classes go without. -/
def path (module : String) : ClassId → String
  | builtin b => b.name
  | any => "typing.Any"
  | protocol => "typing.Protocol"
  | generic => "typing.Generic"
  | abc => "abc.ABC"
  | declared name => module ++ "." ++ name
  | ofValues "" name => name
  | ofValues home name => home ++ "." ++ name

/-- Members declared by a universal base are never properties. -/
def isUniversal : ClassId → Bool
  | builtin .object => true
  | protocol => true
  | generic => true
  | abc => true
  | _ => false

end ClassId

/-- A type variable: its name, the class whose parameter it is (none when the module declares it),
and the class that its bound erases to. -/
structure TypeVar where
  owner : Option String
  name : String
  bound : ClassId := .object
  deriving DecidableEq, Repr

/-- Two type variables are one when they have one name, one owner and one bound. -/
def TypeVar.same (a b : TypeVar) : Bool :=
  a = b

/-- A plain value that stands where a type is expected. Values without parts other than scalars are given
by their kind and their written form. -/
inductive Datum where
  | scalar (value : Scalar)
  | bytes (value : List UInt8)
  | list (items : List Datum)
  | map (entries : List (Datum × Datum))
  | cls (c : ClassId)
  | function (name : String)
  | method (name : String) (receiver : Datum)
  | individual (c : ClassId) (id : Nat)
  | other (kind text : String)

/-- How a union was written, which shows in its text only: with bars between its members, or as a
named form. -/
inductive UnionStyle where
  | bars
  | named
  deriving DecidableEq, Repr

/-- A type expression. `none` is the null value itself, as opposed to its class; `unresolved` is an
annotation left as text because a name in it is unknown, and `forward` such a text as an argument of
a type. -/
inductive TypeExpr where
  | none
  | cls (c : ClassId)
  | selfType
  | typeVar (v : TypeVar)
  | newtype (name : String) (base : TypeExpr)
  | alias (name : String) (target : TypeExpr)
  | generic (origin : ClassId) (args : List TypeExpr)
  | union (style : UnionStyle) (members : List TypeExpr)
  | annotated (inner : TypeExpr) (metadata : List Scalar)
  | literal (items : List Scalar)
  | unresolved (source : String)
  | forward (source : String)
  | datum (d : Datum)

instance : Inhabited TypeExpr := ⟨.none⟩

namespace TypeExpr

/-- The class of a built-in name. -/
def ofBuiltin (b : Builtin) : TypeExpr := cls (.builtin b)

def noneType : TypeExpr := cls .noneType

def isNoneType : TypeExpr → Bool
  | cls c => c = .noneType
  | _ => false

def class? : TypeExpr → Option ClassId
  | cls c => some c
  | _ => Option.none

/-- Whether a type is the common base of protocols, which cannot be a part of other types unless it is
treated as a mere class. -/
def isProtocolBase : TypeExpr → Bool
  | cls c => c = .protocol
  | _ => false

/-- Whether an annotation was left as text. -/
def isUnresolved : TypeExpr → Bool
  | unresolved _ => true
  | _ => false

/-- A scalar where a type is expected: null is itself, a text an annotation that nobody resolved. -/
def ofScalar : Scalar → TypeExpr
  | .null => none
  | .str source => unresolved source
  | value => datum (.scalar value)

/-- The arguments that the outermost form of a type carries. -/
def arguments : TypeExpr → List TypeExpr
  | generic _ args => args
  | union _ members => members
  | annotated inner metadata => inner :: metadata.map ofScalar
  | literal items => items.map ofScalar
  | _ => []

end TypeExpr

end RecordBinding
