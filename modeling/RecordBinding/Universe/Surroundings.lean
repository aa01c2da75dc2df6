import RecordBinding.Declaration.TypeSource
import RecordBinding.Error
import RecordBinding.Object.Value

namespace RecordBinding

/-- What lies around a module: the other modules that can be imported, and what its objects answer where
their classes, as far as the module declares them, do not say so. Objects are given as they stand where a
type is expected.

`global` is what a module holds under a name besides its declarations; `attribute?` is an attribute of an
object that takes precedence over the members of its class. An object may refuse to be a key
(`hashFailure?`) or to be written out (`textFailure?`), and reading a document may fail for want of
resources (`readFailure?`). -/
structure Surroundings where
  isModule : String → Bool := fun _ => false
  global : String → String → Except Failure Value := fun _ _ => .error (.misuse .attributeError)
  attribute? : TypeExpr → String → Option (Except Failure Value) := fun _ _ => none
  hashFailure? : TypeExpr → Option Failure := fun _ => none
  textFailure? : TypeExpr → Option Failure := fun _ => none
  readFailure? : String → Option Failure := fun _ => none

namespace Surroundings

/-- The modules of the language whose classes are known here. -/
def languageModules : List String := ["builtins", "typing", "abc"]

/-- The module that a class is at home in. -/
def homeOf (module : String) : ClassId → String
  | .builtin _ => "builtins"
  | .any => "typing"
  | .protocol => "typing"
  | .generic => "typing"
  | .abc => "abc"
  | .declared _ => module
  | .ofValues "" _ => "builtins"
  | .ofValues home _ => home

/-- A class of the language under its name in its module. -/
def languageClass? (home name : String) : Option TypeExpr :=
  match builtinType? name with
  | some (.cls c) => if homeOf "" c = home then some (.cls c) else none
  | some .selfType => if home = "typing" then some .selfType else none
  | _ => none

def lastPart (name : String) : String :=
  (name.toList.splitOn '.').getLast?.elim name String.ofList

def numberPart? : Number → String → Option Value
  | .int i, "real" => some (.scalar (.int i))
  | .int i, "numerator" => some (.scalar (.int i))
  | .int _, "imag" => some (.scalar (.int 0))
  | .int _, "denominator" => some (.scalar (.int 1))
  | .float x, "real" => some (.scalar (.float x))
  | .float _, "imag" => some (.scalar (.float 0.0))
  | _, _ => none

/-- The attributes that objects have by the language alone: their names, and the parts of numbers. -/
def languageAttribute? (module : String) : TypeExpr → String → Option Value
  | t, "__qualname__" => t.qualname?.map .str
  | .typeVar v, "__name__" => some (.str v.name)
  | .alias name _, "__name__" => some (.str name)
  | t, "__name__" => t.qualname?.map fun name => .str (lastPart name)
  | .cls c, "__module__" => some (.str (homeOf module c))
  | .datum (.scalar s), part => s.number?.bind fun number => numberPart? number part
  | _, _ => none

/-- The surroundings of a module of which nothing but the language is known. -/
def ofLanguage (module : String) : Surroundings where
  isModule name := languageModules.contains name
  global home name :=
    match name, languageClass? home name with
    | "__name__", _ => .ok (.str home)
    | _, some t => .ok (.type t)
    | _, none => .error (.misuse .attributeError)
  attribute? object name := (languageAttribute? module object name).map .ok

end Surroundings

end RecordBinding
