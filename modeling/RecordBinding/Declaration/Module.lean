import RecordBinding.Declaration.Function

namespace RecordBinding

/-- What a class holds under a name. A property may lack a getter; an overloaded member has a base
function and further functions for the classes of its argument. -/
inductive MemberKind where
  | method (f : Function)
  | staticMethod (f : Function)
  | classMethod (f : Function)
  | staticValue (value : Value)
  | property (getter : Option Function)
  | overload (base : Function) (cases : List (TypeSource × Function))
  | attribute (value : Value)

structure Member where
  name : String
  kind : MemberKind
  isAbstract : Bool

inductive ClassKind where
  | concrete
  | protocol
  | abstract
  deriving DecidableEq, Repr

/-- A type parameter with the annotation that bounds it. -/
structure TypeParameter where
  name : String
  bound : Option TypeSource

structure ClassDeclaration where
  name : String
  kind : ClassKind
  parameters : List TypeParameter
  bases : List TypeSource
  members : List Member
  initial : List (String × Value)

inductive TypeDeclaration where
  | typeVar (name : String) (bound : Option TypeSource)
  | newtype (name : String) (base : TypeSource)
  | alias (name : String) (target : TypeSource)

def TypeDeclaration.name : TypeDeclaration → String
  | typeVar name _ => name
  | newtype name _ => name
  | .alias name _ => name

structure ModuleDeclaration where
  name : String
  types : List TypeDeclaration
  classes : List ClassDeclaration
  functions : List Function
  values : List (String × Value)

end RecordBinding
