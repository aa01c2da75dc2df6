import RecordBinding.TypeExpr.Basic

namespace RecordBinding

def ClassId.text (module : String) : ClassId → String
  | .any => "typing.Any"
  | c => "<class '" ++ c.path module ++ "'>"

mutual

def Datum.text (module : String) : Datum → String
  | .scalar value => value.text
  | .bytes value => Text.quoteBytes value
  | .list items => "[" ++ ", ".intercalate (Datum.texts module items) ++ "]"
  | .map entries => "\x7b" ++ ", ".intercalate (Datum.entryTexts module entries) ++ "\x7d"
  | .cls c => c.text module
  | .function name => "<function " ++ name ++ ">"
  | .method name receiver => "<bound method " ++ name ++ " of " ++ Datum.text module receiver ++ ">"
  | .individual c _ => "<" ++ c.path module ++ " object>"
  | .other _ text => text

def Datum.texts (module : String) : List Datum → List String
  | [] => []
  | item :: items => Datum.text module item :: Datum.texts module items

def Datum.entryTexts (module : String) : List (Datum × Datum) → List String
  | [] => []
  | (key, value) :: entries =>
      (Datum.text module key ++ ": " ++ Datum.text module value) :: Datum.entryTexts module entries

end

namespace TypeExpr

/-- A name that stands for the null value or its class beside bars. -/
def barName : String := "None"

/-- The written form of a type inside brackets, given its form when it stands alone: a class goes by
its path there. -/
def bracketed (module : String) (t : TypeExpr) (alone : String) : String :=
  match t with
  | cls c => c.path module
  | _ => alone

/-- Whether a list of member texts is that of an optional type: two members, one of them the class of
the null value; gives the text of the other. -/
def optionalPart? (members : List TypeExpr) (texts : List String) : Option String :=
  match members, texts with
  | [a, b], [s, t] =>
      if a.isNoneType then some t
      else if b.isNoneType then some s
      else Option.none
  | _, _ => Option.none

mutual

def text (module : String) : TypeExpr → String
  | cls c => c.text module
  | none => barName
  | selfType => "typing.Self"
  | typeVar v => v.name
  | newtype name _ => module ++ "." ++ name
  | .alias name _ => name
  | generic origin args =>
      origin.path module ++ "[" ++ ", ".intercalate (argumentTexts module args) ++ "]"
  | union .bars members => " | ".intercalate (memberTexts module members)
  | union .named members =>
      match optionalPart? members (argumentTexts module members) with
      | some part => "typing.Optional[" ++ part ++ "]"
      | Option.none => "typing.Union[" ++ ", ".intercalate (argumentTexts module members) ++ "]"
  | annotated inner metadata =>
      "typing.Annotated[" ++ ", ".intercalate
        (bracketed module inner (text module inner) :: metadata.map Scalar.text) ++ "]"
  | literal items => "typing.Literal[" ++ ", ".intercalate (items.map Scalar.text) ++ "]"
  | unresolved source => Text.quote source
  | forward source => "ForwardRef(" ++ Text.quote source ++ ")"
  | datum d => d.text module

def argumentTexts (module : String) : List TypeExpr → List String
  | [] => []
  | t :: ts => bracketed module t (text module t) :: argumentTexts module ts

/-- The written forms of types between bars, where the class of the null value goes by the name of the
value. -/
def memberTexts (module : String) : List TypeExpr → List String
  | [] => []
  | t :: ts =>
      (if t.isNoneType then barName else bracketed module t (text module t)) ::
        memberTexts module ts

end

/-- The name that a type has, without arguments and module; texts, type variables, aliases, unions
between bars and plain values have none. -/
def qualname? : TypeExpr → Option String
  | cls c => some c.qualname
  | selfType => some "Self"
  | newtype name _ => some name
  | generic origin _ => some origin.qualname
  | union .named members =>
      match optionalPart? members ["", ""] with
      | some _ => some "Optional"
      | Option.none => some "Union"
  | annotated _ _ => some "Annotated"
  | literal _ => some "Literal"
  | datum (.function name) => some name
  | datum (.method name _) => some name
  | _ => Option.none

/-- The name of a type, or its written form when it has no name. -/
def nameOrText (module : String) (t : TypeExpr) : String :=
  t.qualname?.getD (t.text module)

/-- The form of a type in running text: a text stands without quotation marks. -/
def plainText (module : String) : TypeExpr → String
  | unresolved source => source
  | t => t.text module

end TypeExpr

end RecordBinding
