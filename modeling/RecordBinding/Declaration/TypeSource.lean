import RecordBinding.TypeExpr.Formation

namespace RecordBinding

/-- A written annotation. `missing` is a name that no scope knows. -/
inductive TypeSource where
  | name (n : String)
  | apply (n : String) (args : List TypeSource)
  | union (members : List TypeSource)
  | annotated (inner : TypeSource) (metadata : List Scalar)
  | literal (items : List Scalar)
  | missing (n : String)

/-- Why an annotation has no value. -/
inductive EvaluationError where
  | unknownName (n : String)
  | notAType
  deriving DecidableEq, Repr

/-- What names stand for, how many arguments a class takes (none when any number will do), and whether
a missing name is an error or a text of its own. -/
structure Scope where
  lookup : String → Option TypeExpr
  arity : ClassId → Option Nat
  keepsMissing : Bool

/-- The type that a name of the language stands for. -/
def builtinType? : String → Option TypeExpr
  | "None" => some .none
  | "Any" => some (.cls .any)
  | "Self" => some .selfType
  | "Protocol" => some (.cls .protocol)
  | "ABC" => some (.cls .abc)
  | n =>
      ([Builtin.object, .int, .str, .float, .bool, .bytes, .list, .dict, .tuple, .set, .frozenset,
          .complex].find? fun b => b.name == n).map .ofBuiltin

namespace Scope

/-- A name with further meanings that come first. -/
def extend (scope : Scope) (entries : List (String × TypeExpr)) : Scope :=
  { scope with
    lookup := fun n =>
      match entries.lookup n with
      | some t => some t
      | none => scope.lookup n }

/-- The meaning of a name: in the scope, or else in the language. -/
def resolve? (scope : Scope) (n : String) : Option TypeExpr :=
  match scope.lookup n with
  | some t => some t
  | none => builtinType? n

/-- A type applied to arguments. Built-in containers take any arguments as they are; a declared class
takes as many as it has parameters, null standing for its class. -/
def applyType (scope : Scope) (head : TypeExpr) (args : List TypeExpr) :
    Except EvaluationError TypeExpr :=
  match head with
  | .cls (.builtin b) =>
      if b.isContainer then .ok (.generic (.builtin b) args) else .error .notAType
  | .cls (.declared n) =>
      let formed := TypeExpr.generic (.declared n) (args.map TypeExpr.asArgument)
      if args.any TypeExpr.isProtocolBase then .error .notAType
      else
        match scope.arity (.declared n) with
        | none => .ok formed
        | some count => if count = args.length then .ok formed else .error .notAType
  | _ => .error .notAType

/-- Two types with a bar between them; the first of a union has nothing to its left. -/
def joinNext (joined : Option TypeExpr) (next : TypeExpr) : Except EvaluationError TypeExpr :=
  match joined with
  | none => .ok next
  | some t =>
      match t.join? next with
      | some union => .ok union
      | none => .error .notAType

end Scope

namespace TypeSource

mutual

/-- The value of an annotation in a scope. -/
def evaluate (scope : Scope) : TypeSource → Except EvaluationError TypeExpr
  | name n =>
      match scope.resolve? n with
      | some t => .ok t
      | none => .error (.unknownName n)
  | apply n args =>
      match scope.resolve? n with
      | some head => (evaluateAll scope args).bind (scope.applyType head)
      | none => .error (.unknownName n)
  | union members => evaluateJoined scope none members
  | annotated inner metadata =>
      (evaluate scope inner).bind fun t =>
        if t.isProtocolBase then .error .notAType else .ok (t.annotate metadata)
  | literal items => .ok (TypeExpr.literalOf items)
  | missing n => if scope.keepsMissing then .ok (.unresolved n) else .error (.unknownName n)

/-- The values of several annotations, from left to right. -/
def evaluateAll (scope : Scope) : List TypeSource → Except EvaluationError (List TypeExpr)
  | [] => .ok []
  | s :: ss => (evaluate scope s).bind fun t => (evaluateAll scope ss).map fun ts => t :: ts

/-- The value of further members of a union, each joined to what stands before it as soon as it has a
value. -/
def evaluateJoined (scope : Scope) (joined : Option TypeExpr) :
    List TypeSource → Except EvaluationError TypeExpr
  | [] =>
      match joined with
      | some t => .ok t
      | none => .error .notAType
  | s :: ss =>
      (evaluate scope s).bind fun t =>
        (Scope.joinNext joined t).bind fun union => evaluateJoined scope (some union) ss

end

/-- The value of an annotation on its own, where null stands for its class. -/
def evaluateHint (scope : Scope) (source : TypeSource) : Except EvaluationError TypeExpr :=
  (source.evaluate scope).bind fun t =>
    match t with
    | .none => .ok .noneType
    | t => if t.isProtocolBase then .error .notAType else .ok t

mutual

def text : TypeSource → String
  | name n => n
  | apply n args => n ++ "[" ++ ", ".intercalate (texts args) ++ "]"
  | union members => " | ".intercalate (texts members)
  | annotated inner metadata =>
      "Annotated[" ++ ", ".intercalate (text inner :: metadata.map Scalar.text) ++ "]"
  | literal items => "Literal[" ++ ", ".intercalate (items.map Scalar.text) ++ "]"
  | missing n => n

def texts : List TypeSource → List String
  | [] => []
  | s :: ss => text s :: texts ss

end

end TypeSource

end RecordBinding
