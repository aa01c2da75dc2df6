import RecordBinding.Declaration.TypeSource
import RecordBinding.Object.ErrorKind
import RecordBinding.Object.Value

namespace RecordBinding

/-- How a parameter receives its argument. -/
inductive ParameterKind where
  | positionalOnly
  | positional
  | keywordOnly
  | rest
  | keywordRest
  deriving DecidableEq, Repr

structure Parameter where
  name : String
  kind : ParameterKind
  hasDefault : Bool
  hint : Option TypeSource

namespace Parameter

/-- Whether a positional argument can fill the parameter. -/
def isPositional (p : Parameter) : Bool :=
  p.kind = .positionalOnly || p.kind = .positional

/-- Whether a parameter has no default. The parameters that collect the remaining arguments have
none either. -/
def isRequired (p : Parameter) : Bool :=
  !p.hasDefault

end Parameter

abbrev Signature := List Parameter

namespace Signature

/-- Whether exactly `count` positional arguments are what the parameters ask for and take. -/
def takes (parameters : Signature) (count : Nat) : Bool :=
  let required := parameters.filter Parameter.isRequired
  let positional := parameters.filter Parameter.isPositional
  required.all Parameter.isPositional && required.length ≤ count && count ≤ positional.length

/-- Whether a function takes exactly `count` positional arguments, besides its first one unless that
is already bound. -/
def takesExactly (parameters : Signature) (count : Nat) (bound : Bool) : Bool :=
  if bound then parameters.takes count
  else
    match parameters with
    | [] => false
    | first :: others => first.isPositional && takes others count

/-- Whether a call with `count` positional arguments and no others finds a parameter for each
argument and an argument or a default for each parameter. -/
def binds : Signature → Nat → Bool
  | [], count => count == 0
  | p :: ps, count =>
      match p.kind with
      | .rest => binds ps 0
      | .keywordRest => binds ps count
      | .keywordOnly => p.hasDefault && binds ps count
      | _ =>
          match count with
          | 0 => p.hasDefault && binds ps 0
          | n + 1 => binds ps n

end Signature

/-- What a function does when called. The receiver is its first argument. -/
inductive Body where
  | nothing
  | get (key : String) (fallback : Option Value)
  | isSet (key : String)
  | set (key : String)
  | create (className : String)
  | createFirst
  | first
  | build (className : String) (needed : List String)
  | give (value : Value)
  | fail (kind : ErrorKind) (message : String)

/-- A function: the label that its calls leave in the trace, its name, its parameters with the
receiver among them, the annotation of its result, and its body. -/
structure Function where
  label : String
  name : String
  parameters : Signature
  returns : Option TypeSource
  body : Body

namespace Function

/-- Whether a function takes exactly `count` arguments besides its receiver. -/
def takesExactly (f : Function) (count : Nat) : Bool :=
  f.parameters.takesExactly count false

/-- The annotations of a function: those of its parameters in order, then that of its result. -/
def annotations (f : Function) : List TypeSource :=
  f.parameters.filterMap Parameter.hint ++ f.returns.toList

/-- Evaluates every annotation of a function; an unknown name in any of them leaves all without
value. -/
def evaluateAnnotations (f : Function) (scope : Scope) : Except EvaluationError Unit :=
  f.annotations.forM fun source => (source.evaluateHint scope).map fun _ => ()

/-- The annotation of a result, with whether it could be evaluated. -/
structure ReturnHint where
  type : TypeExpr
  evaluated : Bool

/-- The evaluated annotation of the result, any type when there is none. The written form stands in
when a name is unknown. -/
def returnHint (f : Function) (scope : Scope) : Except EvaluationError ReturnHint :=
  match f.evaluateAnnotations scope with
  | .ok _ =>
      match f.returns with
      | some source => (source.evaluateHint scope).map fun t => ⟨t, true⟩
      | none => .ok ⟨.cls .any, true⟩
  | .error (.unknownName _) =>
      match f.returns with
      | some source => .ok ⟨.unresolved source.text, false⟩
      | none => .ok ⟨.cls .any, false⟩
  | .error .notAType => .error .notAType

/-- The evaluated annotation of the first parameter after the receiver, if there is one and it can be
evaluated. -/
def argumentHint? (f : Function) (scope : Scope) : Except EvaluationError (Option TypeExpr) :=
  match f.parameters with
  | _ :: p :: _ =>
      match f.evaluateAnnotations scope with
      | .ok _ =>
          match p.hint with
          | some source => (source.evaluateHint scope).map some
          | none => .ok none
      | .error (.unknownName _) => .ok none
      | .error .notAType => .error .notAType
  | _ => .ok none

end Function

end RecordBinding
