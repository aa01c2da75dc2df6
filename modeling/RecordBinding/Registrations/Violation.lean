import RecordBinding.Text.Quoted

namespace RecordBinding

inductive PathStep where
  | key (name : String)
  | index (n : Nat)
  deriving DecidableEq, Repr

inductive ViolationKind where
  | missing
  | notAText
  | notAnArray
  | notATable
  | unknownKey
  | malformedReference (given : String)
  deriving DecidableEq, Repr

namespace ViolationKind

def code : ViolationKind → String
  | missing => "missing"
  | notAText => "string_type"
  | notAnArray => "list_type"
  | notATable => "model_type"
  | unknownKey => "extra_forbidden"
  | malformedReference _ => "value_error"

/-- What is said about a malformed reference; the other kinds go by their code alone. -/
def detail? : ViolationKind → Option String
  | malformedReference given =>
      some ("Value error, expected 'package.module:Name', got " ++ Text.quote given)
  | _ => none

end ViolationKind

structure Violation where
  place : List PathStep
  kind : ViolationKind
  deriving DecidableEq, Repr

/-- The violation at a place further out. -/
def Violation.below (step : PathStep) (v : Violation) : Violation :=
  { v with place := step :: v.place }

end RecordBinding
