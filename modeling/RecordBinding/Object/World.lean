import RecordBinding.Error
import RecordBinding.Log
import RecordBinding.Object.Fields
import RecordBinding.Universe.Basic

namespace RecordBinding

/-- An action on a state that may fail. -/
abbrev Action (σ : Type) := ExceptT Failure (StateM σ)

namespace Action

variable {σ α : Type}

/-- Runs an action; the failure, if any, becomes part of the result. -/
def attempt (action : Action σ α) : Action σ (Except Failure α) :=
  fun s => let (result, s) := action.run s; (.ok result, s)

/-- The result of a computation that may fail but changes nothing. -/
def ofExcept (result : Except Failure α) : Action σ α :=
  fun s => (result, s)

end Action

/-- The world: the states of the instances by number, the labels of the calls made, the log, and the
number of bindings built so far. -/
structure World where
  states : Array Fields := #[]
  trace : Array String := #[]
  log : Array LogRecord := #[]
  bindingsBuilt : Nat := 0

def World.state? (w : World) : Value → Option Fields
  | .object _ id => w.states[id]?
  | _ => none

namespace Universe

/-- The class of a type as a value. -/
def classOfType (u : Universe) : TypeExpr → ClassId
  | .none => .noneType
  | .cls c =>
      let ancestors := u.classes.ancestors c
      if ancestors.contains .protocol then .ofValues "typing" "_ProtocolMeta"
      else if ancestors.contains .abc then .ofValues "abc" "ABCMeta"
      else if c = .any then .ofValues "typing" "_AnyMeta"
      else .ofValues "" "type"
  | .selfType => .ofValues "typing" "_SpecialForm"
  | .typeVar _ => .ofValues "typing" "TypeVar"
  | .newtype _ _ => .ofValues "typing" "NewType"
  | .alias _ _ => .ofValues "typing" "TypeAliasType"
  | .generic (.builtin _) _ => .ofValues "types" "GenericAlias"
  | .generic _ _ => .ofValues "typing" "_GenericAlias"
  | .union .bars _ => .ofValues "types" "UnionType"
  | .union .named _ => .ofValues "typing" "_UnionGenericAlias"
  | .annotated _ _ => .ofValues "typing" "_AnnotatedAlias"
  | .literal _ => .ofValues "typing" "_LiteralGenericAlias"
  | .unresolved _ => .builtin .str
  | .forward _ => .ofValues "typing" "ForwardRef"
  | .datum _ => .object

def classOf (u : Universe) : Value → ClassId
  | .scalar s => Value.scalarClass s
  | .bytes _ => .builtin .bytes
  | .list _ => .builtin .list
  | .map _ => .builtin .dict
  | .absent => .ofValues "" "Absent"
  | .object className _ => .declared className
  | .function _ => .ofValues "" "function"
  | .method _ _ => .ofValues "" "method"
  | .opaqueObject kind _ =>
      match kind with
      | "object" => .object
      | "tuple" => .builtin .tuple
      | "set" => .builtin .set
      | "frozenset" => .builtin .frozenset
      | "complex" => .builtin .complex
      | kind => .ofValues "" kind
  | .type t => u.classOfType t

end Universe

namespace Action

def log (severity : Severity) (reporter : Reporter) (message : String) : Action World Unit :=
  modify fun w => { w with log := w.log.push ⟨severity, reporter, message⟩ }

/-- Adds the label of a call to the trace. -/
def called (label : String) : Action World Unit :=
  modify fun w => { w with trace := w.trace.push label }

def allocate (className : String) (fields : Fields) : Action World Value := do
  let w ← get
  set { w with states := w.states.push fields }
  return .object className w.states.size

/-- The state of a value; only instances have one. -/
def fieldsOf (value : Value) : Action World Fields := do
  match (← get).state? value with
  | some fields => return fields
  | none => throw (.misuse .attributeError)

def setField (value : Value) (key : String) (field : Value) : Action World Unit := do
  let fields ← fieldsOf value
  match value with
  | .object _ id =>
      modify fun w => { w with states := w.states.setIfInBounds id (fields.set key field) }
  | _ => pure ()

end Action

end RecordBinding
