import RecordBinding.Object.World

namespace RecordBinding

/-- A failure as it leaves a guarded step: structural failures are wrapped, errors of a construction
and all others pass. -/
def Failure.guard (operation : Operation) (target : TypeExpr) (property : Option String)
    (failure : Failure) : Failure :=
  if failure.kind.isConstruction then failure
  else if failure.kind.isStructural then
    .construction ⟨.stepFailed (some failure.kind), operation, target, property⟩
  else failure

namespace Action

variable {σ α : Type}

/-- An action as a step of a construction. -/
def guarded (operation : Operation) (target : TypeExpr) (property : Option String)
    (action : Action σ α) : Action σ α :=
  fun s =>
    match action.run s with
    | (.ok a, s) => (.ok a, s)
    | (.error failure, s) => (.error (failure.guard operation target property), s)

end Action

/-- Access to one property of a bound type. Without a probe the property counts as always set. What a probe
answers may be any value; `truth` tells whether it counts as true. -/
structure Accessor (σ : Type) where
  name : String
  type : TypeExpr
  owner : TypeExpr
  metadata : List Scalar
  getter : Value → Action σ Value
  setter : Value → Value → Action σ Unit
  probe : Option (Value → Action σ Value)
  truth : Value → Action σ Bool := fun v => pure v.truth

namespace Accessor

variable {σ : Type}

/-- Whether the property tells set from unset. -/
def tracksPresence (a : Accessor σ) : Bool :=
  a.probe.isSome

def firstMetadata? (a : Accessor σ) (c : ClassId) : Option Scalar :=
  a.metadata.find? fun item => Classes.inherits [] (Value.scalarClass item) c

/-- Whether the property of a value is set. The step that is guarded is the call of the probe; whether its
answer counts as true is asked afterwards. -/
def isPresent (a : Accessor σ) (target : Value) : Action σ Bool :=
  match a.probe with
  | none => pure true
  | some probe => do
      let answer ← Action.guarded .isSet a.owner (some a.name) (probe target)
      a.truth answer

/-- The value of the property; absent when it is not set. -/
def get (a : Accessor σ) (target : Value) : Action σ Value := do
  if ← a.isPresent target then
    Action.guarded .get a.owner (some a.name) (a.getter target)
  else
    return .absent

def set (a : Accessor σ) (target value : Value) : Action σ Unit :=
  Action.guarded .set a.owner (some a.name) (a.setter target value)

end Accessor

end RecordBinding
