import RecordBinding.Binding.Basic

namespace RecordBinding

/-- A construction in progress. The target is gone once the session is finished. -/
structure Session (σ : Type) where
  binding : Binding σ
  target : Option Value

/-- What can be asked of a session. -/
inductive SessionCommand where
  | write (name : String) (value : Value)
  | finish

def Binding.open {σ : Type} (b : Binding σ) : Action σ (Session σ) := do
  let target ← Action.guarded .create b.implementation none b.start
  return ⟨b, some target⟩

namespace Session

variable {σ : Type}

def closedError (s : Session σ) : Failure :=
  .construction ⟨.sessionClosed, .set, s.binding.type, none⟩

def openTarget (s : Session σ) : Except Failure Value :=
  match s.target with
  | some target => .ok target
  | none => .error s.closedError

/-- Writes a property of the target. An unknown name is reported before a finished session is. -/
def write (s : Session σ) (name : String) (value : Value) : Action σ Unit := do
  let a ← Action.ofExcept (s.binding.accessor name)
  let target ← Action.ofExcept s.openTarget
  a.set target value

/-- The session without its target. -/
def close (s : Session σ) : Session σ :=
  { s with target := none }

/-- The value that a session ends with; the session is to be closed whatever comes of it. -/
def result (s : Session σ) : Action σ Value := do
  let target ← Action.ofExcept s.openTarget
  match s.binding.finish with
  | some build => Action.guarded .build s.binding.implementation none (build target)
  | none => return target

/-- Carries out a command: the outcome, the session afterwards and the state afterwards. A write answers
null. -/
def perform (s : Session σ) (command : SessionCommand) (state : σ) :
    Except Failure Value × Session σ × σ :=
  match command with
  | .write name value =>
      let (outcome, state) := (s.write name value).run state
      (outcome.map fun _ => .null, s, state)
  | .finish =>
      let (outcome, state) := s.result.run state
      (outcome, s.close, state)

/-- Carries out commands one after the other, whatever their outcomes. -/
def performAll (s : Session σ) : List SessionCommand → σ →
    List (Except Failure Value) × Session σ × σ
  | [], state => ([], s, state)
  | command :: rest, state =>
      let (outcome, s, state) := s.perform command state
      let (outcomes, s, state) := s.performAll rest state
      (outcome :: outcomes, s, state)

/-- Writes properties in order, up to the first failure. -/
def writeAll (s : Session σ) : List (String × Value) → Action σ Unit
  | [] => pure ()
  | (name, value) :: rest => do
      s.write name value
      s.writeAll rest

end Session

def Binding.construct {σ : Type} (b : Binding σ) (values : List (String × Value)) :
    Action σ Value := do
  let session ← b.open
  session.writeAll values
  session.result

end RecordBinding
