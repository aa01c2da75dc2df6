import RecordBinding.Application
import RecordBinding.CommandLine.Arguments
import RecordBinding.Log.Root

namespace RecordBinding.CommandLine

/-- The variable that sets the level of the log. -/
def levelVariable : String := "ROWBIND_LOG_LEVEL"

/-- How a run ends: with an exit code, or with a failure that nobody handles. -/
inductive Ending where
  | exit (code : Nat)
  | failed (failure : Failure)

/-- The outcome of a run: its ending, the lines of the log, and the calls made. -/
structure Outcome where
  ending : Ending
  lines : List String
  trace : List String

/-- A text without any occurrence of the name of the module of type forms. -/
def dropTypingNames : List Char → List Char
  | [] => []
  | 't' :: 'y' :: 'p' :: 'i' :: 'n' :: 'g' :: '.' :: rest => dropTypingNames rest
  | c :: rest => c :: dropTypingNames rest

/-- How a type is called in a description: a class by its name, any other type by its written form. -/
def typeLabel (u : Universe) : TypeExpr → String
  | .cls c => c.qualname
  | t => String.ofList (dropTypingNames (t.text u.module).toList)

/-- The line of a description about one property. -/
def accessorLine {σ : Type} (u : Universe) (a : Accessor σ) : String :=
  "  " ++ a.name ++ ": " ++ typeLabel u a.type ++
    (if a.tracksPresence then " (presence tracked)" else "")

/-- Says something about the work of the inspector. -/
def say (severity : Severity) (message : String) : RegistryAction Number Unit :=
  RegistryAction.onWorld (Action.log severity .commandLine message)

/-- The name of a type that is said in a line. -/
def nameOf (t : TypeExpr) : RegistryAction Number String :=
  match t.qualname? with
  | some name => pure name
  | none => throw (.misuse .attributeError)

/-- Describes the type of a reference; tells whether it can be bound. -/
def describe (u : Universe) (now later : Number) (reference : String) :
    RegistryAction Number Bool := do
  let found ← RegistryAction.onWorld (u.importReference reference)
  match ← RegistryAction.resolve u found.toValue.toType now later with
  | none =>
      say .warning (reference ++ ": no binding registered")
      return false
  | some b =>
      let implementation ← nameOf b.implementation
      say .info (reference ++ ": " ++ b.variant.name ++ " binding via " ++ implementation)
      for a in b.accessors do
        say .info (accessorLine u a)
      return true

/-- Describes the types of several references; tells whether all can be bound. The readings of the clock are
counted from `n`. -/
def describeAll (u : Universe) (clock : Nat → Number) (n : Nat) :
    List String → RegistryAction Number Bool
  | [] => pure true
  | reference :: rest => do
      let first ← describe u (clock n) (clock (n + 1)) reference
      let others ← describeAll u clock (n + 2) rest
      return first && others

/-- Binds types in order, up to the first that cannot be bound; tells whether there was none. -/
def checkTypes (u : Universe) (clock : Nat → Number) (n : Nat) :
    List TypeExpr → RegistryAction Number Bool
  | [] => pure true
  | t :: rest => do
      match ← RegistryAction.resolve u t (clock n) (clock (n + 1)) with
      | none =>
          say .warning ((← nameOf t) ++ ": no binding registered")
          return false
      | some b =>
          say .info ((← nameOf t) ++ ": " ++ toString b.accessors.length ++ " properties")
          checkTypes u clock (n + 2) rest

/-- Binds every registered type. -/
def check (u : Universe) (clock : Nat → Number) : RegistryAction Number Bool := do
  checkTypes u clock 0 (← get).1.types

def Command.perform (u : Universe) (clock : Nat → Number) : Command → RegistryAction Number Bool
  | .describe references => describeAll u clock 0 references
  | .check => CommandLine.check u clock

/-- The ending after a failure: one of the configuration is reported and ends the run with a code, any
other one goes unhandled. -/
def endingOf (w : World) (failure : Failure) (report : String) (code : Nat) : Ending × World :=
  if failure.kind.isConfiguration then
    (.exit code, Registry.report w [⟨.error, .commandLine, report⟩])
  else (.failed failure, w)

/-- Sets up the registry and carries out the command. -/
def runCommand (u : Universe) (env : Environment) (files : String → RegistrationsFile)
    (arguments : Arguments) : Ending × World :=
  match (buildRegistry u env none (some (files arguments.config)) (.int 0)).run {} with
  | (.error failure, w) => endingOf w failure "Invalid registrations" 2
  | (.ok r, w) =>
      match (arguments.command.perform u fun _ => .int 0).run (r, w) with
      | (.error failure, (_, w)) => endingOf w failure "Binding discovery failed" 1
      | (.ok allBound, (_, w)) => (.exit (if allBound then 0 else 1), w)

/-- The level of the log: the one asked for, else that of the environment, else `INFO`. -/
def chooseLevel (env : Environment) (asked : Option String) : LevelRequest :=
  match asked with
  | some "" => .named (env.readText levelVariable "INFO")
  | some name => .named name
  | none => .named (env.readText levelVariable "INFO")

/-- The lines of the records that a level lets through. -/
def visibleLines (level : Int) (w : World) : List String :=
  (w.log.toList.filter fun r => level ≤ r.severity.level).map LogRecord.line

/-- Runs the inspector on the words of a command line. -/
def run (u : Universe) (env : Environment) (files : String → RegistrationsFile)
    (words : List String) : Outcome :=
  match Arguments.parse words with
  | .error .help => ⟨.exit 0, [], []⟩
  | .error .usage => ⟨.exit 2, [], []⟩
  | .ok arguments =>
      match LogRoot.configure ⟨30, []⟩ (chooseLevel env arguments.logLevel) false with
      | .error _ => ⟨.exit 2, [], []⟩
      | .ok root =>
          let (ending, w) := runCommand u env files arguments
          ⟨ending, visibleLines root.level w, w.trace.toList⟩

end RecordBinding.CommandLine
