import RecordBinding.Registrations.Loading
import RecordBinding.Settings.IdleTime

namespace RecordBinding

/-- A file of registrations: its path as shown in messages, and what is found there. -/
structure RegistrationsFile where
  path : String
  content : FileContent

/-- The idle time that is given, else that of the environment. -/
def chooseIdleTime (env : Environment) (given : Option Number) : Except ConfigurationError Number :=
  match given with
  | some seconds => IdleTime.ofNumber seconds
  | none => IdleTime.ofEnvironment env

/-- Applies the registrations of a file and reports how many types are registered. -/
def applyFile (u : Universe) (file : RegistrationsFile) : RegistryAction Number Unit := do
  let entries ← Action.ofExcept (loadRegistrations u.surroundings file.path file.content)
  RegistryAction.applyRegistrations u entries
  let count := (← get).1.types.length
  RegistryAction.onWorld (Action.log .info .application
    ("Loaded " ++ toString count ++ " registered types from " ++ file.path))

/-- A registry set up from an environment and, where there is one, a file. -/
def buildRegistry (u : Universe) (env : Environment) (idleTime : Option Number)
    (file : Option RegistrationsFile) (now : Number) : Action World (Registry Number) := do
  let seconds ← Action.ofExcept ((chooseIdleTime env idleTime).mapError .configuration)
  let empty : Registry Number := Registry.empty seconds now
  match file with
  | none => return empty
  | some file =>
      fun w =>
        match (applyFile u file).run (empty, w) with
        | (.ok _, (r, w)) => (.ok r, w)
        | (.error failure, (_, w)) => (.error failure, w)

end RecordBinding
