import RecordBinding.CommandLine.Inspector

namespace RecordBinding.CommandLine

/-- The file at a path. A path that cannot be read as a file counts as a directory unless nothing is
there. -/
def readFile (path : String) : IO RegistrationsFile := do
  try
    let content ← IO.FS.readBinFile path
    return ⟨path, .bytes content.toList⟩
  catch
    | .noFileOrDirectory .. => return ⟨path, .missing⟩
    | _ => return ⟨path, .directory⟩

/-- The settings of the environment that the inspector takes account of. -/
def readEnvironment : IO Environment := do
  let mut env : Environment := []
  for name in [IdleTime.variableName, levelVariable] do
    if let some value ← IO.getEnv name then
      env := (name, value) :: env
  return env

/-- The short description that is written on request. -/
def usage : String :=
  "usage: [--log-level LEVEL] (describe --config FILE REFERENCE... | check --config FILE)"

/-- Inspects a module as the words of a command line say; gives the exit code. -/
def inspect (m : ModuleDeclaration) (words : List String) : IO UInt32 := do
  match Arguments.parse words with
  | .error .help =>
      IO.println usage
      return 0
  | .error .usage =>
      IO.eprintln usage
      return 2
  | .ok arguments =>
      let file ← readFile arguments.config
      let u := m.toUniverse
      let outcome := CommandLine.run u (← readEnvironment) (fun _ => file) words
      for line in outcome.lines do
        IO.eprintln line
      match outcome.ending with
      | .exit code => return code.toUInt32
      | .failed failure =>
          IO.eprintln failure.kind.name
          return 1

/-- The module of a program without declarations. -/
def emptyModule : ModuleDeclaration :=
  { name := "main", types := [], classes := [], functions := [], values := [] }

end RecordBinding.CommandLine

/-- Inspects the empty module. A program with declarations of its own calls `inspect` with its module. -/
def main (words : List String) : IO UInt32 :=
  RecordBinding.CommandLine.inspect RecordBinding.CommandLine.emptyModule words
