import RecordBinding.CommandLine.Options

namespace RecordBinding.CommandLine

/-- What to do: describe the types of some references, or check all registered types. -/
inductive Command where
  | describe (references : List String)
  | check
  deriving DecidableEq, Repr

structure Arguments where
  logLevel : Option String
  command : Command
  config : String
  deriving DecidableEq, Repr

def helpFlag : Flag := ⟨["-h", "--help"], false⟩

def levelFlag : Flag := ⟨["--log-level"], true⟩

def configFlag : Flag := ⟨["--config"], true⟩

/-- The value that a command cannot do without. -/
def required {α : Type} : Option α → Except EarlyEnd α
  | some value => .ok value
  | none => .error .usage

/-- The command with its configuration file, and whether all its words were of use. -/
def Command.parse (name : String) (words : List String) :
    Except EarlyEnd (Command × String × Bool) := do
  match name with
  | "describe" =>
      let p ← CommandLine.parse [helpFlag, configFlag] .arguments words
      let config ← required (p.value? configFlag)
      let references ← required p.arguments
      return (.describe references, config, p.extras.isEmpty)
  | "check" =>
      let p ← CommandLine.parse [helpFlag, configFlag] .nothing words
      let config ← required (p.value? configFlag)
      return (.check, config, p.extras.isEmpty)
  | _ => .error .usage

/-- The arguments of a command line. Words without use are only complained about at the end. -/
def Arguments.parse (words : List String) : Except EarlyEnd Arguments := do
  let p ← CommandLine.parse [helpFlag, levelFlag] .command words
  match ← required p.arguments with
  | [] => .error .usage
  | name :: rest =>
      let (command, config, allUsed) ← Command.parse name rest
      if allUsed && p.extras.isEmpty then
        return { logLevel := p.value? levelFlag, command, config }
      else .error .usage

end RecordBinding.CommandLine
