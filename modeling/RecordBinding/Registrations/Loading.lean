import RecordBinding.Error
import RecordBinding.Registrations.Reference
import RecordBinding.Registry.Resolution
import RecordBinding.Toml.Reader

namespace RecordBinding

/-- What is found at a path. -/
inductive FileContent where
  | missing
  | directory
  | bytes (content : List UInt8)

def decodeText? (content : List UInt8) : Option String :=
  String.fromUTF8? (ByteArray.mk content.toArray)

/-- The registrations of a file. The path serves the messages. -/
def loadRegistrations (surroundings : Surroundings) (path : String) (file : FileContent) :
    Except Failure (List RegistrationEntry) :=
  match file with
  | .missing => .error (.configuration (.noSuchFile path))
  | .directory => .error (.misuse (.other "IsADirectoryError"))
  | .bytes content =>
      match decodeText? content with
      | none => .error (.misuse .unicodeDecodeError)
      | some text =>
          match surroundings.readFailure? text, Toml.read text with
          | some failure, _ => .error failure
          | none, .error .malformed => .error (.configuration (.malformedFile path))
          | none, .error .tooManyDigits => .error (.misuse .valueError)
          | none, .ok table =>
              match readRegistrations table with
              | .ok entries => .ok entries
              | .error violations => .error (.configuration (.invalidFile path violations))

namespace RegistryAction

variable {τ : Type}

/-- Registers what a document lists, up to the first failure. -/
def applyEntries (u : Universe) : List RegistrationEntry → RegistryAction τ Unit
  | [] => pure ()
  | entry :: rest => do
      let request ← onWorld (u.importEntry entry)
      register u request
      applyEntries u rest

/-- Registers all that a document lists and reports it. -/
def applyRegistrations (u : Universe) (entries : List RegistrationEntry) : RegistryAction τ Unit := do
  applyEntries u entries
  onWorld (Action.log .debug .registrations
    ("Applied " ++ toString entries.length ++ " registrations"))

end RegistryAction

end RecordBinding
