import RecordBinding.Registrations.Violation
import RecordBinding.Text.Blank
import RecordBinding.Toml.Document

namespace RecordBinding

open Toml (Document Table)

/-- A registration as a document gives it, by references. -/
structure RegistrationEntry where
  definition : String
  immutable : String
  modifiable : Option String
  builder : Option String
  create : Option String
  deriving DecidableEq, Repr

/-- The text before the first colon and the text after it. -/
def splitReference? (reference : List Char) : Option (List Char × List Char) :=
  match reference.dropWhile (· ≠ ':') with
  | _ :: name => some (reference.takeWhile (· ≠ ':'), name)
  | [] => none

/-- Whether a text has a colon with something on both sides of the first one. -/
def isReference (reference : List Char) : Bool :=
  match splitReference? reference with
  | some (module, name) => !module.all Text.isBlank && !name.all Text.isBlank
  | none => false

namespace RegistrationEntry

def keys : List String :=
  ["definition", "immutable", "modifiable", "builder", "create"]

/-- A reference of a document, without the blanks around it. -/
def readReference (d : Document) : Except ViolationKind String :=
  match d with
  | .str given =>
      if isReference given.toList then .ok (Text.trim given)
      else .error (.malformedReference given)
  | _ => .error .notAText

/-- The reference under a key that must be there. -/
def readRequired (t : Table) (key : String) : Except ViolationKind String :=
  match t.get? key with
  | some d => readReference d
  | none => .error .missing

/-- The reference under a key that may be missing or null. -/
def readOptional (t : Table) (key : String) : Except ViolationKind (Option String) :=
  match t.get? key with
  | some .null => .ok none
  | some d => (readReference d).map some
  | none => .ok none

/-- The violation in the reading of a key, if there is one. -/
def violationOf {α : Type} (key : String) : Except ViolationKind α → List Violation
  | .ok _ => []
  | .error kind => [⟨[.key key], kind⟩]

/-- The violations of keys that are not known, in the order of the document. -/
def unknownKeys (known : List String) (t : Table) : List Violation :=
  (t.filter fun entry => !known.contains entry.1).map fun entry => ⟨[.key entry.1], .unknownKey⟩

def ofTable (t : Table) : Except (List Violation) RegistrationEntry :=
  let definition := readRequired t "definition"
  let immutable := readRequired t "immutable"
  let modifiable := readOptional t "modifiable"
  let builder := readOptional t "builder"
  let create := readOptional t "create"
  let unknown := unknownKeys keys t
  match definition, immutable, modifiable, builder, create, unknown with
  | .ok definition, .ok immutable, .ok modifiable, .ok builder, .ok create, [] =>
      .ok { definition, immutable, modifiable, builder, create }
  | _, _, _, _, _, _ =>
      .error (violationOf "definition" definition ++ violationOf "immutable" immutable ++
        violationOf "modifiable" modifiable ++ violationOf "builder" builder ++
        violationOf "create" create ++ unknown)

def ofDocument : Document → Except (List Violation) RegistrationEntry
  | .table t => ofTable t
  | _ => .error [⟨[], .notATable⟩]

/-- The registrations of an array, counted from `n`. -/
def ofItems (n : Nat) : List Document → Except (List Violation) (List RegistrationEntry)
  | [] => .ok []
  | item :: items =>
      match ofDocument item, ofItems (n + 1) items with
      | .ok entry, .ok entries => .ok (entry :: entries)
      | .ok _, .error others => .error others
      | .error violations, .ok _ => .error (violations.map (Violation.below (.index n)))
      | .error violations, .error others =>
          .error (violations.map (Violation.below (.index n)) ++ others)

end RegistrationEntry

/-- The registrations of the top table of a document. -/
def readRegistrations (t : Table) : Except (List Violation) (List RegistrationEntry) :=
  let listed : Except (List Violation) (List RegistrationEntry) :=
    match t.get? "registrations" with
    | none => .ok []
    | some (.array items) => RegistrationEntry.ofItems 0 items
    | some _ => .error [⟨[], .notAnArray⟩]
  match listed, RegistrationEntry.unknownKeys ["registrations"] t with
  | .ok entries, [] => .ok entries
  | .ok _, unknown => .error unknown
  | .error violations, unknown =>
      .error (violations.map (Violation.below (.key "registrations")) ++ unknown)

/-- The registrations of a document, which must be a table. -/
def readRegistrationsDocument : Document → Except (List Violation) (List RegistrationEntry)
  | .table t => readRegistrations t
  | _ => .error [⟨[], .notATable⟩]

end RecordBinding
