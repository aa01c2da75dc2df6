namespace RecordBinding

/-- The classes of errors that are caught somewhere. An error is caught by each of the classes that its own
class descends from. -/
inductive ErrorFamily where
  | type
  | attribute
  | lookup
  | value
  | construction
  | configuration
  deriving DecidableEq, Repr

/-- A kind of error. The kinds of the first group say that a value does not have the shape that was
expected of it; the second group are the library's own; any other kind has a name and the families that it
belongs to. -/
inductive ErrorKind where
  | typeError
  | attributeError
  | lookupError
  | keyError
  | indexError
  | valueError
  | unicodeError
  | unicodeDecodeError
  | construction
  | unknownProperty
  | sessionClosed
  | configuration
  | invalidConfiguration
  | shape
  | mapping
  | other (name : String) (families : List ErrorFamily := [])
  deriving DecidableEq, Repr

/-- A value that is not what was expected shows in errors of these families. -/
def ErrorFamily.isStructural : ErrorFamily → Bool
  | .type => true
  | .attribute => true
  | .lookup => true
  | .value => true
  | _ => false

namespace ErrorKind

def name : ErrorKind → String
  | typeError => "TypeError"
  | attributeError => "AttributeError"
  | lookupError => "LookupError"
  | keyError => "KeyError"
  | indexError => "IndexError"
  | valueError => "ValueError"
  | unicodeError => "UnicodeError"
  | unicodeDecodeError => "UnicodeDecodeError"
  | construction => "ConstructionError"
  | unknownProperty => "UnknownPropertyError"
  | sessionClosed => "SessionClosedError"
  | configuration => "ConfigurationError"
  | invalidConfiguration => "InvalidConfigurationError"
  | shape => "BindingConfigurationError"
  | mapping => "MappingError"
  | other name _ => name

def families : ErrorKind → List ErrorFamily
  | typeError => [.type]
  | attributeError => [.attribute]
  | lookupError => [.lookup]
  | keyError => [.lookup]
  | indexError => [.lookup]
  | valueError => [.value]
  | unicodeError => [.value]
  | unicodeDecodeError => [.value]
  | construction => [.construction]
  | unknownProperty => [.construction]
  | sessionClosed => [.construction]
  | configuration => [.configuration]
  | invalidConfiguration => [.configuration]
  | shape => [.configuration]
  | mapping => []
  | other _ families => families

/-- The kinds that have a constructor of their own. -/
def named : List ErrorKind :=
  [typeError, attributeError, lookupError, keyError, indexError, valueError, unicodeError,
    unicodeDecodeError, construction, unknownProperty, sessionClosed, configuration,
    invalidConfiguration, shape, mapping]

/-- The families of the other kinds of the language and its libraries that belong to any. -/
def familiesOfOthers : List (String × List ErrorFamily) :=
  [("UnicodeEncodeError", [.value]), ("UnicodeTranslateError", [.value]),
    ("UnsupportedOperation", [.value]), ("JSONDecodeError", [.value]), ("TOMLDecodeError", [.value]),
    ("ValidationError", [.value]), ("FrozenInstanceError", [.attribute]),
    ("NoSuchColumnError", [.lookup])]

def ofName (name : String) : ErrorKind :=
  (named.find? fun kind => kind.name == name).getD
    (other name ((familiesOfOthers.lookup name).getD []))

/-- Failures of a value to behave like the shape that was discovered for it. -/
def isStructural (kind : ErrorKind) : Bool :=
  kind.families.any ErrorFamily.isStructural

/-- Failures of a construction that already say which step failed. -/
def isConstruction (kind : ErrorKind) : Bool :=
  kind.families.contains .construction

def isConfiguration (kind : ErrorKind) : Bool :=
  kind.families.contains .configuration

def isAttribute (kind : ErrorKind) : Bool :=
  kind.families.contains .attribute

end ErrorKind

end RecordBinding
