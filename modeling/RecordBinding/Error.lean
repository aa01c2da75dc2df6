import RecordBinding.Object.ErrorKind
import RecordBinding.Registrations.Violation
import RecordBinding.TypeExpr.Text

namespace RecordBinding

inductive Operation where
  | create
  | set
  | build
  | get
  | isSet
  deriving DecidableEq, Repr

namespace Operation

def name : Operation → String
  | create => "create"
  | set => "set"
  | build => "build"
  | get => "get"
  | isSet => "is_set"

def ofName? (n : String) : Option Operation :=
  [create, set, build, get, isSet].find? fun operation => operation.name == n

end Operation

/-- What is wrong with a construction: the name is no property, the session is over, or a step failed
because of an error of the given kind. -/
inductive ConstructionFault where
  | unknownProperty
  | sessionClosed
  | stepFailed (cause : Option ErrorKind)
  deriving DecidableEq, Repr

/-- A failed step of a construction: what it was to do, on what, and for which property. -/
structure ConstructionError where
  fault : ConstructionFault
  operation : Operation
  target : TypeExpr
  property : Option String

namespace ConstructionError

def kind (e : ConstructionError) : ErrorKind :=
  match e.fault with
  | .unknownProperty => .unknownProperty
  | .sessionClosed => .sessionClosed
  | .stepFailed _ => .construction

def cause? (e : ConstructionError) : Option ErrorKind :=
  match e.fault with
  | .stepFailed cause => cause
  | _ => none

/-- The property as part of a message; an empty name counts as none. -/
def subject (property : Option String) : String :=
  match property with
  | some "" => ""
  | some name => "property '" ++ name ++ "' of "
  | none => ""

def message (module : String) (e : ConstructionError) : String :=
  match e.fault with
  | .unknownProperty =>
      e.target.text module ++ " has no property '" ++ e.property.getD "" ++ "'"
  | .sessionClosed => "Construction of " ++ e.target.text module ++ " already finished"
  | .stepFailed _ =>
      "Couldn't " ++ e.operation.name ++ " " ++ subject e.property ++ e.target.nameOrText module

end ConstructionError

/-- The two implementations that a definition is registered with. -/
inductive Role where
  | immutable
  | modifiable
  deriving DecidableEq, Repr

def Role.name : Role → String
  | immutable => "immutable"
  | modifiable => "modifiable"

/-- Why a class does not have the shape that its variant of binding requires. Classes are given by
their names. -/
inductive ShapeError where
  | noFactory (implementation factory : String)
  | factoryTakesArguments (implementation factory : String)
  | builderFactoryFailed (implementation : String) (cause : ErrorKind)
  | noBuild (builder : String)
  | wrongBuild (builder : String) (produced : TypeExpr) (implementation : String)
  | noBuilderSetter (builder property definition : String)
  | noSetter (implementation setter : String)
  | setterAccepts (implementation setter : String) (accepted : TypeExpr) (property : String)
      (type : TypeExpr)
  | setterReturns (implementation setter : String) (returned : TypeExpr)
  | badProbe (implementation probe : String)
  | notAClass (role : Role) (given : TypeExpr)
  | contract (role : Role) (given : String)

namespace ShapeError

/-- The beginning of the messages about one class. -/
def inspecting (name rest : String) : String :=
  "Failed to inspect " ++ name ++ ": " ++ rest

def message (module : String) : ShapeError → String
  | noFactory implementation factory =>
      inspecting implementation ("expected a static or class method " ++ factory ++ "()")
  | factoryTakesArguments implementation factory =>
      inspecting implementation (factory ++ "() must take no arguments")
  | builderFactoryFailed implementation _ => inspecting implementation "builder factory failed"
  | noBuild builder => inspecting builder "expected a build() method"
  | wrongBuild builder produced implementation =>
      builder ++ ".build() returns " ++ produced.nameOrText module ++ ", not " ++ implementation
  | noBuilderSetter builder property definition =>
      inspecting builder ("no single-argument setter " ++ property ++ "() for " ++ definition)
  | noSetter implementation setter =>
      inspecting implementation ("no single-argument setter " ++ setter ++ "()")
  | setterAccepts implementation setter accepted property type =>
      implementation ++ "." ++ setter ++ "() accepts " ++ accepted.text module ++ ", property '" ++
        property ++ "' is " ++ type.text module
  | setterReturns implementation setter returned =>
      implementation ++ "." ++ setter ++ "() returns " ++ returned.nameOrText module ++ ", not " ++
        implementation
  | badProbe implementation probe =>
      inspecting implementation (probe ++ " must be a zero-argument method")
  | notAClass role given =>
      "The " ++ role.name ++ " implementation must be a class, got " ++ given.text module
  | contract role given =>
      "Register the concrete " ++ role.name ++ " implementation, not the contract " ++ given

/-- The kind of the error that lies behind a shape error. -/
def cause? : ShapeError → Option ErrorKind
  | builderFactoryFailed _ cause => some cause
  | _ => none

end ShapeError

/-- Why rows cannot be mapped. -/
inductive MappingError where
  | notRegistered (target : TypeExpr)
  | noMatchingColumn (target : TypeExpr) (columns : List String)

def MappingError.message (module : String) : MappingError → String
  | notRegistered target => "No property binding registered for " ++ target.text module
  | noMatchingColumn target columns =>
      "Mapping " ++ target.text module ++ " didn't find any matching columns in [" ++
        ", ".intercalate (columns.map Text.quote) ++ "]"

/-- Why a configuration cannot be used. -/
inductive ConfigurationError where
  | idleTimeNotPositive (given : Number)
  | notANumber (setting given : String)
  | unknownLogLevel (given : String)
  | noSuchModule (name : String)
  | unresolvedReference (reference : String)
  | noSuchFile (path : String)
  | malformedFile (path : String)
  | invalidFile (path : String) (violations : List Violation)

namespace ConfigurationError

def message : ConfigurationError → String
  | idleTimeNotPositive given => "Binding cache idle TTL must be positive, got " ++ given.text
  | notANumber setting given => setting ++ " must be a number, got " ++ Text.quote given
  | unknownLogLevel given => "Unknown log level " ++ Text.quote given
  | noSuchModule name => "Cannot import module " ++ Text.quote name
  | unresolvedReference reference => "Cannot resolve " ++ Text.quote reference
  | noSuchFile path => "Registrations file not found: " ++ path
  | malformedFile path => "Invalid TOML in " ++ path
  | invalidFile path _ => "Invalid registrations in " ++ path ++ ":"

/-- Whether a value is present but unusable, as opposed to something missing. -/
def kind : ConfigurationError → ErrorKind
  | noSuchModule _ => .configuration
  | unresolvedReference _ => .configuration
  | noSuchFile _ => .configuration
  | _ => .invalidConfiguration

/-- The kind of the error that lies behind a configuration error. -/
def cause? : ConfigurationError → Option ErrorKind
  | notANumber _ _ => some .valueError
  | noSuchModule _ => some (.other "ModuleNotFoundError")
  | unresolvedReference _ => some .attributeError
  | noSuchFile _ => some (.other "FileNotFoundError")
  | malformedFile _ => some (.other "TOMLDecodeError" [.value])
  | invalidFile _ _ => some (.other "ValidationError" [.value])
  | _ => none

end ConfigurationError

/-- How an action may fail: with an error that a declared body raised, with an error that comes of using
a value for what it is not, or with an error of the library. -/
inductive Failure where
  | raised (kind : ErrorKind) (message : String)
  | misuse (kind : ErrorKind)
  | construction (e : ConstructionError)
  | shape (e : ShapeError)
  | mapping (e : MappingError)
  | configuration (e : ConfigurationError)

namespace Failure

def kind : Failure → ErrorKind
  | raised kind _ => kind
  | misuse kind => kind
  | construction e => e.kind
  | shape _ => .shape
  | mapping _ => .mapping
  | configuration e => e.kind

end Failure

end RecordBinding
