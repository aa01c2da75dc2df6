import RecordBinding.Binding.Immutable
import RecordBinding.Binding.Modifiable
import RecordBinding.Cache.Basic

namespace RecordBinding

instance : BEq TypeExpr := ⟨TypeExpr.same⟩

/-- How the types that fall to a registration are bound. -/
structure Registration where
  variant : Variant
  definition : TypeExpr
  implementation : TypeExpr
  factory : Option Attribute

def Registration.bind (u : Universe) (r : Registration) (resolved : TypeExpr) :
    Action World (Binding World) :=
  match r.variant with
  | .immutable => Action.bindImmutable u resolved r.definition r.implementation r.factory
  | .modifiable => Action.bindModifiable u resolved r.definition r.implementation r.factory

/-- The registrations by type, in the order in which the types were first registered. -/
abbrev Registrations := List (TypeExpr × Registration)

namespace Registrations

def get? (rs : Registrations) (t : TypeExpr) : Option Registration :=
  (rs.find? fun entry => entry.1 == t).map (·.2)

/-- Registers a type: in its place when it is registered already, at the end otherwise. -/
def insert (rs : Registrations) (t : TypeExpr) (r : Registration) : Registrations :=
  if rs.any fun entry => entry.1 == t then
    rs.map fun entry => if entry.1 == t then (entry.1, r) else entry
  else rs ++ [(t, r)]

/-- The registration that a raw class falls to: its own, or that of its first direct base that has
one. -/
def select? (rs : Registrations) (u : Universe) (c : ClassId) : Option Registration :=
  (c :: u.classes.directBases c).findSome? fun candidate => rs.get? (.cls candidate)

end Registrations

/-- What a definition is registered with. -/
structure RegistrationRequest where
  definition : TypeExpr
  immutable : TypeExpr
  modifiable : TypeExpr
  builder : Option Attribute
  create : Option Attribute

/-- A registry with a cache of bindings. -/
structure Registry (τ : Type) where
  registrations : Registrations
  cache : Cache TypeExpr (Binding World) τ

/-- Only a class that is no contract can be an implementation. Anything else is written out in the error. -/
def requireConcrete (u : Universe) (role : Role) (t : TypeExpr) : Except Failure Unit :=
  match t.class? with
  | none =>
      match u.surroundings.textFailure? t with
      | some failure => .error failure
      | none => .error (.shape (.notAClass role t))
  | some c =>
      if u.isContract t then .error (.shape (.contract role c.qualname)) else .ok ()

/-- What the surroundings say of an object, unless it is a class. -/
def TypeExpr.unlessClass {α : Type} (t : TypeExpr) (said : Option α) : Option α :=
  if t.class?.isSome then Option.none else said

/-- Only what has a hash can be registered. Classes always have one. -/
def requireKey (u : Universe) (t : TypeExpr) : Except Failure Unit :=
  match t.unlessClass (u.surroundings.hashFailure? t) with
  | some failure => .error failure
  | none => if t.isKey then .ok () else .error (.misuse .typeError)

/-- The name of what is registered, for the report. Classes always have one. -/
def requireName (u : Universe) (t : TypeExpr) : Except Failure String :=
  match t.unlessClass (u.surroundings.attribute? t "__qualname__") with
  | some answer => answer.map fun name => name.toType.plainText u.module
  | none =>
      match t.qualname? with
      | some name => .ok name
      | none => .error (.misuse .attributeError)

/-- What is asked of a request before anything is written. -/
def RegistrationRequest.check (u : Universe) (request : RegistrationRequest) : Except Failure Unit := do
  requireConcrete u .immutable request.immutable
  match request.modifiable with
  | .none => pure ()
  | t => requireConcrete u .modifiable t
  requireKey u request.definition

namespace Registry

variable {τ : Type} [TimeScale τ]

def empty (idleTime now : τ) : Registry τ :=
  ⟨[], Cache.empty idleTime now⟩

/-- A registry with the same registrations and no bindings yet. -/
def fork (r : Registry τ) (now : τ) : Registry τ :=
  { r with cache := Cache.empty r.cache.idleTime now }

def types (r : Registry τ) : List TypeExpr :=
  r.registrations.map (·.1)

/-- Whether the raw class of a type is registered itself. -/
def has (r : Registry τ) (t : TypeExpr) : Bool :=
  (r.registrations.get? (.cls t.erase)).isSome

/-- The registrations after a request whose implementations are concrete. -/
def registerAll (registrations : Registrations) (request : RegistrationRequest) : Registrations :=
  let immutable : Registration :=
    ⟨.immutable, request.definition, request.immutable, request.builder⟩
  let withImmutable :=
    (registrations.insert request.definition immutable).insert request.immutable immutable
  match request.modifiable with
  | .none => withImmutable
  | t => withImmutable.insert t ⟨.modifiable, request.definition, t, request.create⟩

/-- The name of an implementation in a report. -/
def reportedName (t : TypeExpr) : String :=
  t.qualname?.getD "None"

/-- The registry after a request is carried out: no binding is left. -/
def registered (r : Registry τ) (request : RegistrationRequest) : Registry τ :=
  ⟨registerAll r.registrations request, r.cache.clear⟩

/-- The report of a request that is carried out. -/
def registeredReport (request : RegistrationRequest) (name : String) : LogRecord :=
  ⟨.debug, .registry,
    "Registered " ++ name ++ " (immutable=" ++ reportedName request.immutable ++
      ", modifiable=" ++ reportedName request.modifiable ++ ")"⟩

/-- Registers a definition with its implementations and forgets all bindings. The report is made last
and fails when the definition has no name, after everything is registered. -/
def register (u : Universe) (r : Registry τ) (request : RegistrationRequest) :
    Except Failure LogRecord × Registry τ :=
  match request.check u with
  | .error failure => (.error failure, r)
  | .ok _ => ((requireName u request.definition).map (registeredReport request), r.registered request)

/-- The reports of a lookup in the cache. -/
def lookupReports {β : Type} (u : Universe) (t : TypeExpr) (found : Lookup TypeExpr β) :
    List LogRecord :=
  (if found.swept = 0 then []
    else [⟨.debug, .cache, "Evicted " ++ toString found.swept ++ " idle bindings"⟩]) ++
  (if found.expired then
    [⟨.debug, .cache, "Binding for " ++ t.plainText u.module ++ " expired after idle period"⟩]
    else [])

def buildReport (u : Universe) (t : TypeExpr) (stored : Bool) : LogRecord :=
  let name := t.plainText u.module
  if stored then ⟨.debug, .cache, "Cached binding for " ++ name⟩
  else ⟨.debug, .cache, "Dropped binding for " ++ name ++ " built before the cache was cleared"⟩

def report (w : World) (records : List LogRecord) : World :=
  { w with log := w.log ++ records.toArray }

/-- The binding of a type from the cache, or else built and stored there, without other callers: the
clock is read at the start and, when a build succeeds, at its end. -/
def getOrBuild (u : Universe) (r : Registry τ) (registration : Registration) (t : TypeExpr)
    (now later : τ) (w : World) : Except Failure (Binding World) × Registry τ × World :=
  let (found, cache) := r.cache.lookup t now
  let w := report w (lookupReports u t found)
  match found.outcome with
  | .hit binding => (.ok binding, { r with cache }, w)
  | .wait _ => (.error (.misuse (.other "RuntimeError")), { r with cache }, w)
  | .run ticket =>
      match (registration.bind u t).run w with
      | (.ok binding, w) =>
          (.ok binding, { r with cache := cache.publish ticket binding later },
            report w [buildReport u t (cache.isCurrent ticket)])
      | (.error failure, w) => (.error failure, { r with cache := cache.abandon ticket }, w)

/-- The binding of a type, if it falls to a registration. A type that cannot be a key is not looked up,
though the idle bindings are swept. -/
def resolve (u : Universe) (r : Registry τ) (t : TypeExpr) (now later : τ) (w : World) :
    Except Failure (Option (Binding World)) × Registry τ × World :=
  match r.registrations.select? u t.erase with
  | none =>
      (.ok none, r,
        report w [⟨.debug, .registry, "No binding registered for " ++ t.plainText u.module⟩])
  | some registration =>
      if t.isKey then
        let (result, r, w) := r.getOrBuild u registration t now later w
        (result.map some, r, w)
      else
        let swept := r.cache.sweep now
        (.error (.misuse .typeError), { r with cache := swept },
          report w (lookupReports u t
            (⟨.wait 0, r.cache.size - swept.size, false⟩ : Lookup TypeExpr (Binding World))))

end Registry

end RecordBinding
