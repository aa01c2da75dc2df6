import RecordBinding.Registry.Basic

namespace RecordBinding

/-- An action on a registry and the world it inspects. -/
abbrev RegistryAction (τ : Type) := Action (Registry τ × World)

namespace RegistryAction

variable {τ α : Type}

def onWorld (action : Action World α) : RegistryAction τ α :=
  fun (r, w) =>
    let (result, w) := action.run w
    (result, (r, w))

/-- The binding of a type, if it falls to a registration. The clock is read when the type is looked up, and
later when a binding that was built is stored. -/
def resolve [TimeScale τ] (u : Universe) (t : TypeExpr) (now later : τ) :
    RegistryAction τ (Option (Binding World)) :=
  fun (r, w) =>
    let (result, r, w) := r.resolve u t now later w
    (result, (r, w))

/-- Whether a type has a binding in the cache at a clock reading. -/
def hasCached [TimeScale τ] (t : TypeExpr) (now : τ) : RegistryAction τ Bool := do
  if t.isKey then return (← get).1.cache.has t now
  else throw (.misuse .typeError)

/-- Forgets the binding of a type. -/
def invalidate [TimeScale τ] (t : TypeExpr) : RegistryAction τ Unit := do
  if t.isKey then modify fun (r, w) => ({ r with cache := r.cache.invalidate t }, w)
  else throw (.misuse .typeError)

/-- Forgets all bindings. -/
def clear [TimeScale τ] : RegistryAction τ Unit :=
  modify fun (r, w) => ({ r with cache := r.cache.clear }, w)

/-- Registers a definition, with the report that it is registered. -/
def register (u : Universe) (request : RegistrationRequest) : RegistryAction τ Unit :=
  fun (r, w) =>
    match r.register u request with
    | (.ok record, r) => (.ok (), (r, Registry.report w [record]))
    | (.error failure, r) => (.error failure, (r, w))

end RegistryAction

end RecordBinding
