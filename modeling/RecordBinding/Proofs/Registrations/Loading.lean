import RecordBinding.Application
import RecordBinding.Proofs.Object.Loop
import RecordBinding.Proofs.Registrations.Reference

namespace RecordBinding

/-- The references of a registration in the order in which they are imported. -/
def RegistrationEntry.references (entry : RegistrationEntry) : List String :=
  entry.definition :: entry.immutable ::
    (entry.modifiable.toList ++ entry.builder.toList ++ entry.create.toList)

section Reading

open RegistrationEntry

end Reading

section Importing

variable {u : Universe} {entry : RegistrationEntry} {failure : Failure}

namespace Universe

/-- References are imported one after the other; their paths may run properties of instances. -/
abbrev Imports (u : Universe) : List String → World → World → Prop :=
  Steps fun reference w w' => ∃ object, (u.importReference reference).run w = (.ok object, w')

end Universe

end Importing

section Registering

variable {u : Universe} {t : TypeExpr} {request : RegistrationRequest} {failure : Failure}

/-- What is no class cannot be written out for the error that says so. -/
def IsUnwritable (u : Universe) (t : TypeExpr) (failure : Failure) : Prop :=
  t.unlessClass (u.surroundings.textFailure? t) = some failure

/-- An object cannot be a key: it raises something when it is asked for its hash, or it has none. -/
inductive IsUnhashable (u : Universe) (t : TypeExpr) : Failure → Prop
  | raises {failure : Failure} (h : t.unlessClass (u.surroundings.hashFailure? t) = some failure) :
      IsUnhashable u t failure
  | noKey (h : t.unlessClass (u.surroundings.hashFailure? t) = none) (hkey : t.isKey = false) :
      IsUnhashable u t (.misuse .typeError)

/-- An object has no name to report: it raises something when it is asked for one, or it has none. -/
inductive IsUnnamed (u : Universe) (t : TypeExpr) : Failure → Prop
  | raises {failure : Failure}
      (h : t.unlessClass (u.surroundings.attribute? t "__qualname__") = some (.error failure)) :
      IsUnnamed u t failure
  | nameless (h : t.unlessClass (u.surroundings.attribute? t "__qualname__") = none)
      (hname : t.qualname? = none) : IsUnnamed u t (.misuse .attributeError)

namespace RegistrationRequest

/-- The implementations of a request are classes and no contracts. -/
def IsConcrete (u : Universe) (request : RegistrationRequest) : Prop :=
  requireConcrete u .immutable request.immutable = .ok () ∧
    (request.modifiable = .none ∨ requireConcrete u .modifiable request.modifiable = .ok ())

/-- A request fails for a reason that is none of the configuration: an implementation that is no class cannot
be written out, or the definition cannot be a key, or it is registered but has no name to report. -/
inductive Fails (u : Universe) (request : RegistrationRequest) : Failure → Prop
  | immutable {failure : Failure} (h : IsUnwritable u request.immutable failure) :
      Fails u request failure
  | modifiable {failure : Failure}
      (himmutable : requireConcrete u .immutable request.immutable = .ok ())
      (hgiven : request.modifiable ≠ .none) (h : IsUnwritable u request.modifiable failure) :
      Fails u request failure
  | unhashable {failure : Failure} (hconcrete : request.IsConcrete u)
      (h : IsUnhashable u request.definition failure) : Fails u request failure
  | unnamed {failure : Failure} (hconcrete : request.IsConcrete u)
      (hkey : requireKey u request.definition = .ok ()) (h : IsUnnamed u request.definition failure) :
      Fails u request failure

end RegistrationRequest

end Registering

namespace RegistrationEntry

/-- A registration of a file goes through. What its references name may change the world when it is looked up,
and the registration is reported. -/
def Registers (u : Universe) (entry : RegistrationEntry) (w w' : World) : Prop :=
  ∃ request name w₁, (u.importEntry entry).run w = (.ok request, w₁) ∧ request.check u = .ok () ∧
    requireName u request.definition = .ok name ∧
      w' = Registry.report w₁ [Registry.registeredReport request name]

/-- A registration of a file fails with an error that is none of the configuration: with that of its first
reference that cannot be imported, or with that of its request. -/
inductive Escapes (u : Universe) (entry : RegistrationEntry) (w : World) : Failure → Prop
  | reference {earlier : List String} {reference : String} {later : List String} {w₁ : World}
      {failure : Failure} (hreferences : entry.references = earlier ++ reference :: later)
      (hearlier : u.Imports earlier w w₁) (hfails : u.ReferenceFails reference w₁ failure) :
      Escapes u entry w failure
  | request {request : RegistrationRequest} {w₁ : World} {failure : Failure}
      (hrequest : (u.importEntry entry).run w = (.ok request, w₁)) (hfails : request.Fails u failure)
      (hkind : failure.kind.isConfiguration = false) : Escapes u entry w failure

end RegistrationEntry

/-- A file of registrations fails with an error that is none of the configuration: its bytes are no text, or
its text cannot be read for want of resources, or it writes an integer of too many digits before anything
malformed, or the first of its registrations that fails does so. -/
inductive RegistrationsFile.Escapes (u : Universe) (file : RegistrationsFile) (w : World) :
    Failure → Prop
  | notText {content : List UInt8} (hcontent : file.content = .bytes content)
      (htext : decodeText? content = none) : Escapes u file w (.misuse .unicodeDecodeError)
  | unreadable {content : List UInt8} {text : String} {failure : Failure}
      (hcontent : file.content = .bytes content) (htext : decodeText? content = some text)
      (hread : u.surroundings.readFailure? text = some failure)
      (hkind : failure.kind.isConfiguration = false) : Escapes u file w failure
  | tooManyDigits {content : List UInt8} {text : String} (hcontent : file.content = .bytes content)
      (htext : decodeText? content = some text) (hreadable : u.surroundings.readFailure? text = none)
      (hread : Toml.read text = .error .tooManyDigits) : Escapes u file w (.misuse .valueError)
  | entry {earlier : List RegistrationEntry} {entry : RegistrationEntry} {later : List RegistrationEntry}
      {w₁ : World} {failure : Failure}
      (hload : loadRegistrations u.surroundings file.path file.content = .ok (earlier ++ entry :: later))
      (hearlier : Steps (RegistrationEntry.Registers u) earlier w w₁)
      (hentry : entry.Escapes u w₁ failure) : Escapes u file w failure

section Applying

variable {τ : Type} {u : Universe} {entry : RegistrationEntry} {request : RegistrationRequest}
  {failure : Failure}

end Applying

end RecordBinding
