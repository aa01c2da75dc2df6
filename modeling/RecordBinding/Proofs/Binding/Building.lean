import RecordBinding.Proofs.Object.Agreement
import RecordBinding.Registry.Basic

namespace RecordBinding

/-- An accessor as both variants make it for a declared property. -/
structure Accessor.IsFor (u : Universe) (a : Accessor World) (p : DeclaredProperty) : Prop where
  name : a.name = p.name
  getter : a.getter = Action.readProperty u p.name p.isAttribute
  truth : a.truth = Action.truthOf u

/-- A binding that a registration made. -/
def Binding.IsMade (u : Universe) (b : Binding World) : Prop :=
  ∃ registration : Registration, ∃ t w w', (registration.bind u t).run w = (.ok b, w')

namespace Action

variable {u : Universe} {resolved definition implementation : TypeExpr}
  {given : Option Attribute} {w w' : World} {b : Binding World}

theorem discover_ok {declared : List DeclaredProperty}
    (h : (discover u resolved definition).run w = (.ok declared, w')) :
    u.discover resolved definition = .ok declared := by
  unfold discover at h
  obtain ⟨found, w₁, hfound, h⟩ := run_bind_ok h
  obtain ⟨-, w₂, -, h⟩ := run_bind_ok h
  obtain ⟨-, w₃, -, h⟩ := run_bind_ok h
  cases h
  exact run_ofExcept_ok hfound

theorem bindImmutable_ok
    (h : (bindImmutable u resolved definition implementation given).run w = (.ok b, w')) :
    ∃ factory builderId build declared,
      (∃ w₁, (chooseFactory u given implementation "builder").run w = (.ok factory, w₁)) ∧
      (∃ w₁ w₂, (builderClass u factory implementation).run w₁ = (.ok builderId, w₂)) ∧
      (∃ w₁ w₂, (findBuild u builderId implementation).run w₁ = (.ok build, w₂)) ∧
      u.discover resolved definition = .ok declared ∧ b.builderClass = some builderId ∧
      b.start = factory.call u [] ∧
      b.finish = some (fun target => callFunction u build [target]) ∧
      List.Forall₂ (fun p a => a.IsFor u p ∧ a.probe = none ∧
        u.builderSetter builderId definition p = .ok a.setter) declared b.accessors := by
  unfold bindImmutable at h
  obtain ⟨factory, w₁, hfactory, h⟩ := run_bind_ok h
  obtain ⟨builderId, w₂, hbuilder, h⟩ := run_bind_ok h
  obtain ⟨build, w₃, hbuild, h⟩ := run_bind_ok h
  obtain ⟨declared, w₄, hdeclared, h⟩ := run_bind_ok h
  obtain ⟨accessors, w₅, haccessors, h⟩ := run_bind_ok h
  obtain ⟨serial, w₆, -, h⟩ := run_bind_ok h
  cases h
  refine ⟨factory, builderId, build, declared, ⟨w₁, hfactory⟩, ⟨w₁, w₂, hbuilder⟩,
    ⟨w₂, w₃, hbuild⟩, discover_ok hdeclared, rfl, rfl, rfl, (run_mapM_ok haccessors).imp ?_⟩
  rintro p a ⟨t, t', ha⟩
  obtain ⟨setter, t'', hsetter, ha⟩ := run_bind_ok ha
  cases ha
  exact ⟨⟨rfl, rfl, rfl⟩, rfl, run_ofExcept_ok hsetter⟩

theorem bindModifiable_ok
    (h : (bindModifiable u resolved definition implementation given).run w = (.ok b, w')) :
    ∃ factory declared,
      (∃ w₁, (chooseFactory u given implementation "create").run w = (.ok factory, w₁)) ∧
      u.discover resolved definition = .ok declared ∧
      b.start = factory.call u [] ∧ b.finish = none ∧
      List.Forall₂ (fun p a => a.IsFor u p ∧
        u.findProbe implementation p.name = .ok a.probe ∧
        ∃ setter w₁ w₂, (findSetter u implementation p).run w₁ = (.ok setter, w₂) ∧
          a.setter = fun target value => discard (callFunction u setter [target, value]))
        declared b.accessors := by
  unfold bindModifiable at h
  obtain ⟨factory, w₁, hfactory, h⟩ := run_bind_ok h
  obtain ⟨declared, w₂, hdeclared, h⟩ := run_bind_ok h
  obtain ⟨accessors, w₃, haccessors, h⟩ := run_bind_ok h
  obtain ⟨serial, w₄, -, h⟩ := run_bind_ok h
  cases h
  refine ⟨factory, declared, ⟨w₁, hfactory⟩, discover_ok hdeclared, rfl, rfl,
    (run_mapM_ok haccessors).imp ?_⟩
  rintro p a ⟨t, t', ha⟩
  obtain ⟨setter, t₁, hsetter, ha⟩ := run_bind_ok ha
  obtain ⟨probe, t₂, hprobe, ha⟩ := run_bind_ok ha
  cases ha
  exact ⟨⟨rfl, rfl, rfl⟩, run_ofExcept_ok hprobe, setter, t, t₁, hsetter, rfl⟩

end Action

theorem Registration.definition_of_bind {u : Universe} {r : Registration} {t : TypeExpr} {w w' : World}
    {b : Binding World} (h : (r.bind u t).run w = (.ok b, w')) : b.definition = r.definition := by
  unfold Registration.bind at h
  split at h
  · unfold Action.bindImmutable at h
    obtain ⟨factory, w₁, -, h⟩ := Action.run_bind_ok h
    obtain ⟨builderId, w₂, -, h⟩ := Action.run_bind_ok h
    obtain ⟨build, w₃, -, h⟩ := Action.run_bind_ok h
    obtain ⟨declared, w₄, -, h⟩ := Action.run_bind_ok h
    obtain ⟨accessors, w₅, -, h⟩ := Action.run_bind_ok h
    obtain ⟨serial, w₆, -, h⟩ := Action.run_bind_ok h
    cases h
    rfl
  · unfold Action.bindModifiable at h
    obtain ⟨factory, w₁, -, h⟩ := Action.run_bind_ok h
    obtain ⟨declared, w₂, -, h⟩ := Action.run_bind_ok h
    obtain ⟨accessors, w₃, -, h⟩ := Action.run_bind_ok h
    obtain ⟨serial, w₄, -, h⟩ := Action.run_bind_ok h
    cases h
    rfl

end RecordBinding
