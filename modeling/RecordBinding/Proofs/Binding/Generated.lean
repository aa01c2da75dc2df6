import RecordBinding.Proofs.Binding.Building
import RecordBinding.Proofs.Object.Bodies

namespace RecordBinding

namespace Universe

/-- A class has a method of so many arguments, the receiver among them, with a body. -/
def HasMethod (u : Universe) (className name : String) (arity : Nat) (body : Body) : Prop :=
  ∃ member f, u.staticMember? (.cls (.declared className)) name = some member ∧
    member.kind = .method f ∧ f.Does arity body

/-- A class reads a property from a key, the way the property is declared. -/
def HasGetter (u : Universe) (className : String) (p : DeclaredProperty) (key : String) : Prop :=
  ∃ member f fallback, u.staticMember? (.cls (.declared className)) p.name = some member ∧
    member.kind = (if p.isAttribute then .property (some f) else .method f) ∧
    f.Does 1 (.get key fallback)

/-- If a class has a probe for a property, it tells whether a key is set. -/
def HasProbe (u : Universe) (className name key : String) : Prop :=
  ∀ member, u.staticMember? (.cls (.declared className)) (probeName name) = some member →
    ∃ f, (member.kind = .property (some f) ∨ member.kind = .method f) ∧ f.Does 1 (.isSet key)

end Universe

/-- Each call of a factory makes a new instance of a class, with nothing set under some keys. -/
structure Attribute.MakesBlank (u : Universe) (factory : Attribute) (className : String)
    (keys : List String) : Prop where
  make : ∀ w : World, ∃ trace, (factory.call u []).run w =
    (.ok (.object className w.states.size),
      { w with
        states := w.states.push (u.initialFields (.declared className))
        trace })
  blank : ∀ key ∈ keys, (u.initialFields (.declared className)).get? key = none

/-- A builder of the generated shape, with the class that it builds. -/
structure GeneratedBuilder (u : Universe) (r : Registration) (declared : List DeclaredProperty)
    (key : String → String) (builder made : String) : Prop where
  factory : ∀ factory w w',
    (Action.chooseFactory u r.factory r.implementation "builder").run w = (.ok factory, w') →
    factory.MakesBlank u builder (declared.map fun p => key p.name)
  setters : ∀ p ∈ declared, u.HasMethod builder p.name 2 (.set (key p.name))
  build : ∃ name, u.HasMethod builder "build" 1 (.build name []) ∧
    u.classNamed? name = some (.declared made)
  instances : u.HasInstances made

/-- A class of the generated shape whose instances are changed in place. -/
structure GeneratedInPlace (u : Universe) (r : Registration) (declared : List DeclaredProperty)
    (key : String → String) (made : String) : Prop where
  factory : ∀ factory w w',
    (Action.chooseFactory u r.factory r.implementation "create").run w = (.ok factory, w') →
    factory.MakesBlank u made (declared.map fun p => key p.name)
  setters : ∀ p ∈ declared, u.HasMethod made (setterName p.name) 2 (.set (key p.name))
  probes : ∀ p ∈ declared, u.HasProbe made p.name (key p.name)

/-- An implementation of the generated shape: every property has a key of its own, which its getter
reads and its setter writes. -/
structure Registration.Generated (u : Universe) (r : Registration)
    (declared : List DeclaredProperty) (key : String → String) (made : String) : Prop where
  implementation : r.implementation = .cls (.declared made)
  distinct : ∀ p ∈ declared, ∀ q ∈ declared, key p.name = key q.name → p.name = q.name
  getters : ∀ p ∈ declared, u.HasGetter made p (key p.name)
  variant : match r.variant with
    | .immutable => ∃ builder, GeneratedBuilder u r declared key builder made
    | .modifiable => GeneratedInPlace u r declared key made

/-- An accessor that writes a key of the instances of one class, and reads it in those of another. -/
structure Accessor.Keyed (a : Accessor World) (written made key : String) : Prop where
  set : ∀ id fields value w, w.state? (.object written id) = some fields →
    ∃ w', (a.set (.object written id) value).run w = (.ok (), w') ∧
      w'.state? (.object written id) = some (fields.set key value)
  get : ∃ unset : Except Failure Value, ∀ id fields w,
    w.state? (.object made id) = some fields →
    ∃ trace, (a.get (.object made id)).run w =
      (match fields.get? key with
        | some value => .ok value
        | none => unset, { w with trace })
  absent : a.tracksPresence = true → ∀ id fields w, w.state? (.object made id) = some fields →
    fields.get? key = none →
    ((a.get (.object made id)).run w).1 = .ok .absent ∧
      ∀ getter, ({ a with getter }.get (.object made id)).run w = (a.get (.object made id)).run w

/-- A binding of keyed accessors. Its targets start blank, and what it makes of a target holds what
the target does, besides what its own class starts with; that is nothing where there is a probe. -/
structure Binding.Keyed (u : Universe) (b : Binding World) (key : String → String)
    (written made : String) : Prop where
  distinct : ∀ a ∈ b.accessors, ∀ a' ∈ b.accessors, key a.name = key a'.name → a.name = a'.name
  accessors : ∀ a ∈ b.accessors, a.Keyed written made (key a.name)
  blank : ∀ a ∈ b.accessors, (u.initialFields (.declared written)).get? (key a.name) = none
  probed : ∀ a ∈ b.accessors, a.tracksPresence = true →
    (u.initialFields (.declared made)).get? (key a.name) = none
  start : ∀ w, ∃ w', b.start.run w = (.ok (.object written w.states.size), w') ∧
    w'.state? (.object written w.states.size) = some (u.initialFields (.declared written))
  finish : ∀ id fields w, (fields.map (·.1)).Nodup → w.state? (.object written id) = some fields →
    ∃ id' fields' w', (match b.finish with
      | some build => build (.object written id)
      | none => pure (.object written id)).run w = (.ok (.object made id'), w') ∧
      w'.state? (.object made id') = some fields' ∧
      ∀ a ∈ b.accessors, fields'.get? (key a.name) = (fields.get? (key a.name)).or
        ((u.initialFields (.declared made)).get? (key a.name))

theorem Universe.exists_of_staticMember? {u : Universe} {t : TypeExpr} {name : String}
    {member : Member} (h : u.staticMember? t name = some member) :
    ∃ c holder, t.class? = some c ∧ u.classes.member? c name = some (holder, member) := by
  unfold staticMember? at h
  split at h
  · next holder found hbind =>
      obtain ⟨c, hc, hfound⟩ := Option.bind_eq_some_iff.1 hbind
      have hsame : found = member := by
        split at h
        · split at h
          · cases h
          · exact Option.some.inj h
        · exact Option.some.inj h
      exact ⟨c, holder, hc, hsame ▸ hfound⟩
  · cases h

namespace Action

variable {u : Universe} {w : World} {className : String} {id : Nat} {fields : Fields}

theorem run_guarded {σ α : Type} (operation : Operation) (target : TypeExpr)
    (property : Option String) (action : Action σ α) (s : σ) :
    (guarded operation target property action).run s =
      ((action.run s).1.mapError (Failure.guard operation target property), (action.run s).2) := by
  change guarded operation target property action s = _
  unfold guarded
  rcases action.run s with ⟨a | a, s'⟩ <;> rfl

theorem run_getAttribute {name : String} {member : Member}
    (h : u.staticMember? (.cls (.declared className)) name = some member) (w : World) :
    (getAttribute u (.object className id) name).run w =
      (Attribute.ofInstance u (.declared className) (.object className id) member).run w := by
  obtain ⟨_, holder, ⟨⟩, hmember⟩ := Universe.exists_of_staticMember? h
  unfold getAttribute
  dsimp only
  rw [hmember]

theorem run_readProperty {name : String} {isAttribute : Bool} {member : Member} {f : Function}
    (h : u.staticMember? (.cls (.declared className)) name = some member)
    (hkind : member.kind = (if isAttribute then .property (some f) else .method f)) (w : World) :
    (readProperty u name isAttribute (.object className id)).run w =
      (callFunction u f [.object className id]).run w := by
  unfold readProperty
  rw [run_bind, run_getAttribute h]
  unfold Attribute.ofInstance
  rw [hkind]
  cases isAttribute with
  | true =>
      rw [if_pos rfl]
      dsimp only
      rw [run_bind]
      rcases (callFunction u f [.object className id]).run w with ⟨result | result, w'⟩ <;> rfl
  | false => rfl

end Action

namespace Accessor

open RecordBinding.Action

variable {u : Universe} {a : Accessor World} {p : DeclaredProperty} {made key : String}

theorem exists_getter_run (hfor : a.IsFor u p) (hgetter : u.HasGetter made p key) :
    ∃ f unset, ∀ id fields w, w.state? (.object made id) = some fields →
      (guarded .get a.owner (some a.name) (a.getter (.object made id))).run w =
        (match fields.get? key with
          | some value => .ok value
          | none => unset, afterCall w f w.states) := by
  obtain ⟨member, f, fallback, hmember, hkind, hdoes⟩ := hgetter
  refine ⟨f, match fallback with
    | some value => .ok value
    | none => .error ((Failure.raised .keyError key).guard .get a.owner (some a.name)), ?_⟩
  intro id fields w hstate
  rw [run_guarded, hfor.getter, run_readProperty hmember hkind, run_callFunction_get hdoes hstate]
  cases fields.get? key <;> cases fallback <;> rfl

theorem run_get_of_probe_eq_none (h : a.probe = none) (target : Value) (w : World) :
    (a.get target).run w = (guarded .get a.owner (some a.name) (a.getter target)).run w := by
  unfold get isPresent
  rw [h, run_bind]
  rfl

theorem run_get_of_probe {probe : Value → Action World Value} (h : a.probe = some probe)
    (htruth : a.truth = truthOf u)
    {target : Value} {w w' : World} {found : Bool}
    (hprobe : (probe target).run w = (.ok (.bool found), w')) :
    (a.get target).run w =
      if found then (guarded .get a.owner (some a.name) (a.getter target)).run w'
      else (.ok .absent, w') := by
  unfold get isPresent
  rw [h, htruth]
  dsimp only
  rw [run_bind, run_bind, run_guarded, hprobe]
  cases found <;> rfl

theorem run_set_of_setter {f : Function}
    (hsetter : a.setter = fun target value => discard (callFunction u f [target, value]))
    {written : String} (hdoes : f.Does 2 (.set key)) (id : Nat) (fields : Fields) (value : Value)
    (w : World) (hstate : w.state? (.object written id) = some fields) :
    ∃ w', (a.set (.object written id) value).run w = (.ok (), w') ∧
      w'.state? (.object written id) = some (fields.set key value) := by
  refine ⟨afterCall w f (w.states.setIfInBounds id (fields.set key value)), ?_,
    World.state?_set hstate _⟩
  have hdiscard : (discard (callFunction u f [.object written id, value])).run w =
      (.ok (), afterCall w f (w.states.setIfInBounds id (fields.set key value))) := by
    rw [discard, map_const, Function.comp_apply, map_eq_pure_bind, run_bind,
      run_callFunction_set hdoes value hstate]
    rfl
  rw [set, hsetter, run_guarded, hdiscard]
  rfl

theorem keyed_of_probe_eq_none {written : String} (hfor : a.IsFor u p)
    (hgetter : u.HasGetter made p key) (hprobe : a.probe = none) {f : Function}
    (hsetter : a.setter = fun target value => discard (callFunction u f [target, value]))
    (hdoes : f.Does 2 (.set key)) : a.Keyed written made key := by
  obtain ⟨g, unset, hrun⟩ := exists_getter_run hfor hgetter
  refine ⟨run_set_of_setter hsetter hdoes, ⟨unset, ?_⟩, ?_⟩
  · intro id fields w hstate
    exact ⟨_, (run_get_of_probe_eq_none hprobe _ w).trans (hrun id fields w hstate)⟩
  · intro htracks
    rw [tracksPresence, hprobe] at htracks
    cases htracks

theorem keyed_of_probe {written : String} (hfor : a.IsFor u p) (hgetter : u.HasGetter made p key)
    {probe : Value → Action World Value} (hprobe : a.probe = some probe) {g : Function}
    (hasks : ∀ id fields w, w.state? (.object made id) = some fields →
      (probe (.object made id)).run w =
        (.ok (.bool (fields.has key)), afterCall w g w.states)) {f : Function}
    (hsetter : a.setter = fun target value => discard (callFunction u f [target, value]))
    (hdoes : f.Does 2 (.set key)) : a.Keyed written made key := by
  obtain ⟨getter, unset, hrun⟩ := exists_getter_run hfor hgetter
  refine ⟨run_set_of_setter hsetter hdoes, ⟨.ok .absent, ?_⟩, ?_⟩
  · intro id fields w hstate
    rw [run_get_of_probe hprobe hfor.truth (hasks id fields w hstate), Fields.has]
    cases hvalue : fields.get? key with
    | none => exact ⟨_, rfl⟩
    | some value =>
        have hasked : (afterCall w g w.states).state? (.object made id) = some fields := hstate
        rw [Option.isSome_some, if_pos rfl, hrun id fields _ hasked, hvalue]
        exact ⟨_, rfl⟩
  · intro _ id fields w hstate hvalue
    have hfound : (probe (.object made id)).run w = (.ok (.bool false), afterCall w g w.states) := by
      rw [hasks id fields w hstate, Fields.has, hvalue]
      rfl
    refine ⟨?_, fun other => ?_⟩
    · rw [run_get_of_probe hprobe hfor.truth hfound]
      rfl
    · rw [run_get_of_probe hprobe hfor.truth hfound]
      exact run_get_of_probe (a := { a with getter := other }) hprobe hfor.truth hfound

end Accessor

namespace Universe

variable {u : Universe} {made name key : String}

theorem run_of_findProbe (hshape : u.HasProbe made name key) {probe : Value → Action World Value}
    (h : u.findProbe (.cls (.declared made)) name = .ok (some probe)) :
    ∃ f, ∀ id fields w, w.state? (.object made id) = some fields →
      (probe (.object made id)).run w =
        (.ok (.bool (fields.has key)), Action.afterCall w f w.states) := by
  unfold findProbe at h
  dsimp only at h
  split at h
  · cases h
  · next member hmember =>
      obtain ⟨f, hkind, hdoes⟩ := hshape member hmember
      refine ⟨f, fun id fields w hstate => ?_⟩
      rcases hkind with hkind | hkind
      · rw [hkind] at h
        cases h
        have hread : member.kind = if true = true then .property (some f) else .method f := hkind
        exact (Action.run_readProperty hmember hread w).trans
          (Action.run_callFunction_isSet hdoes hstate)
      · rw [hkind] at h
        dsimp only at h
        split at h
        · cases h
          exact Action.run_callFunction_isSet hdoes hstate
        · cases h

end Universe

namespace Action

variable {u : Universe} {w w' : World}

theorem findBuild_ok {builder : ClassId} {implementation : TypeExpr} {f : Function}
    (h : (findBuild u builder implementation).run w = (.ok f, w')) :
    (u.staticMember? (.cls builder) "build").map Member.kind = some (.method f) ∧
      f.takesExactly 0 = true := by
  unfold findBuild at h
  split at h
  · next g hkind =>
      split at h
      · next htakes =>
        obtain ⟨produced, w₁, -, h⟩ := run_bind_ok h
        split at h
        · cases h
          exact ⟨hkind, htakes⟩
        · cases h
      · cases h
  · cases h

theorem checkArgument_ok {implementation : TypeExpr} {p : DeclaredProperty} {f : Function} {c : ClassId}
    (h : (checkArgument u implementation p f c).run w = (.ok (), w')) {accepted : TypeExpr}
    (haccepted : u.argumentHint? f c = .ok (some accepted)) : u.admits p.type accepted = true := by
  unfold checkArgument at h
  obtain ⟨hint, w₁, hhint, h⟩ := run_bind_ok h
  rw [haccepted] at hhint
  cases hhint
  dsimp only at h
  split at h
  · next hadmits => exact hadmits
  · cases h

theorem findSetter_ok {implementation : TypeExpr} {p : DeclaredProperty} {f : Function}
    (h : (findSetter u implementation p).run w = (.ok f, w')) :
    (u.staticMember? implementation (setterName p.name)).map Member.kind = some (.method f) ∧
      f.takesExactly 1 = true ∧ ∀ accepted,
        u.argumentHint? f (implementation.class?.getD .object) = .ok (some accepted) →
          u.admits p.type accepted = true := by
  unfold findSetter at h
  dsimp only at h
  split at h
  · next g hkind =>
      split at h
      · next htakes =>
        obtain ⟨_, w₁, hcheck, h⟩ := run_bind_ok h
        obtain ⟨returned, w₂, -, h⟩ := run_bind_ok h
        split at h
        · cases h
          exact ⟨hkind, htakes, fun accepted => checkArgument_ok hcheck⟩
        · cases h
      · cases h
  · cases h

theorem builderClass_of_makesBlank {factory : Attribute} {builder : String} {keys : List String}
    (hblank : factory.MakesBlank u builder keys) {implementation : TypeExpr} {c : ClassId}
    (h : (builderClass u factory implementation).run w = (.ok c, w')) : c = .declared builder := by
  unfold builderClass at h
  obtain ⟨made, w₁, hmade, h⟩ := run_bind_ok h
  obtain ⟨trace, hrun⟩ := hblank.make w
  have hvalue : made = .ok (.object builder w.states.size) := by
    change (Except.ok ((factory.call u []).run w).1, ((factory.call u []).run w).2) = _ at hmade
    rw [hrun] at hmade
    cases hmade
    rfl
  rw [hvalue] at h
  cases h
  rfl

end Action

theorem Universe.builderSetter_ok {u : Universe} {builder : ClassId} {definition : TypeExpr}
    {p : DeclaredProperty} {member : Member} {f : Function}
    (hmember : u.staticMember? (.cls builder) p.name = some member)
    (hkind : member.kind = .method f) {setter : Value → Value → Action World Unit}
    (h : u.builderSetter builder definition p = .ok setter) :
    f.takesExactly 1 = true ∧
      setter = fun target value => discard (Action.callFunction u f [target, value]) := by
  unfold builderSetter at h
  rw [hmember] at h
  dsimp only at h
  rw [hkind] at h
  dsimp only at h
  split at h
  · next htakes =>
    cases h
    exact ⟨htakes, rfl⟩
  · cases h

end RecordBinding
