import RecordBinding.Proofs.Binding.RoundTrip
import RecordBinding.Proofs.Property.Members

namespace RecordBinding

/-- The function behind a member that is called as it stands, without a choice by the argument. -/
def Member.function? (member : Member) : Option Function :=
  match member.kind with
  | .method f | .staticMethod f | .classMethod f => some f
  | _ => none

/-- All methods of a universe, static and class methods among them, have parameters that can be
written. -/
def Universe.IsWellFormed (u : Universe) : Prop :=
  ∀ info ∈ u.classes, ∀ member ∈ info.members, ∀ f ∈ member.function?, f.parameters.IsWellFormed

instance (u : Universe) : Decidable u.IsWellFormed :=
  inferInstanceAs (Decidable (∀ info ∈ u.classes, ∀ member ∈ info.members, ∀ f ∈ member.function?,
    f.parameters.IsWellFormed))

/-- What a call of a function does from where its arguments have found their parameters. -/
def Action.enter (u : Universe) (f : Function) (args : List Value) : Action World Value := do
  called f.label
  runBody u f.body args

theorem Action.callFunction_eq_enter {u : Universe} {f : Function} {args : List Value}
    (h : f.parameters.binds args.length = true) : callFunction u f args = enter u f args :=
  if_pos h

/-- The name of the factory that an implementation has itself. -/
def Registration.factoryName (r : Registration) : String :=
  match r.variant with
  | .immutable => "builder"
  | .modifiable => "create"

/-- No factory is given with a registration, or one that counts as false. -/
def Registration.UsesOwnFactory (r : Registration) : Prop :=
  ∀ factory ∈ r.factory, ∃ v, factory = .value v ∧ v.truth = false

/-- An action enters the static or class method that an implementation has under a name, or makes an instance
of the class that a static method stands for. -/
inductive Universe.EntersFactory (u : Universe) (implementation : TypeExpr) (name : String)
    (action : Action World Value) : Prop
  | staticMethod (f : Function)
      (member : (u.staticMember? implementation name).map Member.kind = some (.staticMethod f))
      (enters : action = Action.enter u f [])
  | classMethod (f : Function)
      (member : (u.staticMember? implementation name).map Member.kind = some (.classMethod f))
      (enters : action = Action.enter u f [.type implementation])
  | staticClass (c : ClassId)
      (member : (u.staticMember? implementation name).map Member.kind =
        some (.staticValue (.type (.cls c))))
      (callsEmpty : u.callsEmpty c = true) (enters : action = Action.instantiate u c)

/-- The calls that a binding with a builder makes enter the methods of the builder's class. Setters
that are overloaded are not methods. -/
structure Binding.EntersBuilder (u : Universe) (b : Binding World) (builder : ClassId) : Prop where
  build : ∃ f, (u.staticMember? (.cls builder) "build").map Member.kind = some (.method f) ∧
    b.finish = some fun target => Action.enter u f [target]
  setter : ∀ a ∈ b.accessors, ∀ f,
    (u.staticMember? (.cls builder) a.name).map Member.kind = some (.method f) →
      a.setter = fun target value => discard (Action.enter u f [target, value])

/-- The calls that a binding without a builder makes enter the methods of the implementation. -/
structure Binding.EntersInPlace (u : Universe) (b : Binding World) (implementation : TypeExpr) :
    Prop where
  setter : ∀ a ∈ b.accessors, ∃ f,
    (u.staticMember? implementation (setterName a.name)).map Member.kind = some (.method f) ∧
      a.setter = fun target value => discard (Action.enter u f [target, value])
  probe : ∀ a ∈ b.accessors, ∀ f,
    (u.staticMember? implementation (probeName a.name)).map Member.kind = some (.method f) →
      a.probe = some fun target => Action.enter u f [target]

namespace Universe

variable {u : Universe} {t : TypeExpr} {name : String}

theorem IsWellFormed.parameters (hu : u.IsWellFormed) {kind : MemberKind} {f : Function}
    (hmember : (u.staticMember? t name).map Member.kind = some kind)
    (hf : ∀ member : Member, member.kind = kind → member.function? = some f) :
    f.parameters.IsWellFormed := by
  obtain ⟨member, hstatic, hkind⟩ := Option.map_eq_some_iff.1 hmember
  obtain ⟨c, holder, -, hfound⟩ := exists_of_staticMember? hstatic
  obtain ⟨-, -, -, ⟨-, hown⟩, -⟩ := Classes.heldFirst_iff.2 hfound
  have hfunction := hf member hkind
  have hattribute : ∀ v, member.kind ≠ .attribute v := by
    intro v hv
    rw [Member.function?, hv] at hfunction
    cases hfunction
  obtain ⟨info, hinfo, hmem⟩ :=
    Classes.exists_of_mem_ownMembers (List.mem_of_find?_eq_some hown) hattribute
  exact hu info (Classes.mem_of_find? hinfo).1 member hmem f hfunction

theorem IsWellFormed.callFunction_method (hu : u.IsWellFormed) {f : Function}
    (hmember : (u.staticMember? t name).map Member.kind = some (.method f)) (receiver : Value)
    (args : List Value) (htakes : f.takesExactly args.length = true) :
    Action.callFunction u f (receiver :: args) = Action.enter u f (receiver :: args) := by
  have hparameters : f.parameters.IsWellFormed :=
    hu.parameters hmember fun member hkind => by rw [Member.function?, hkind]
  exact Action.callFunction_eq_enter ((Signature.takesExactly_iff hparameters _).1 htakes).2.2

theorem boundTakesNothing_eq {parameters : Signature} (h : parameters.IsWellFormed) :
    boundTakesNothing parameters = parameters.takesExactly 0 false := by
  cases parameters with
  | nil => rfl
  | cons first rest =>
      cases hpositional : first.isPositional with
      | true => simp [boundTakesNothing, Signature.takesExactly, hpositional]
      -- a parameter that receives the class among the rest collects, and is refused for that
      | false =>
          have hrest : first.kind = .rest →
              Signature.takesExactly (first :: rest) 0 true = false := by
            intro hkind
            rw [Bool.eq_false_iff, Ne, Signature.takesExactly_bound_iff h]
            exact fun hbinds => hbinds.1 first List.mem_cons_self (.inl hkind)
          simpa [boundTakesNothing, Signature.takesExactly, hpositional] using hrest

theorem findFactory_enters (hu : u.IsWellFormed) {factory : Attribute}
    (h : u.findFactory t name = .ok factory) : u.EntersFactory t name (factory.call u []) := by
  unfold findFactory at h
  split at h
  · next member hmember =>
      have hkind := congrArg (Option.map Member.kind) hmember
      split at h
      · next f hstatic =>
          rw [Option.map_some, hstatic] at hkind
          split at h
          · next htakes =>
              cases h
              have hparameters : f.parameters.IsWellFormed :=
                hu.parameters hkind fun member hkind => by rw [Member.function?, hkind]
              exact .staticMethod f hkind (Action.callFunction_eq_enter
                ((Signature.takesExactly_bound_iff hparameters 0).1 htakes).2)
          · cases h
      · next f hclass =>
          rw [Option.map_some, hclass] at hkind
          split at h
          · next htakes =>
              cases h
              have hparameters : f.parameters.IsWellFormed :=
                hu.parameters hkind fun member hkind => by rw [Member.function?, hkind]
              rw [boundTakesNothing_eq hparameters, Signature.takesExactly_iff hparameters] at htakes
              exact .classMethod f hkind (Action.callFunction_eq_enter htakes.2.2)
          · cases h
      · next c hvalue =>
          rw [Option.map_some, hvalue] at hkind
          split at h
          · next hempty =>
              cases h
              exact .staticClass c hkind hempty rfl
          · cases h
      · cases h
      · cases h
  · cases h

theorem findProbe_ok {property : String} {probe : Option (Value → Action World Value)} {f : Function}
    (hmember : (u.staticMember? t (probeName property)).map Member.kind = some (.method f))
    (h : u.findProbe t property = .ok probe) :
    f.takesExactly 0 = true ∧ probe = some fun target => Action.callFunction u f [target] := by
  obtain ⟨member, hstatic, hkind⟩ := Option.map_eq_some_iff.1 hmember
  unfold findProbe at h
  dsimp only at h
  rw [hstatic] at h
  dsimp only at h
  rw [hkind] at h
  dsimp only at h
  split at h
  · next htakes =>
      cases h
      exact ⟨htakes, rfl⟩
  · cases h

end Universe

namespace Action

variable {u : Universe} {resolved definition implementation : TypeExpr} {given : Option Attribute}
  {w w' : World} {b : Binding World}

theorem chooseFactory_enters (hu : u.IsWellFormed) {name : String} {factory : Attribute}
    (hown : ∀ factory ∈ given, ∃ v, factory = .value v ∧ v.truth = false)
    (h : (chooseFactory u given implementation name).run w = (.ok factory, w')) :
    u.EntersFactory implementation name (factory.call u []) := by
  have hchosen : chooseFactory u given implementation name =
      ofExcept (u.findFactory implementation name) := by
    cases given with
    | none => rfl
    | some factory =>
        obtain ⟨v, rfl, hfalse⟩ := hown factory rfl
        simp [chooseFactory, hfalse]
  rw [hchosen] at h
  exact Universe.findFactory_enters hu (run_ofExcept_ok h)

theorem bindImmutable_enters (hu : u.IsWellFormed)
    (h : (bindImmutable u resolved definition implementation given).run w = (.ok b, w')) :
    ((∀ factory ∈ given, ∃ v, factory = .value v ∧ v.truth = false) →
      u.EntersFactory implementation "builder" b.start) ∧
    ∃ builder, b.builderClass = some builder ∧ b.EntersBuilder u builder := by
  obtain ⟨factory, builder, build, declared, ⟨w₁, hfactory⟩, -, ⟨w₂, w₃, hbuild⟩, -, hclass, hstart,
    hfinish, haccessors⟩ := bindImmutable_ok h
  obtain ⟨hmember, htakes⟩ := findBuild_ok hbuild
  refine ⟨fun hown => hstart ▸ chooseFactory_enters hu hown hfactory, builder, hclass, ?build, ?setter⟩
  case build =>
    refine ⟨build, hmember, hfinish.trans (congrArg some (funext fun target => ?_))⟩
    exact hu.callFunction_method hmember target [] htakes
  case setter =>
    intro a ha f hmember
    obtain ⟨p, -, hfor, -, hsetter⟩ := exists_of_mem_right haccessors ha
    rw [hfor.name] at hmember
    obtain ⟨member, hstatic, hkind⟩ := Option.map_eq_some_iff.1 hmember
    obtain ⟨htakes, hcall⟩ := Universe.builderSetter_ok hstatic hkind hsetter
    rw [hcall]
    funext target value
    rw [hu.callFunction_method hmember target [value] htakes]

theorem bindModifiable_enters (hu : u.IsWellFormed)
    (h : (bindModifiable u resolved definition implementation given).run w = (.ok b, w')) :
    ((∀ factory ∈ given, ∃ v, factory = .value v ∧ v.truth = false) →
      u.EntersFactory implementation "create" b.start) ∧ b.EntersInPlace u implementation := by
  obtain ⟨factory, declared, ⟨w₁, hfactory⟩, -, hstart, -, haccessors⟩ := bindModifiable_ok h
  refine ⟨fun hown => hstart ▸ chooseFactory_enters hu hown hfactory, ?setter, ?probe⟩
  case setter =>
    intro a ha
    obtain ⟨p, -, hfor, -, f, w₂, w₃, hfind, hcall⟩ := exists_of_mem_right haccessors ha
    obtain ⟨hmember, htakes, -⟩ := findSetter_ok hfind
    refine ⟨f, hfor.name ▸ hmember, hcall.trans ?_⟩
    funext target value
    rw [hu.callFunction_method hmember target [value] htakes]
  case probe =>
    intro a ha f hmember
    obtain ⟨p, -, hfor, hprobe, -⟩ := exists_of_mem_right haccessors ha
    rw [hfor.name] at hmember
    obtain ⟨htakes, hasked⟩ := Universe.findProbe_ok hmember hprobe
    rw [hasked]
    refine congrArg some (funext fun target => ?_)
    exact hu.callFunction_method hmember target [] htakes

end Action

/-- A signature takes exactly so many arguments when it collects none, has a parameter for the receiver
and a call with the receiver and so many arguments goes through. So what a binding has accepted, its
own factory, `build()`, setters and probes, is always entered when the binding calls it. -/
theorem Registration.takesExactly_is_exact :
    (∀ parameters : Signature, parameters.IsWellFormed → ∀ count : Nat,
      (parameters.takesExactly count false = true ↔
        (∀ p ∈ parameters, ¬ p.Collects) ∧
          (∃ first ∈ parameters.head?, first.isPositional = true) ∧
            parameters.binds (count + 1) = true) ∧
      (parameters.takesExactly count true = true ↔
        (∀ p ∈ parameters, ¬ p.Collects) ∧ parameters.binds count = true)) ∧
    ∀ u : Universe, u.IsWellFormed → ∀ (r : Registration) (t : TypeExpr) (w w' : World)
      (b : Binding World), (r.bind u t).run w = (.ok b, w') →
        (r.UsesOwnFactory → u.EntersFactory r.implementation r.factoryName b.start) ∧
        match r.variant with
        | .immutable => ∃ builder, b.builderClass = some builder ∧ b.EntersBuilder u builder
        | .modifiable => b.EntersInPlace u r.implementation := by
  refine ⟨fun parameters hparameters count => ⟨Signature.takesExactly_iff hparameters count,
    Signature.takesExactly_bound_iff hparameters count⟩, fun u hu r t w w' b hbind => ?_⟩
  unfold Registration.bind at hbind
  cases hvariant : r.variant with
  | immutable =>
      rw [hvariant] at hbind
      rw [Registration.factoryName, hvariant]
      exact Action.bindImmutable_enters hu hbind
  | modifiable =>
      rw [hvariant] at hbind
      rw [Registration.factoryName, hvariant]
      exact Action.bindModifiable_enters hu hbind

/-- A positional-only receiver, one argument that must be given and one that need not be, and an option by
keyword: with one argument besides the receiver, a call goes through. -/
theorem Registration.takesExactly_is_exact_vessels :
    let parameters : Signature := [⟨"self", .positionalOnly, false, none⟩,
      ⟨"value", .positional, false, none⟩, ⟨"unit", .positional, true, none⟩,
      ⟨"strict", .keywordOnly, true, none⟩]
    parameters.IsWellFormed ∧ parameters.takesExactly 1 false = true ∧
      parameters.binds 2 = true ∧ vessels.IsWellFormed ∧
      ∃ b w, (cupRegistration.bind vessels (.cls (.declared "Cup"))).run {} = (.ok b, w) ∧
        vessels.EntersFactory (.cls (.declared "Cup")) "create" b.start ∧
        b.EntersInPlace vessels (.cls (.declared "Cup")) := by
  intro parameters
  have hparameters : parameters.IsWellFormed := by decide
  have htakes : parameters.takesExactly 1 false = true := by decide
  have hvessels : vessels.IsWellFormed := by decide
  obtain ⟨b, w, hbind⟩ : ∃ b w,
      (cupRegistration.bind vessels (.cls (.declared "Cup"))).run {} = (.ok b, w) := ⟨_, _, rfl⟩
  obtain ⟨hexact, hbinding⟩ := takesExactly_is_exact
  obtain ⟨hstart, henters⟩ := hbinding vessels hvessels cupRegistration _ _ _ b hbind
  exact ⟨hparameters, htakes, ((hexact parameters hparameters 1).1.1 htakes).2.2, hvessels, b, w, hbind,
    hstart nofun, henters⟩

end RecordBinding
