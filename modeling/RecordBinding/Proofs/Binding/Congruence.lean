import RecordBinding.Proofs.Property.Discovery
import RecordBinding.Registry.Basic

namespace RecordBinding

open TypeExpr

/-- Two declared properties differ by nothing but equal types and equal metadata. -/
structure DeclaredProperty.Same (p q : DeclaredProperty) : Prop where
  name : p.name = q.name
  type : p.type.same q.type = true
  declaration : p.declaration = q.declaration
  declaringClass : p.declaringClass = q.declaringClass
  isAttribute : p.isAttribute = q.isAttribute
  metadata : Scalar.sameList p.metadata q.metadata = true
  hint : p.hint = q.hint

namespace Universe

theorem discover_of_same (u : Universe) {a b : TypeExpr}
    (hwalk : Instantiation.Same (u.instantiation a) (u.instantiation b)) (definition : TypeExpr) :
    Agree (List.Forall₂ DeclaredProperty.Same) (u.discover a definition)
      (u.discover b definition) := by
  have hjoined := u.discoveryInstantiation_congr hwalk definition
  apply u.discover_rel
  intro c info _ member _ f isAttribute hint _ _
  have hstrip := stripAnnotated_congr
    (substitute_congr (Instantiation.entry_congr hjoined c) hint.type)
  exact ⟨rfl, hstrip.1, rfl, rfl, rfl, hstrip.2, rfl⟩

theorem discover_congr (u : Universe) {a b : TypeExpr} (h : a.same b = true) (ha : a.IsClassType)
    (definition : TypeExpr) :
    Agree (List.Forall₂ DeclaredProperty.Same) (u.discover a definition)
      (u.discover b definition) :=
  u.discover_of_same (u.instantiation_congr h ha) definition

theorem admits_congr (u : Universe) {a b : TypeExpr} (h : a.same b = true) (hint : TypeExpr) :
    u.admits a hint = u.admits b hint := by
  rw [admits, admits, isUnresolved_congr h, erase_congr h]

theorem builderSetter_congr (u : Universe) (builder : ClassId) (definition : TypeExpr)
    {p q : DeclaredProperty} (h : p.Same q) :
    u.builderSetter builder definition p = u.builderSetter builder definition q := by
  rw [builderSetter, builderSetter, h.name, isUnresolved_congr h.type, erase_congr h.type]

end Universe

theorem shapeError_kind {a b : TypeExpr} (h : a.qualname? = b.qualname?)
    (error error' : String → ShapeError) : (shapeError a error).kind = (shapeError b error').kind := by
  rw [shapeError, shapeError, h]
  split <;> rfl

/-- A factory is steady when the class of what it makes, or the kind of its failure, does not depend on
the state of the world. -/
def Attribute.IsSteady (u : Universe) (factory : Attribute) : Prop :=
  Action.Similar (fun v v' => u.classOf v = u.classOf v') (factory.call u []) (factory.call u [])

namespace Action

variable {u u' : Universe}

theorem log_similar (severity : Severity) (reporter : Reporter) (message message' : String) :
    Similar (fun _ _ => True) (log severity reporter message) (log severity reporter message') :=
  fun _ _ => .ok trivial

theorem reportHint_similar (f f' : Function) (c c' : ClassId) (hint hint' : Function.ReturnHint) :
    Similar (fun _ _ => True) (reportHint u f c hint) (reportHint u' f' c' hint') := by
  have hreport : ∀ u f c hint w, ((reportHint u f c hint).run w).1 = .ok () := by
    intro u f c hint w
    unfold reportHint
    split <;> rfl
  intro w w'
  rw [hreport, hreport]
  exact .ok trivial

/-- What is reported about properties does not decide whether they are discovered. -/
theorem discover_similar {Q : DeclaredProperty → DeclaredProperty → Prop}
    {a b definition definition' : TypeExpr}
    (h : Agree (List.Forall₂ Q) (u.discover a definition) (u'.discover b definition')) :
    Similar (List.Forall₂ Q) (discover u a definition) (discover u' b definition') := by
  unfold discover
  refine (Similar.ofExcept h).bind fun ps qs hpq => ?_
  refine Similar.bind (r := fun _ _ => True) ?_ fun _ _ _ =>
    (log_similar _ _ _ _).bind fun _ _ _ => .pure hpq
  induction hpq with
  | nil => exact .pure trivial
  | cons hp _ ih =>
      rw [List.forIn_cons, List.forIn_cons]
      simp only [bind_assoc, pure_bind]
      exact (reportHint_similar _ _ _ _ _ _).bind fun _ _ _ => ih

theorem returnHint_similar (f : Function) (c : ClassId) :
    Similar Eq (returnHint u f c) (returnHint u f c) := by
  unfold returnHint
  refine (Similar.ofExcept (Agree.refl (r := Eq) (fun _ => rfl) _)).bind ?_
  rintro hint _ rfl
  exact (reportHint_similar _ _ _ _ _ _).bind fun _ _ _ => .pure rfl

theorem findBuild_similar (builder : ClassId) (implementation : TypeExpr) :
    Similar Eq (findBuild u builder implementation) (findBuild u builder implementation) := by
  unfold findBuild
  split
  · next f _ =>
      split
      · refine (returnHint_similar f builder).bind ?_
        rintro produced _ rfl
        split
        · exact .pure rfl
        · exact .throw rfl
      · exact .throw rfl
  · exact .throw rfl

theorem builderClass_agree {factory factory' : Attribute} {w w' : World}
    (h : Agree (fun v v' => u.classOf v = u'.classOf v') ((factory.call u []).run w).1
      ((factory'.call u' []).run w').1)
    {implementation implementation' : TypeExpr}
    (hname : implementation.qualname? = implementation'.qualname?) :
    Agree Eq ((builderClass u factory implementation).run w).1
      ((builderClass u' factory' implementation').run w').1 := by
  unfold builderClass
  refine Similar.after (r := Agree fun v v' => u.classOf v = u'.classOf v') (.ok h) ?_
  intro made made' hmade
  cases hmade with
  | ok hclass => exact .pure hclass
  | @error e e' hkind =>
      dsimp only
      rw [hkind]
      split
      · exact .throw (shapeError_kind hname _ _)
      · exact .throw hkind

theorem builderClass_similar {factory factory' : Attribute}
    (h : Similar (fun v v' => u.classOf v = u'.classOf v') (factory.call u []) (factory'.call u' []))
    {implementation implementation' : TypeExpr}
    (hname : implementation.qualname? = implementation'.qualname?) :
    Similar Eq (builderClass u factory implementation)
      (builderClass u' factory' implementation') :=
  fun w w' => builderClass_agree (h w w') hname

theorem checkArgument_similar (implementation : TypeExpr) {p q : DeclaredProperty} (h : p.Same q)
    (f : Function) (c : ClassId) :
    Similar (fun _ _ => True) (checkArgument u implementation p f c)
      (checkArgument u implementation q f c) := by
  unfold checkArgument
  refine (Similar.ofExcept (Agree.refl (r := Eq) (fun _ => rfl) _)).bind ?_
  rintro accepted _ rfl
  cases accepted with
  | none => exact .pure trivial
  | some accepted =>
      dsimp only
      rw [u.admits_congr h.type]
      split
      · exact .pure trivial
      · exact .throw (shapeError_kind rfl _ _)

theorem findSetter_similar (implementation : TypeExpr) {p q : DeclaredProperty} (h : p.Same q) :
    Similar Eq (findSetter u implementation p) (findSetter u implementation q) := by
  unfold findSetter
  rw [h.name]
  dsimp only
  split
  · next f _ =>
      split
      · refine (checkArgument_similar implementation h f _).bind fun _ _ _ => ?_
        refine (returnHint_similar f _).bind ?_
        rintro returned _ rfl
        split
        · exact .pure rfl
        · exact .throw rfl
      · exact .throw rfl
  · exact .throw rfl

/-- Two values are of one class. -/
abbrev SameClass (u : Universe) (v v' : Value) : Prop :=
  u.classOf v = u.classOf v'

theorem fieldsOf_similar {v v' : Value} (hv : ∀ name id, v ≠ .object name id)
    (hv' : ∀ name id, v' ≠ .object name id) :
    Similar (fun _ _ => False) (fieldsOf v) (fieldsOf v') := by
  have hrun : ∀ v : Value, (∀ name id, v ≠ .object name id) → ∀ w,
      (fieldsOf v).run w = (.error (.misuse .attributeError), w) := by
    intro v hv w
    have hnone : w.state? v = Option.none := by
      cases v with
      | object name id => exact absurd rfl (hv name id)
      | _ => rfl
    rw [run_fieldsOf, hnone]
    rfl
  intro w w'
  rw [hrun v hv, hrun v' hv']
  exact .error rfl

theorem instantiate_similar (c : ClassId) :
    Similar (SameClass u) (instantiate u c) (instantiate u c) := by
  unfold instantiate
  split
  · exact .pure rfl
  · exact .pure rfl
  · split
    · split
      · exact .throw rfl
      · exact fun _ _ => .ok rfl
    · exact .throw rfl
  · exact .throw rfl

theorem callType_similar (t : TypeExpr) : Similar (SameClass u) (callType u t) (callType u t) := by
  induction t using TypeExpr.induct with
  | step t ih =>
      cases t with
      | cls c => exact instantiate_similar c
      | generic c args => exact instantiate_similar c
      | annotated inner metadata => exact ih inner (by simp [parts])
      | _ => exact .throw rfl

theorem createFirst_similar (args : List Value) :
    Similar (SameClass u) (runBody u .createFirst args) (runBody u .createFirst args) := by
  unfold runBody
  dsimp only
  split
  · exact callType_similar _
  · exact .throw rfl

theorem runBody_similar (body : Body) {args args' : List Value}
    (hargs : ∀ name id, args.headD .null ≠ .object name id)
    (hargs' : ∀ name id, args'.headD .null ≠ .object name id)
    (hfirst : SameClass u (args.headD .null) (args'.headD .null))
    (hcreate : Similar (SameClass u) (runBody u .createFirst args) (runBody u .createFirst args')) :
    Similar (SameClass u) (runBody u body args) (runBody u body args') := by
  have hfields := fieldsOf_similar hargs hargs'
  cases body with
  | createFirst => exact hcreate
  | nothing => exact .pure rfl
  | get key fallback => exact hfields.bind fun _ _ h => h.elim
  | isSet key => exact hfields.bind fun _ _ h => h.elim
  | set key =>
      refine Similar.bind (r := fun _ _ => False) ?_ fun _ _ h => h.elim
      exact hfields.bind fun _ _ h => h.elim
  | create name =>
      simp only [runBody]
      split
      · exact instantiate_similar _
      · exact .throw rfl
  | first => exact .pure hfirst
  | build name needed => exact hfields.bind fun _ _ h => h.elim
  | give value => exact .pure rfl
  | fail kind message => exact .throw rfl

end Action

namespace Attribute

open RecordBinding.Action

variable {u : Universe}

theorem isSteady_function (f : Function) {held : List Value}
    (hheld : ∀ name id, held.headD .null ≠ .object name id) : (function f held).IsSteady u := by
  unfold IsSteady call
  dsimp only
  rw [List.append_nil]
  unfold callFunction
  split
  · exact Similar.bind (r := fun _ _ => True) (fun _ _ => .ok trivial) fun _ _ _ =>
      runBody_similar f.body hheld hheld rfl (createFirst_similar held)
  · exact .throw rfl

theorem isSteady_class (c : ClassId) : (value (.type (.cls c))).IsSteady u :=
  instantiate_similar c

theorem isSteady_of_findFactory {implementation : TypeExpr} {name : String} {factory : Attribute}
    (h : u.findFactory implementation name = .ok factory) : factory.IsSteady u := by
  unfold Universe.findFactory at h
  dsimp only at h
  split at h
  · split at h
    · split at h
      · cases h
        exact isSteady_function _ (by simp [Value.null])
      · cases h
    · split at h
      · cases h
        exact isSteady_function _ (by simp)
      · cases h
    · split at h
      · cases h
        exact isSteady_class _
      · cases h
    · cases h
    · cases h
  · cases h

end Attribute

/-- The factory that a registration is given, if any, is steady. -/
def Registration.IsSteady (u : Universe) (r : Registration) : Prop :=
  ∀ factory, r.factory = some factory → factory.IsSteady u

/-- Two accessors give access to one property, with equal types and metadata. -/
structure Accessor.Agrees {σ : Type} (a b : Accessor σ) : Prop where
  name : a.name = b.name
  type : a.type.same b.type = true
  metadata : Scalar.sameList a.metadata b.metadata = true
  tracksPresence : a.tracksPresence = b.tracksPresence

/-- Two bindings have one variant, one definition, one implementation, and the same properties in the same
order, with equal types and metadata. -/
structure Binding.AgreesButType {σ : Type} (b b' : Binding σ) : Prop where
  variant : b.variant = b'.variant
  definition : b.definition = b'.definition
  implementation : b.implementation = b'.implementation
  builderClass : b.builderClass = b'.builderClass
  accessors : List.Forall₂ Accessor.Agrees b.accessors b'.accessors

/-- Two bindings agree: one variant, one definition, one implementation, and the same properties in the
same order, with equal types and metadata. -/
structure Binding.Agrees {σ : Type} (b b' : Binding σ) : Prop where
  variant : b.variant = b'.variant
  type : b.type.same b'.type = true
  definition : b.definition = b'.definition
  implementation : b.implementation = b'.implementation
  builderClass : b.builderClass = b'.builderClass
  accessors : List.Forall₂ Accessor.Agrees b.accessors b'.accessors

/-- Two bindings, one made for each of two types, agree in all but these types. -/
structure Binding.AgreesFor {σ : Type} (t t' : TypeExpr) (b b' : Binding σ) : Prop
    extends b.AgreesButType b' where
  left : b.type = t
  right : b'.type = t'

theorem Binding.AgreesFor.agrees {σ : Type} {t t' : TypeExpr} {b b' : Binding σ}
    (h : AgreesFor t t' b b') (ht : t.same t' = true) : b.Agrees b' :=
  ⟨h.variant, by rw [h.left, h.right, ht], h.definition, h.implementation, h.builderClass,
    h.accessors⟩

namespace Action

variable {u u' : Universe}

theorem exists_chooseFactory (u : Universe) (given : Option Attribute) (implementation : TypeExpr)
    (name : String) :
    ∃ chosen, chooseFactory u given implementation name = ofExcept chosen ∧
      ∀ factory, chosen = .ok factory →
        given = some factory ∨ u.findFactory implementation name = .ok factory := by
  unfold chooseFactory
  split
  · split
    · exact ⟨.ok _, rfl, fun _ h => .inl (congrArg some (Except.ok.inj h))⟩
    · exact ⟨_, rfl, fun _ h => .inr h⟩
  · exact ⟨.ok _, rfl, fun _ h => .inl (congrArg some (Except.ok.inj h))⟩
  · exact ⟨_, rfl, fun _ h => .inr h⟩

theorem chooseFactory_similar {given : Option Attribute}
    (hgiven : ∀ factory, given = some factory → factory.IsSteady u) (implementation : TypeExpr)
    (name : String) :
    Similar (fun a b => a = b ∧ a.IsSteady u) (chooseFactory u given implementation name)
      (chooseFactory u given implementation name) := by
  obtain ⟨chosen, hchosen, hfrom⟩ := exists_chooseFactory u given implementation name
  rw [hchosen]
  refine .ofExcept ?_
  cases chosen with
  | error e => exact .error rfl
  | ok factory =>
      refine .ok ⟨rfl, ?_⟩
      rcases hfrom factory rfl with hgiven' | hfound
      · exact hgiven factory hgiven'
      · exact Attribute.isSteady_of_findFactory hfound

theorem completeBinding_similar (variant : Variant) (a b : TypeExpr)
    (as bs : List (Accessor World)) :
    Similar (fun _ _ => True) (completeBinding u variant a as) (completeBinding u' variant b bs) :=
  fun _ _ => .ok trivial

/-- An immutable binding sees of its type the properties only, and of its factory the class of what that
makes. -/
theorem bindImmutable_agree {a b definition implementation : TypeExpr} {builder : Option Attribute}
    {w w' : World}
    (hdeclared : Agree (List.Forall₂ DeclaredProperty.Same) (u.discover a definition)
      (u.discover b definition))
    (hmade : ∀ factory,
      builder = some factory ∨ u.findFactory implementation "builder" = .ok factory →
        Agree (SameClass u) ((factory.call u []).run w).1 ((factory.call u []).run w').1) :
    Agree (Binding.AgreesFor a b)
      ((bindImmutable u a definition implementation builder).run w).1
      ((bindImmutable u b definition implementation builder).run w').1 := by
  obtain ⟨chosen, hchosen, hfrom⟩ := exists_chooseFactory u builder implementation "builder"
  unfold bindImmutable
  rw [hchosen]
  cases chosen with
  | error e => exact .error rfl
  | ok factory =>
      change Agree _ ((builderClass u factory implementation >>= _).run w).1
        ((builderClass u factory implementation >>= _).run w').1
      refine Similar.after (builderClass_agree (hmade factory (hfrom factory rfl)) rfl) ?_
      rintro builderId _ rfl
      refine (findBuild_similar builderId implementation).bind ?_
      rintro build _ rfl
      refine (discover_similar hdeclared).bind fun ps qs hpq => ?_
      refine Similar.bind (r := List.Forall₂ Accessor.Agrees) (.mapM hpq fun p q hp => ?_)
        fun as bs hab => (completeBinding_similar _ _ _ _ _).bind fun _ _ _ =>
          .pure ⟨⟨rfl, rfl, rfl, rfl, hab⟩, rfl, rfl⟩
      rw [u.builderSetter_congr builderId definition hp]
      refine (Similar.ofExcept (Agree.refl (r := Eq) (fun _ => rfl) _)).bind ?_
      rintro setter _ rfl
      exact .pure ⟨hp.name, hp.type, hp.metadata, rfl⟩

theorem bindModifiable_similar {a b definition : TypeExpr} (implementation : TypeExpr)
    (create : Option Attribute)
    (hdeclared : Agree (List.Forall₂ DeclaredProperty.Same) (u.discover a definition)
      (u.discover b definition)) :
    Similar (Binding.AgreesFor a b) (bindModifiable u a definition implementation create)
      (bindModifiable u b definition implementation create) := by
  obtain ⟨chosen, hchosen, -⟩ := exists_chooseFactory u create implementation "create"
  unfold bindModifiable
  rw [hchosen]
  refine (Similar.ofExcept (Agree.refl (r := Eq) (fun _ => rfl) _)).bind ?_
  rintro factory _ rfl
  refine (discover_similar hdeclared).bind fun ps qs hpq => ?_
  refine Similar.bind (r := List.Forall₂ Accessor.Agrees) (.mapM hpq fun p q hp => ?_)
    fun as bs hab => (completeBinding_similar _ _ _ _ _).bind fun _ _ _ =>
      .pure ⟨⟨rfl, rfl, rfl, rfl, hab⟩, rfl, rfl⟩
  refine (findSetter_similar implementation hp).bind fun setter setter' _ => ?_
  rw [hp.name]
  refine (Similar.ofExcept (Agree.refl (r := Eq) (fun _ => rfl) _)).bind ?_
  rintro probe _ rfl
  exact .pure ⟨rfl, hp.type, hp.metadata, rfl⟩

end Action

namespace Registration

variable {u : Universe} {r : Registration} {a b : TypeExpr}

/-- In one world, a registration makes of types with the same properties bindings that agree in all but
the types they are made for. -/
theorem bind_agree
    (h : Agree (List.Forall₂ DeclaredProperty.Same) (u.discover a r.definition)
      (u.discover b r.definition)) (w : World) :
    Agree (Binding.AgreesFor a b) ((r.bind u a).run w).1 ((r.bind u b).run w).1 := by
  unfold bind
  split
  · exact Action.bindImmutable_agree h fun _ _ =>
      .refl (r := Action.SameClass u) (fun _ => rfl) _
  · exact Action.bindModifiable_similar _ _ h w w

theorem bind_similar (hr : r.IsSteady u) (h : a.same b = true) (ha : a.IsClassType) :
    Action.Similar Binding.Agrees (r.bind u a) (r.bind u b) := by
  have hdeclared := u.discover_congr h ha r.definition
  have hsimilar : Action.Similar (Binding.AgreesFor a b) (r.bind u a) (r.bind u b) := by
    unfold bind
    split
    · refine fun w w' => Action.bindImmutable_agree hdeclared fun factory hfactory => ?_
      rcases hfactory with hgiven | hfound
      · exact hr factory hgiven w w'
      · exact Attribute.isSteady_of_findFactory hfound w w'
    · exact Action.bindModifiable_similar _ _ hdeclared
  exact fun w w' => (hsimilar w w').mono fun _ _ hb => hb.agrees h

end Registration

end RecordBinding
