import RecordBinding.Proofs.Binding.Congruence
import RecordBinding.Proofs.Property.Renaming

namespace RecordBinding

open RecordBinding.Action (Similar)

/-- The methods whose annotations a binding reads in the class that it looks them up in. -/
def IsDriven (name : String) : Prop :=
  name = "build" ∨ ∃ property, name = setterName property

/-- New names with which the annotations of inherited setters and builds mean, in the class that inherits
them, what they meant there. -/
def NewNames.SpareInherited (g : NewNames) (m : ModuleDeclaration) : Prop :=
  ∀ c d name member, m.toUniverse.classes.member? c name = some (d, member) → d ≠ c → IsDriven name →
    ∀ n ∈ member.mentions,
      (m.toUniverse.scopeOf c).Renames g.renaming (g d) ((m.toUniverse.rename g).scopeOf c) n

def Registration.rename (ρ : Renaming) (r : Registration) : Registration :=
  { r with
    definition := r.definition.rename ρ
    implementation := r.implementation.rename ρ }

theorem Classes.mem_of_member? {classes : Classes} {c d : ClassId} {name : String} {member : Member}
    (h : classes.member? c name = some (d, member)) :
    d ∈ classes.ancestors c ∧ member ∈ classes.ownMembers d := by
  unfold member? at h
  generalize classes.ancestors c = along at h ⊢
  induction along with
  | nil => cases h
  | cons a as ih =>
      rw [memberAlong?] at h
      split at h
      · next found hfound =>
          cases h
          exact ⟨List.mem_cons_self, List.mem_of_find?_eq_some hfound⟩
      · obtain ⟨hd, hfound⟩ := ih h
        exact ⟨List.mem_cons_of_mem a hd, hfound⟩

theorem Signature.binds_rename (h : String → String) (parameters : Signature) (count : Nat) :
    binds (parameters.map (Parameter.rename h)) count = parameters.binds count := by
  induction parameters generalizing count with
  | nil => rfl
  | cons p ps ih =>
      have hkind : (p.rename h).kind = p.kind := rfl
      have hdefault : (p.rename h).hasDefault = p.hasDefault := rfl
      simp only [List.map_cons, binds, hkind, hdefault, ih]

theorem Action.callFunction_rename (u : Universe) (h : String → String) (f : Function)
    (args : List Value) : callFunction u (f.rename h) args = callFunction u f args := by
  unfold callFunction
  rw [Function.rename]
  simp only [Signature.binds_rename]

theorem Action.callType_rename (u : Universe) (ρ : Renaming) (t : TypeExpr) :
    callType u (t.rename ρ) = callType u t := by
  induction t using TypeExpr.induct with
  | step t ih =>
      cases t with
      | annotated inner metadata => exact ih inner (by simp [TypeExpr.parts])
      | _ => rfl

theorem TypeExpr.RenamesTo.isUnresolved {ρ : Renaming} {h : String → String} {t t' : TypeExpr}
    (ht : t.RenamesTo ρ h t') : t'.isUnresolved = t.isUnresolved := by
  cases ht with
  | type => exact isUnresolved_rename ρ t
  | text source => rfl

theorem TypeExpr.RenamesTo.erase {ρ : Renaming} {h : String → String} {t t' : TypeExpr}
    (ht : t.RenamesTo ρ h t') : t'.erase = t.erase := by
  cases ht with
  | type => exact erase_rename ρ t
  | text source => rfl

namespace Universe

variable {g : NewNames} {u : Universe}

theorem boundTakesNothing_rename (h : String → String) (parameters : Signature) :
    boundTakesNothing (parameters.map (Parameter.rename h)) = boundTakesNothing parameters := by
  cases parameters with
  | nil => rfl
  | cons first rest =>
      have hrest := Function.takesExactly_rename h rest 0 true
      have hall := Function.takesExactly_rename h (first :: rest) 0 true
      rw [List.map_cons] at hall ⊢
      simp only [boundTakesNothing, hrest, hall]
      rfl

theorem classOf_rename (v : Value) : (u.rename g).classOf v = u.classOf v := by
  cases v with
  | type t =>
      cases t with
      | cls c => simp only [classOf, classOfType, rename, Classes.ancestors_rename]
      | generic origin args => cases origin <;> rfl
      | union style members => cases style <;> rfl
      | _ => rfl
  | opaqueObject kind text => rfl
  | _ => rfl

theorem classOf_type_rename (ρ : Renaming) (t : TypeExpr) :
    u.classOf (.type (t.rename ρ)) = u.classOf (.type t) := by
  cases t with
  | generic origin args => cases origin <;> rfl
  | union style members => cases style <;> rfl
  | _ => rfl

theorem admits_rename {supplied supplied' hint hint' : TypeExpr} {h h' : String → String}
    (hsupplied : supplied.RenamesTo g.renaming h supplied')
    (hhint : hint.RenamesTo g.renaming h' hint') :
    (u.rename g).admits supplied' hint' = u.admits supplied hint := by
  simp only [admits, hsupplied.isUnresolved, hhint.isUnresolved, hsupplied.erase, hhint.erase, rename,
    inherits, Classes.isProtocol_rename, Classes.inherits_rename]

theorem staticMember?_rename (t : TypeExpr) (name : String) :
    (u.staticMember? t name = none ∧ (u.rename g).staticMember? (t.rename g.renaming) name = none) ∨
      ∃ c d member, t.class? = some c ∧ u.classes.member? c name = some (d, member) ∧
        u.staticMember? t name = some member ∧
        (u.rename g).staticMember? (t.rename g.renaming) name = some (member.rename (g d)) := by
  unfold staticMember?
  rw [TypeExpr.class?_rename]
  cases t.class? with
  | none => exact .inl ⟨rfl, rfl⟩
  | some c =>
      have hrename : (u.rename g).classes.member? c name = _ := Classes.member?_rename g c name
      simp only [Option.bind_some, hrename]
      cases hmember : u.classes.member? c name with
      | none => exact .inl ⟨rfl, rfl⟩
      | some found =>
          obtain ⟨d, ⟨n, kind, isAbstract⟩⟩ := found
          cases kind with
          | «attribute» v =>
              simp only [Option.map_some, Member.rename, MemberKind.rename]
              split
              · exact .inl ⟨rfl, rfl⟩
              · exact .inr ⟨c, d, _, rfl, hmember, rfl, rfl⟩
          | _ => exact .inr ⟨c, d, _, rfl, hmember, rfl, rfl⟩

end Universe

namespace ModuleDeclaration

variable {g : NewNames} {m : ModuleDeclaration}

theorem renames_of_member? (hg : g.Suit m) (hspare : g.SpareInherited m) {c d : ClassId}
    {name : String} {member : Member} (hmember : m.toUniverse.classes.member? c name = some (d, member))
    (hdriven : IsDriven name) {f : Function} (hf : f ∈ member.functions) :
    ∀ source ∈ f.annotations, ∀ n ∈ source.names,
      (m.toUniverse.scopeOf c).Renames g.renaming (g d) ((m.toUniverse.rename g).scopeOf c) n := by
  intro source hsource n hn
  by_cases hown : d = c
  · subst hown
    obtain ⟨info, hinfo, hmem⟩ := Classes.exists_of_mem_functions (Classes.mem_of_member? hmember).2 hf
    exact renames_of_mem hg hinfo hmem hf source hsource n hn
  · exact hspare c d name member hmember hown hdriven n
      (List.mem_flatMap.2 ⟨f, hf, List.mem_flatMap.2 ⟨source, hsource, hn⟩⟩)

theorem instantiate_rename (c : ClassId) :
    Action.instantiate (m.toUniverse.rename g) c = Action.instantiate m.toUniverse c := by
  have hfields : ∀ c, (m.toUniverse.rename g).initialFields c = m.toUniverse.initialFields c := by
    intro c
    have hfind : ∀ a, (m.toUniverse.rename g).classes.find? a = _ := Classes.find?_rename g
    have hancestors : (m.toUniverse.rename g).classes.ancestors c = _ := Classes.ancestors_rename g c
    simp only [Universe.initialFields, hancestors, hfind]
    refine congrArg (List.foldl · [] _) (funext fun fields => funext fun a => ?_)
    cases m.toUniverse.classes.find? a <;> rfl
  cases c with
  | declared name =>
      have hfind : (m.toUniverse.rename g).classes.find? (.declared name) = _ :=
        Classes.find?_rename g (.declared name)
      simp only [Action.instantiate, hfind, hfields]
      cases m.toUniverse.classes.find? (.declared name) <;> rfl
  | _ => rfl

theorem callType_rename (t : TypeExpr) :
    Action.callType (m.toUniverse.rename g) t = Action.callType m.toUniverse t := by
  induction t using TypeExpr.induct with
  | step t ih =>
      cases t with
      | cls c => exact instantiate_rename c
      | generic c args => exact instantiate_rename c
      | annotated inner metadata => exact ih inner (by simp [TypeExpr.parts])
      | _ => rfl

theorem classNamed?_rename (name : String) :
    (m.toUniverse.rename g).classNamed? name = m.toUniverse.classNamed? name := by
  have hresolve := renames_scope g m name
  unfold Universe.classNamed?
  rw [Scope.Renames, id] at hresolve
  rw [hresolve]
  cases m.toUniverse.scope.resolve? name with
  | none => rfl
  | some t => cases t <;> rfl

theorem runBody_rename (body : Body) (args : List Value) :
    Action.runBody (m.toUniverse.rename g) body args = Action.runBody m.toUniverse body args := by
  unfold Action.runBody
  simp only [classNamed?_rename, instantiate_rename, callType_rename]

theorem call_rename (factory : Attribute) :
    factory.call (m.toUniverse.rename g) [] = factory.call m.toUniverse [] := by
  cases factory with
  | function f held => simp only [Attribute.call, Action.callFunction, runBody_rename]
  | value v =>
      cases v with
      | type t => exact callType_rename t
      | _ => rfl
  | _ => rfl

/-- Two factories make values of one class, or fail alike, in the universe and with the new names. -/
abbrev MakeAlike (g : NewNames) (m : ModuleDeclaration) (factory factory' : Attribute) : Prop :=
  ∀ w : World, Agree (fun v v' => m.toUniverse.classOf v = (m.toUniverse.rename g).classOf v')
    ((factory.call m.toUniverse []).run w).1 ((factory'.call (m.toUniverse.rename g) []).run w).1

theorem makeAlike_self (factory : Attribute) : MakeAlike g m factory factory := by
  intro w
  rw [call_rename]
  exact .refl (fun v => (Universe.classOf_rename v).symm) _

theorem makeAlike_function (f : Function) (h : String → String) {held held' : List Value}
    (hlength : held.length = held'.length)
    (hheld : ∀ name id, held.headD .null ≠ .object name id)
    (hheld' : ∀ name id, held'.headD .null ≠ .object name id)
    (hfirst : Action.SameClass m.toUniverse (held.headD .null) (held'.headD .null))
    (hcreate : Similar (Action.SameClass m.toUniverse) (Action.runBody m.toUniverse .createFirst held)
      (Action.runBody m.toUniverse .createFirst held')) :
    MakeAlike g m (.function f held) (.function (f.rename h) held') := by
  have hrename : (Attribute.function (f.rename h) held').call (m.toUniverse.rename g) [] =
      (Attribute.function f held').call m.toUniverse [] := by
    rw [call_rename]
    exact Action.callFunction_rename m.toUniverse h f (held' ++ [])
  have hsimilar : Similar (Action.SameClass m.toUniverse) ((Attribute.function f held).call m.toUniverse [])
      ((Attribute.function f held').call m.toUniverse []) := by
    simp only [Attribute.call, List.append_nil, Action.callFunction, hlength]
    split
    · exact Similar.bind (r := fun _ _ => True) (fun _ _ => .ok trivial) fun _ _ _ =>
        Action.runBody_similar f.body hheld hheld' hfirst hcreate
    · exact .throw rfl
  intro w
  rw [hrename]
  refine (hsimilar w w).mono fun v v' hclass => ?_
  rw [Universe.classOf_rename]
  exact hclass

theorem callsEmpty_rename (c : ClassId) :
    (m.toUniverse.rename g).callsEmpty c = m.toUniverse.callsEmpty c := by
  have hancestors : (m.toUniverse.rename g).classes.ancestors c = _ := Classes.ancestors_rename g c
  simp only [Universe.callsEmpty, hancestors]

theorem findFactory_rename (implementation : TypeExpr) (name : String) :
    Agree (MakeAlike g m) (m.toUniverse.findFactory implementation name)
      ((m.toUniverse.rename g).findFactory (implementation.rename g.renaming) name) := by
  have hname : implementation.qualname? = (implementation.rename g.renaming).qualname? :=
    (TypeExpr.qualname?_rename g.renaming implementation).symm
  unfold Universe.findFactory
  rcases Universe.staticMember?_rename implementation name with
    ⟨hnone, hnone'⟩ | ⟨c, d, member, -, -, hsome, hsome'⟩
  · rw [hnone, hnone']
    exact .error (shapeError_kind hname _ _)
  · rw [hsome, hsome']
    obtain ⟨n, kind, isAbstract⟩ := member
    cases kind with
    | staticMethod f =>
        have hparameters := Function.takesExactly_rename (g d) f.parameters 0 true
        simp only [Member.rename, MemberKind.rename, Function.rename, hparameters]
        split
        · exact .ok (makeAlike_function f (g d) rfl (by simp [Value.null]) (by simp [Value.null]) rfl
            (Action.createFirst_similar []))
        · exact .error (shapeError_kind hname _ _)
    | classMethod f =>
        simp only [Member.rename, MemberKind.rename, Function.rename, Universe.boundTakesNothing_rename]
        split
        · refine .ok (makeAlike_function f (g d) rfl (by simp) (by simp) ?_ ?_)
          · exact (Universe.classOf_type_rename g.renaming implementation).symm
          · change Similar _ (Action.callType _ implementation)
              (Action.callType _ (implementation.rename g.renaming))
            rw [Action.callType_rename]
            exact Action.callType_similar implementation
        · exact .error (shapeError_kind hname _ _)
    | staticValue v =>
        cases v with
        | type t =>
            cases t with
            | cls c =>
                simp only [Member.rename, MemberKind.rename, callsEmpty_rename]
                split
                · exact .ok (makeAlike_self _)
                · exact .error (shapeError_kind hname _ _)
            | _ => exact .error (shapeError_kind hname _ _)
        | _ => exact .error (shapeError_kind hname _ _)
    | _ => exact .error (shapeError_kind hname _ _)

theorem chooseFactory_rename (given : Option Attribute) (implementation : TypeExpr) (name : String) :
    ∃ chosen chosen', Agree (MakeAlike g m) chosen chosen' ∧
      Action.chooseFactory m.toUniverse given implementation name = Action.ofExcept chosen ∧
      Action.chooseFactory (m.toUniverse.rename g) given (implementation.rename g.renaming) name =
        Action.ofExcept chosen' := by
  have hfound := findFactory_rename (g := g) (m := m) implementation name
  unfold Action.chooseFactory
  split
  · split
    · exact ⟨_, _, .ok (makeAlike_self _), rfl, rfl⟩
    · exact ⟨_, _, hfound, rfl, rfl⟩
  · exact ⟨_, _, .ok (makeAlike_self _), rfl, rfl⟩
  · exact ⟨_, _, hfound, rfl, rfl⟩

theorem method_cases (hg : g.Suit m) (hspare : g.SpareInherited m) (t : TypeExpr)
    {name : String} (hdriven : IsDriven name) :
    (∃ c f h, t.class? = some c ∧ (m.toUniverse.staticMember? t name).map Member.kind = some (.method f) ∧
        ((m.toUniverse.rename g).staticMember? (t.rename g.renaming) name).map Member.kind =
          some (.method (f.rename h)) ∧
        ∀ source ∈ f.annotations, ∀ n ∈ source.names,
          (m.toUniverse.scopeOf c).Renames g.renaming h ((m.toUniverse.rename g).scopeOf c) n) ∨
      (∀ f, (m.toUniverse.staticMember? t name).map Member.kind ≠ some (.method f)) ∧
        ∀ f, ((m.toUniverse.rename g).staticMember? (t.rename g.renaming) name).map Member.kind ≠
          some (.method f) := by
  rcases Universe.staticMember?_rename (g := g) (u := m.toUniverse) t name with
    ⟨hnone, hnone'⟩ | ⟨c, d, member, hclass, hmember, hsome, hsome'⟩
  · exact .inr ⟨by simp [hnone], by simp [hnone']⟩
  · rw [hsome, hsome']
    cases hkind : member.kind with
    | method f =>
        refine .inl ⟨c, f, g d, hclass, by simp [hkind], by simp [Member.rename, MemberKind.rename, hkind],
          renames_of_member? hg hspare hmember hdriven (by simp [Member.functions, hkind])⟩
    | _ => exact .inr ⟨by simp [hkind], by simp [Member.rename, MemberKind.rename, hkind]⟩

theorem actionReturnHint_rename {f : Function} {c : ClassId} {h : String → String}
    (hf : ∀ source ∈ f.annotations, ∀ n ∈ source.names,
      (m.toUniverse.scopeOf c).Renames g.renaming h ((m.toUniverse.rename g).scopeOf c) n) :
    Similar (TypeExpr.RenamesTo g.renaming h) (Action.returnHint m.toUniverse f c)
      (Action.returnHint (m.toUniverse.rename g) (f.rename h) c) := by
  unfold Action.returnHint
  exact (Similar.ofExcept (returnHint_rename hf)).bind fun hint hint' hhint =>
    (Action.reportHint_similar _ _ _ _ _ _).bind fun _ _ _ => .pure hhint.type

theorem findBuild_rename (hg : g.Suit m) (hspare : g.SpareInherited m) (builder : ClassId)
    (implementation : TypeExpr) :
    Similar (fun _ _ => True) (Action.findBuild m.toUniverse builder implementation)
      (Action.findBuild (m.toUniverse.rename g) builder (implementation.rename g.renaming)) := by
  have hname := TypeExpr.qualname?_rename g.renaming implementation
  have hbuilder : (TypeExpr.cls builder).rename g.renaming = .cls builder := rfl
  unfold Action.findBuild
  rcases method_cases hg hspare (.cls builder) (.inl rfl) with
    ⟨c, f, h, hclass, hmethod, hmethod', hscope⟩ | ⟨hnone, hnone'⟩
  · obtain rfl : builder = c := Option.some.inj hclass
    rw [hbuilder] at hmethod'
    have htakes : (f.rename h).takesExactly 0 = f.takesExactly 0 :=
      Function.takesExactly_rename h f.parameters 0 false
    rw [hmethod, hmethod']
    simp only [htakes]
    split
    · refine (actionReturnHint_rename hscope).bind fun produced produced' hproduced => ?_
      rw [Universe.admits_rename (h := h) (.type implementation) hproduced]
      split
      · exact .pure trivial
      · exact .throw (shapeError_kind hname.symm _ _)
    · exact .throw rfl
  · rw [hbuilder] at hnone'
    split
    · next f hf => exact absurd hf (hnone f)
    · exact .throw rfl

theorem argumentHint?_rename {f : Function} {c : ClassId} {h : String → String}
    (hf : ∀ source ∈ f.annotations, ∀ n ∈ source.names,
      (m.toUniverse.scopeOf c).Renames g.renaming h ((m.toUniverse.rename g).scopeOf c) n) :
    Agree (fun hint hint' => hint' = hint.map (TypeExpr.rename g.renaming))
      (m.toUniverse.argumentHint? f c) ((m.toUniverse.rename g).argumentHint? (f.rename h) c) := by
  have hevaluated := f.argumentHint?_rename (alike_scopeOf g m c) hf
  unfold Universe.argumentHint?
  generalize f.argumentHint? (m.toUniverse.scopeOf c) = x at hevaluated
  generalize (f.rename h).argumentHint? ((m.toUniverse.rename g).scopeOf c) = y at hevaluated
  cases hevaluated with
  | ok hint => exact .ok rfl
  | _ => exact .error rfl

theorem checkArgument_rename (implementation : TypeExpr) {p q : DeclaredProperty}
    (hpq : p.RenamesTo g q) {f : Function} {c : ClassId} {h : String → String}
    (hf : ∀ source ∈ f.annotations, ∀ n ∈ source.names,
      (m.toUniverse.scopeOf c).Renames g.renaming h ((m.toUniverse.rename g).scopeOf c) n) :
    Similar (fun _ _ => True) (Action.checkArgument m.toUniverse implementation p f c)
      (Action.checkArgument (m.toUniverse.rename g) (implementation.rename g.renaming) q (f.rename h) c) := by
  have hname := TypeExpr.qualname?_rename g.renaming implementation
  unfold Action.checkArgument
  refine (Similar.ofExcept (argumentHint?_rename hf)).bind ?_
  rintro accepted _ rfl
  cases accepted with
  | none => exact .pure trivial
  | some accepted =>
      dsimp only [Option.map_some]
      rw [Universe.admits_rename hpq.type (.type (g := h) accepted)]
      split
      · exact .pure trivial
      · exact .throw (shapeError_kind hname.symm _ _)

theorem findSetter_rename (hg : g.Suit m) (hspare : g.SpareInherited m)
    (implementation : TypeExpr) {p q : DeclaredProperty} (hpq : p.RenamesTo g q) :
    Similar (fun _ _ => True) (Action.findSetter m.toUniverse implementation p)
      (Action.findSetter (m.toUniverse.rename g) (implementation.rename g.renaming) q) := by
  have hname := TypeExpr.qualname?_rename g.renaming implementation
  unfold Action.findSetter
  rw [hpq.name, TypeExpr.class?_rename]
  dsimp only
  rcases method_cases hg hspare implementation (.inr ⟨p.name, rfl⟩) with
    ⟨c, f, h, hclass, hmethod, hmethod', hscope⟩ | ⟨hnone, hnone'⟩
  · have htakes : (f.rename h).takesExactly 1 = f.takesExactly 1 :=
      Function.takesExactly_rename h f.parameters 1 false
    rw [hmethod, hmethod', hclass, Option.getD_some]
    simp only [htakes]
    split
    · refine (checkArgument_rename implementation hpq hscope).bind fun _ _ _ => ?_
      refine (actionReturnHint_rename hscope).bind fun returned returned' hreturned => ?_
      rw [Universe.admits_rename (h := h) (.type implementation) hreturned]
      split
      · exact .pure trivial
      · exact .throw (shapeError_kind hname.symm _ _)
    · exact .throw (shapeError_kind hname.symm _ _)
  · split
    · next f hf => exact absurd hf (hnone f)
    · exact .throw (shapeError_kind hname.symm _ _)

theorem findProbe_rename (implementation : TypeExpr) (property : String) :
    Agree (fun probe probe' => probe'.isSome = probe.isSome)
      (m.toUniverse.findProbe implementation property)
      ((m.toUniverse.rename g).findProbe (implementation.rename g.renaming) property) := by
  have hname := TypeExpr.qualname?_rename g.renaming implementation
  unfold Universe.findProbe
  dsimp only
  rcases Universe.staticMember?_rename (g := g) (u := m.toUniverse) implementation (probeName property) with
    ⟨hnone, hnone'⟩ | ⟨c, d, member, -, -, hsome, hsome'⟩
  · rw [hnone, hnone']
    exact .ok rfl
  · rw [hsome, hsome']
    obtain ⟨n, kind, isAbstract⟩ := member
    cases kind with
    | method f =>
        have htakes : (f.rename (g d)).takesExactly 0 = f.takesExactly 0 :=
          Function.takesExactly_rename (g d) f.parameters 0 false
        simp only [Member.rename, MemberKind.rename, htakes]
        split
        · -- the probes are functions in two universes, of which only the presence is compared
          exact .ok (show true = true from rfl)
        · exact .error (shapeError_kind hname.symm _ _)
    | property getter => exact .ok (show true = true from rfl)
    | _ => exact .error (shapeError_kind hname.symm _ _)

theorem builderSetter_rename (builder : ClassId) (definition : TypeExpr) {p q : DeclaredProperty}
    (hpq : p.RenamesTo g q) :
    Agree (fun _ _ => True) (m.toUniverse.builderSetter builder definition p)
      ((m.toUniverse.rename g).builderSetter builder (definition.rename g.renaming) q) := by
  have hname := TypeExpr.qualname?_rename g.renaming definition
  have hbuilder : (TypeExpr.cls builder).rename g.renaming = .cls builder := rfl
  unfold Universe.builderSetter
  dsimp only
  rw [hpq.name]
  rcases Universe.staticMember?_rename (g := g) (u := m.toUniverse) (.cls builder) p.name with
    ⟨hnone, hnone'⟩ | ⟨c, d, member, -, -, hsome, hsome'⟩
  · rw [hbuilder] at hnone'
    rw [hnone, hnone']
    exact .error (shapeError_kind hname.symm _ _)
  · rw [hbuilder] at hsome'
    rw [hsome, hsome']
    obtain ⟨n, kind, isAbstract⟩ := member
    cases kind with
    | method f =>
        have htakes : (f.rename (g d)).takesExactly 1 = f.takesExactly 1 :=
          Function.takesExactly_rename (g d) f.parameters 1 false
        simp only [Member.rename, MemberKind.rename, htakes]
        split
        · exact .ok trivial
        · exact .error (shapeError_kind hname.symm _ _)
    | overload base cases =>
        simp only [Member.rename, MemberKind.rename]
        generalize (if p.type.isUnresolved then _ else _ : Option Function) = captured
        generalize (if q.type.isUnresolved then _ else _ : Option Function) = captured'
        cases captured <;> cases captured' <;> exact .ok trivial
    | _ => exact .error (shapeError_kind hname.symm _ _)

end ModuleDeclaration

/-- An accessor before and after classes have new names for their type parameters. -/
structure Accessor.RenamesTo {σ : Type} (g : NewNames) (a b : Accessor σ) : Prop where
  name : b.name = a.name
  type : ∃ c, a.type.RenamesTo g.renaming (g c) b.type
  owner : b.owner = a.owner.rename g.renaming
  metadata : b.metadata = a.metadata
  tracksPresence : b.tracksPresence = a.tracksPresence

/-- A binding before and after classes have new names for their type parameters. -/
structure Binding.RenamesTo {σ : Type} (g : NewNames) (b b' : Binding σ) : Prop where
  variant : b'.variant = b.variant
  type : b'.type = b.type.rename g.renaming
  definition : b'.definition = b.definition.rename g.renaming
  implementation : b'.implementation = b.implementation.rename g.renaming
  builderClass : b'.builderClass = b.builderClass
  accessors : List.Forall₂ (Accessor.RenamesTo g) b.accessors b'.accessors

namespace ModuleDeclaration

variable {g : NewNames} {m : ModuleDeclaration}

theorem bindImmutable_rename (hg : g.Suit m) (hspare : g.SpareInherited m)
    (resolved definition implementation : TypeExpr) (builder : Option Attribute) (w : World) :
    Agree (Binding.RenamesTo g)
      ((Action.bindImmutable m.toUniverse resolved definition implementation builder).run w).1
      ((Action.bindImmutable (m.toUniverse.rename g) (resolved.rename g.renaming)
        (definition.rename g.renaming) (implementation.rename g.renaming) builder).run w).1 := by
  have hname := TypeExpr.qualname?_rename g.renaming implementation
  obtain ⟨chosen, chosen', hchosen, hchoose, hchoose'⟩ :=
    chooseFactory_rename (g := g) (m := m) builder implementation "builder"
  unfold Action.bindImmutable
  rw [hchoose, hchoose']
  cases hchosen with
  | error hkind => exact .error hkind
  | @ok factory factory' hfactory =>
      have hpure : ∀ a : Attribute, (Action.ofExcept (.ok a) : Action World Attribute) = pure a :=
        fun _ => rfl
      rw [hpure, hpure, pure_bind, pure_bind]
      -- a given factory may do anything in the world at hand; what comes after does not depend on the world
      refine Similar.after (Action.builderClass_agree (hfactory w) hname.symm) ?_
      rintro builderId _ rfl
      refine (findBuild_rename hg hspare builderId implementation).bind fun _ _ _ => ?_
      refine (Action.discover_similar (discover_rename hg resolved definition)).bind fun ps qs hpq => ?_
      refine Similar.bind (r := List.Forall₂ (Accessor.RenamesTo g)) (.mapM hpq fun p q hp => ?_)
        fun as bs hab => (Action.completeBinding_similar _ _ _ _ _).bind fun _ _ _ =>
          .pure ⟨rfl, rfl, rfl, rfl, rfl, hab⟩
      refine (Similar.ofExcept (builderSetter_rename builderId definition hp)).bind fun _ _ _ => ?_
      exact .pure ⟨hp.name, ⟨_, hp.type⟩, rfl, hp.metadata, rfl⟩

theorem bindModifiable_rename (hg : g.Suit m) (hspare : g.SpareInherited m)
    (resolved definition implementation : TypeExpr) (create : Option Attribute) :
    Similar (Binding.RenamesTo g)
      (Action.bindModifiable m.toUniverse resolved definition implementation create)
      (Action.bindModifiable (m.toUniverse.rename g) (resolved.rename g.renaming)
        (definition.rename g.renaming) (implementation.rename g.renaming) create) := by
  obtain ⟨chosen, chosen', hchosen, hchoose, hchoose'⟩ :=
    chooseFactory_rename (g := g) (m := m) create implementation "create"
  unfold Action.bindModifiable
  rw [hchoose, hchoose']
  refine (Similar.ofExcept hchosen).bind fun factory factory' _ => ?_
  refine (Action.discover_similar (discover_rename hg resolved definition)).bind fun ps qs hpq => ?_
  refine Similar.bind (r := List.Forall₂ (Accessor.RenamesTo g)) (.mapM hpq fun p q hp => ?_)
    fun as bs hab => (Action.completeBinding_similar _ _ _ _ _).bind fun _ _ _ =>
      .pure ⟨rfl, rfl, rfl, rfl, rfl, hab⟩
  refine (findSetter_rename hg hspare implementation hp).bind fun _ _ _ => ?_
  rw [hp.name]
  refine (Similar.ofExcept (findProbe_rename implementation p.name)).bind fun probe probe' hprobe => ?_
  exact .pure ⟨rfl, ⟨_, hp.type⟩, rfl, hp.metadata, hprobe⟩

/-- With new names that mean what the old ones meant wherever a binding looks, it is made or refused as it
was. -/
theorem bind_rename (hg : g.Suit m) (hspare : g.SpareInherited m) (r : Registration)
    (resolved : TypeExpr) (w : World) :
    Agree (Binding.RenamesTo g) ((r.bind m.toUniverse resolved).run w).1
      (((r.rename g.renaming).bind (m.toUniverse.rename g) (resolved.rename g.renaming)).run w).1 := by
  unfold Registration.bind
  simp only [Registration.rename]
  split
  · exact bindImmutable_rename hg hspare _ _ _ _ w
  · exact bindModifiable_rename hg hspare _ _ _ _ w w

end ModuleDeclaration

end RecordBinding
