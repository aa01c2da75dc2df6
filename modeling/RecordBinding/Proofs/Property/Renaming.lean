import RecordBinding.Proofs.Property.Discovery
import RecordBinding.Proofs.Universe.Renaming

namespace RecordBinding

namespace Instantiation

variable (ρ : Renaming)

def rename (walk : Instantiation) : Instantiation :=
  walk.map fun entry => (entry.1, entry.2.rename ρ)

theorem has_rename (walk : Instantiation) (c : ClassId) : has (walk.rename ρ) c = walk.has c := by
  unfold has rename
  rw [List.any_map]
  rfl

theorem entry_rename (walk : Instantiation) (c : ClassId) :
    entry (walk.rename ρ) c = (walk.entry c).rename ρ := by
  unfold entry rename
  rw [List.find?_map]
  change (((walk.find? fun entry => entry.1 = c).map _).map _).getD [] = _
  cases walk.find? fun entry => entry.1 = c <;> rfl

theorem visitLeaf_rename (walk : Instantiation) (c : ClassId) (s : Substitution) :
    visitLeaf (walk.rename ρ) c (s.rename ρ) = (walk.visitLeaf c s).rename ρ := by
  unfold visitLeaf
  rw [has_rename]
  split
  · rfl
  · simp [rename]

theorem update_rename (walk other : Instantiation) :
    update (walk.rename ρ) (other.rename ρ) = (walk.update other).rename ρ := by
  have hfind : ∀ c, (other.rename ρ).find? (fun new => new.1 = c) =
      (other.find? fun new => new.1 = c).map fun entry => (entry.1, entry.2.rename ρ) := by
    intro c
    rw [rename, List.find?_map]
    rfl
  simp only [update, hfind, has_rename]
  simp only [rename, List.map_append, List.map_map, List.filter_map]
  refine congrArg₂ (· ++ ·) (List.map_congr_left fun entry _ => ?_) rfl
  simp only [Function.comp_apply]
  cases other.find? fun new => new.1 = entry.1 <;> rfl

theorem resolve_rename (walk : Instantiation) (c : ClassId) (t : TypeExpr) :
    resolve (walk.rename ρ) c (t.rename ρ) = (walk.resolve c t).rename ρ := by
  rw [resolve, resolve, entry_rename, TypeExpr.substitute_rename]

end Instantiation

namespace Substitution

theorem ofArguments_rename (ρ : Renaming) (params : List TypeVar) (args : List TypeExpr) :
    ofArguments (params.map ρ) (args.map (TypeExpr.rename ρ)) = (ofArguments params args).rename ρ :=
  List.zip_map

end Substitution

namespace Classes

variable (g : NewNames)

theorem visitedBase?_rename (ρ : Renaming) (base : TypeExpr) :
    visitedBase? (base.rename ρ) = visitedBase? base := by
  cases base <;> rfl

theorem baseSubstitution_rename (earlier : Classes) (s : Substitution) (base : TypeExpr) (b : ClassId) :
    baseSubstitution (earlier.rename g) (s.rename g.renaming) (base.rename g.renaming) b =
      (baseSubstitution earlier s base b).rename g.renaming := by
  have hargs : (baseArguments (base.rename g.renaming)).map (TypeExpr.substitute (s.rename g.renaming)) =
      ((baseArguments base).map (TypeExpr.substitute s)).map (TypeExpr.rename g.renaming) := by
    cases base with
    | generic origin args =>
        simp only [TypeExpr.rename, TypeExpr.renameAll_eq_map, baseArguments, List.map_map]
        exact List.map_congr_left fun arg _ => TypeExpr.substitute_rename g.renaming s arg
    | _ => rfl
  rw [baseSubstitution, baseSubstitution, parameters_rename, hargs, Substitution.ofArguments_rename]

theorem visit_rename (classes : Classes) (c : ClassId) (s : Substitution) (walk : Instantiation) :
    visit (classes.rename g) c (s.rename g.renaming) (walk.rename g.renaming) =
      (visit classes c s walk).rename g.renaming := by
  -- bases are entered among the classes declared earlier, in whatever walk has been made so far
  induction classes generalizing c s walk with
  | nil =>
      simp only [rename, List.map_nil, visit, Instantiation.has_rename]
      split
      · split
        · rfl
        · rw [Instantiation.visitLeaf_rename]
          exact Instantiation.visitLeaf_rename g.renaming _ _ []
      · exact Instantiation.visitLeaf_rename g.renaming walk c s
  | cons info earlier ih =>
      have hbase : ∀ (reached : Instantiation) (base : TypeExpr),
          enterBase (rename g earlier) (s.rename g.renaming) (reached.rename g.renaming)
              (base.rename g.renaming) =
            (enterBase earlier s reached base).rename g.renaming := by
        intro reached base
        unfold enterBase
        rw [visitedBase?_rename]
        cases visitedBase? base with
        | none => rfl
        | some b =>
            dsimp only
            rw [baseSubstitution_rename, ih]
      have hid : (info.rename g).id = info.id := rfl
      rw [rename, List.map_cons, visit_cons, visit_cons, Instantiation.has_rename, hid]
      split
      · split
        · rfl
        · have hstart : walk.rename g.renaming ++ [(c, s.rename g.renaming)] =
              Instantiation.rename g.renaming (walk ++ [(c, s)]) := by
            rw [Instantiation.rename, Instantiation.rename, List.map_append]
            rfl
          simp only [ClassInfo.rename, List.foldl_map]
          rw [hstart]
          exact List.foldl_hom (Instantiation.rename g.renaming) hbase
      · exact ih c s walk

end Classes

namespace Universe

variable (g : NewNames) (u : Universe)

theorem instantiation_rename (t : TypeExpr) :
    (u.rename g).instantiation (t.rename g.renaming) = (u.instantiation t).rename g.renaming := by
  have hparams : (u.rename g).classes.parameters t.erase =
      (u.classes.parameters t.erase).map g.renaming :=
    Classes.parameters_rename g t.erase
  unfold instantiation
  dsimp only
  rw [TypeExpr.erase_rename, hparams, TypeExpr.arguments_rename, Substitution.ofArguments_rename]
  exact Classes.visit_rename g u.classes t.erase _ []

theorem discoveryInstantiation_rename (resolved definition : TypeExpr) :
    (u.rename g).discoveryInstantiation (resolved.rename g.renaming) (definition.rename g.renaming) =
      (u.discoveryInstantiation resolved definition).rename g.renaming := by
  have hupdate := Instantiation.update_rename g.renaming (u.instantiation resolved)
    (u.instantiation definition)
  rw [← instantiation_rename, ← instantiation_rename] at hupdate
  cases definition with
  | cls c =>
      simp only [discoveryInstantiation, TypeExpr.rename, instantiation_rename, Instantiation.has_rename]
      split
      · rfl
      · rw [← instantiation_rename]
        exact hupdate
  | _ => exact hupdate

end Universe

theorem Member.reader?_rename (h : String → String) (member : Member) :
    (member.rename h).reader? = member.reader?.map fun reader => (reader.1.rename h, reader.2) := by
  obtain ⟨name, kind, isAbstract⟩ := member
  cases kind with
  | method f =>
      have htakes : (f.rename h).takesExactly 0 = f.takesExactly 0 :=
        Function.takesExactly_rename h f.parameters 0 false
      simp only [reader?, rename, MemberKind.rename, htakes]
      split <;> rfl
  | property getter => cases getter <;> rfl
  | _ => rfl

theorem Classes.exists_of_mem_functions {classes : Classes} {c : ClassId} {member : Member} {f : Function}
    (h : member ∈ classes.ownMembers c) (hf : f ∈ member.functions) :
    ∃ info, classes.find? c = some info ∧ member ∈ info.members :=
  exists_of_mem_ownMembers h fun v hv => by simp [Member.functions, hv] at hf

theorem Member.mem_functions_of_reader? {member : Member} {f : Function} {isAttribute : Bool}
    (h : member.reader? = some (f, isAttribute)) : f ∈ member.functions := by
  unfold reader? at h
  unfold functions
  split at h
  · next hkind =>
      cases h
      rw [hkind]
      exact List.mem_singleton_self _
  · next hkind =>
      split at h
      · cases h
        rw [hkind]
        exact List.mem_singleton_self _
      · cases h
  · cases h

namespace Classes

theorem publicMembers_rename (g : NewNames) (classes : Classes) (ancestors : List ClassId) :
    (classes.rename g).publicMembers ancestors =
      (classes.publicMembers ancestors).map fun entry => (entry.1, entry.2.rename (g entry.1)) :=
  classes.publicMembers_map g.replaces ancestors

end Classes

/-- A property before and after its class has new names for type parameters. -/
structure DeclaredProperty.RenamesTo (g : NewNames) (p q : DeclaredProperty) : Prop where
  name : q.name = p.name
  type : p.type.RenamesTo g.renaming (g p.declaringClass) q.type
  declaration : q.declaration = p.declaration.rename (g p.declaringClass)
  declaringClass : q.declaringClass = p.declaringClass
  isAttribute : q.isAttribute = p.isAttribute
  metadata : q.metadata = p.metadata
  hint : p.hint.RenamesTo g.renaming (g p.declaringClass) q.hint

namespace ModuleDeclaration

variable {g : NewNames} {m : ModuleDeclaration}

theorem alike_scopeOf (g : NewNames) (m : ModuleDeclaration) (c : ClassId) :
    (m.toUniverse.scopeOf c).Alike ((m.toUniverse.rename g).scopeOf c) :=
  (alike_scope g m).extend _ _

theorem returnHint_rename {f : Function} {c : ClassId} {h : String → String}
    (hf : ∀ source ∈ f.annotations, ∀ n ∈ source.names,
      (m.toUniverse.scopeOf c).Renames g.renaming h ((m.toUniverse.rename g).scopeOf c) n) :
    Agree (Function.ReturnHint.RenamesTo g.renaming h) (m.toUniverse.returnHint f c)
      ((m.toUniverse.rename g).returnHint (f.rename h) c) := by
  unfold Universe.returnHint
  rcases f.returnHint_rename (alike_scopeOf g m c) hf with
    ⟨hint, hint', hhint, hhint', hrenames⟩ | ⟨e, e', he, he'⟩
  · rw [hhint, hhint']
    exact .ok hrenames
  · rw [he, he']
    exact .error rfl

theorem resolve_renamesTo (walk : Instantiation) (c : ClassId) {h : String → String} {t t' : TypeExpr}
    (ht : t.RenamesTo g.renaming h t') :
    (walk.resolve c t).stripAnnotated.1.RenamesTo g.renaming h
        (Instantiation.resolve (walk.rename g.renaming) c t').stripAnnotated.1 ∧
      (Instantiation.resolve (walk.rename g.renaming) c t').stripAnnotated.2 =
        (walk.resolve c t).stripAnnotated.2 := by
  cases ht with
  | type =>
      rw [Instantiation.resolve_rename, TypeExpr.stripAnnotated_rename]
      exact ⟨.type _, rfl⟩
  | text source => exact ⟨.text source, rfl⟩

theorem declare_rename (hg : g.Suit m) (walk : Instantiation) {c : ClassId} {member : Member}
    (hmember : member ∈ m.toUniverse.classes.ownMembers c) :
    Agree (Option.Rel (DeclaredProperty.RenamesTo g)) (m.toUniverse.declare walk c member)
      ((m.toUniverse.rename g).declare (walk.rename g.renaming) c (member.rename (g c))) := by
  unfold Universe.declare
  rw [Member.reader?_rename]
  cases hreader : member.reader? with
  | none => exact .ok .none
  | some reader =>
      obtain ⟨f, isAttribute⟩ := reader
      have hf := Member.mem_functions_of_reader? hreader
      obtain ⟨info, hfind, hdeclared⟩ := Classes.exists_of_mem_functions hmember hf
      have hscope := renames_of_mem hg hfind hdeclared hf
      refine (returnHint_rename hscope).bind fun hint hint' hhint => ?_
      obtain ⟨htype, hmetadata⟩ := resolve_renamesTo walk c hhint.type
      exact .ok (.some ⟨rfl, htype, rfl, rfl, rfl, hmetadata, hhint⟩)

theorem declareAll_rename (hg : g.Suit m) (walk : Instantiation) {members : List (ClassId × Member)}
    (h : ∀ entry ∈ members, entry.2 ∈ m.toUniverse.classes.ownMembers entry.1) :
    Agree (List.Forall₂ (DeclaredProperty.RenamesTo g)) (m.toUniverse.declareAll walk members)
      ((m.toUniverse.rename g).declareAll (walk.rename g.renaming)
        (members.map fun entry => (entry.1, entry.2.rename (g entry.1)))) := by
  induction members with
  | nil => exact .ok .nil
  | cons entry rest ih =>
      obtain ⟨hmember, hrest⟩ := List.forall_mem_cons.1 h
      refine (declare_rename hg walk hmember).bind fun first first' hfirst => ?_
      refine (ih hrest).bind fun others others' hothers => .ok (List.rel_append ?_ hothers)
      cases hfirst with
      | none => exact .nil
      | some hp => exact .cons hp .nil

/-- New names for the type parameters of classes change nothing about the properties of a definition but
the names of type variables in their types. -/
theorem discover_rename (hg : g.Suit m) (resolved definition : TypeExpr) :
    Agree (List.Forall₂ (DeclaredProperty.RenamesTo g)) (m.toUniverse.discover resolved definition)
      ((m.toUniverse.rename g).discover (resolved.rename g.renaming) (definition.rename g.renaming)) := by
  have hancestors : (m.toUniverse.rename g).definitionAncestors? (definition.rename g.renaming) =
      m.toUniverse.definitionAncestors? definition := by
    cases definition with
    | cls c => exact congrArg some (Classes.ancestors_rename g c)
    | generic origin args =>
        cases origin with
        | builtin b => exact congrArg some (Classes.ancestors_rename g (.builtin b))
        | _ => rfl
    | _ => rfl
  unfold Universe.discover
  rw [TypeExpr.isKey_rename, hancestors]
  split
  · cases m.toUniverse.definitionAncestors? definition with
    | none => exact .error rfl
    | some ancestors =>
        dsimp only
        rw [Universe.discoveryInstantiation_rename]
        have hmembers : (m.toUniverse.rename g).classes.publicMembers ancestors = _ :=
          Classes.publicMembers_rename g m.toUniverse.classes ancestors
        rw [hmembers]
        refine declareAll_rename hg _ fun entry hentry => ?_
        obtain ⟨-, -, hfound⟩ := Classes.mem_publicMembers hentry
        exact hfound
  · exact .error rfl

end ModuleDeclaration

end RecordBinding
