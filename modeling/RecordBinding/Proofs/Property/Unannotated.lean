import Mathlib.Data.List.Nodup
import RecordBinding.Proofs.Property.Members
import RecordBinding.Proofs.Universe.Replacement

namespace RecordBinding

/-- A function without the annotation of its result. -/
def Function.unannotated (f : Function) : Function :=
  { f with returns := none }

/-- A member whose reader has no annotation of its result. -/
def Member.unannotated (member : Member) : Member :=
  match member.kind with
  | .method f => { member with kind := .method f.unannotated }
  | .property getter => { member with kind := .property (getter.map Function.unannotated) }
  | _ => member

/-- The change that leaves one member of one class without the annotation of its result. -/
def MemberChange.unannotate (c : ClassId) (name : String) : MemberChange where
  toFun d member := if d = c ∧ member.name = name then member.unannotated else member
  name := by
    intro d member
    split
    · unfold Member.unannotated
      split <;> rfl
    · rfl
  isAbstract := by
    intro d member
    split
    · unfold Member.unannotated
      split <;> rfl
    · rfl
  plain := by
    intro d member v h
    split
    · rw [Member.unannotated, h]
    · rfl

def Universe.unannotate (u : Universe) (c : ClassId) (name : String) : Universe :=
  u.mapMembers (.unannotate c name)

def ModuleDeclaration.unannotate (m : ModuleDeclaration) (c : ClassId) (name : String) :
    ModuleDeclaration :=
  m.mapMembers (.unannotate c name)

theorem ModuleDeclaration.toUniverse_unannotate (m : ModuleDeclaration) (c : ClassId) (name : String) :
    (m.unannotate c name).toUniverse = m.toUniverse.unannotate c name :=
  toUniverse_mapMembers _ m

namespace Function

variable {f : Function} {scope : Scope}

theorem evaluateAnnotations_eq_bind (f : Function) (scope : Scope) :
    f.evaluateAnnotations scope = f.unannotated.evaluateAnnotations scope >>= fun _ =>
      f.returns.toList.forM fun source => (source.evaluateHint scope).map fun _ => () := by
  simp only [evaluateAnnotations, annotations, unannotated, List.forM_eq_forM, List.forM_append,
    Option.toList_none, List.append_nil]

theorem evaluateAnnotations_unannotated_ne (h : f.evaluateAnnotations scope ≠ .error .notAType) :
    f.unannotated.evaluateAnnotations scope ≠ .error .notAType := by
  intro hothers
  rw [evaluateAnnotations_eq_bind, hothers] at h
  exact h rfl

theorem returnHint_unannotated {hint : ReturnHint} (h : f.returnHint scope = .ok hint) :
    ∃ evaluated, f.unannotated.returnHint scope = .ok ⟨.cls .any, evaluated⟩ := by
  have hne : f.evaluateAnnotations scope ≠ .error .notAType := by
    intro herror
    rw [returnHint, herror] at h
    cases h
  have hothers := evaluateAnnotations_unannotated_ne hne
  rw [returnHint]
  cases hevaluated : f.unannotated.evaluateAnnotations scope with
  | ok _ => exact ⟨true, rfl⟩
  | error e =>
      cases e with
      | unknownName n => exact ⟨false, rfl⟩
      | notAType => exact absurd hevaluated hothers

theorem exists_of_evaluateAnnotations (h : f.evaluateAnnotations scope = .ok ()) {source : TypeSource}
    (hsource : source ∈ f.annotations) : ∃ t, source.evaluateHint scope = .ok t := by
  unfold evaluateAnnotations at h
  generalize f.annotations = sources at h hsource
  induction sources with
  | nil => cases hsource
  | cons first rest ih =>
      obtain ⟨_, hfirst, hrest⟩ := bind_ok h
      rcases List.mem_cons.1 hsource with rfl | hsource
      · cases hevaluated : source.evaluateHint scope with
        | ok t => exact ⟨t, rfl⟩
        | error e =>
            dsimp only at hfirst
            rw [hevaluated] at hfirst
            cases hfirst
      · exact ih hrest hsource

theorem argumentHint?_unannotated {hint : Option TypeExpr} (h : f.argumentHint? scope = .ok hint) :
    ∃ hint', f.unannotated.argumentHint? scope = .ok hint' := by
  have hparameters : f.unannotated.parameters = f.parameters := rfl
  unfold argumentHint? at h ⊢
  rw [hparameters]
  split at h
  · next first p rest hshape =>
      have hne : f.evaluateAnnotations scope ≠ .error .notAType := by
        intro herror
        rw [herror] at h
        cases h
      have hothers := evaluateAnnotations_unannotated_ne hne
      cases hevaluated : f.unannotated.evaluateAnnotations scope with
      | ok _ =>
          cases hsource : p.hint with
          | none => exact ⟨none, rfl⟩
          | some source =>
              have hannotation : source ∈ f.unannotated.annotations := by
                simp [annotations, hparameters, hshape, hsource]
              obtain ⟨t, ht⟩ := exists_of_evaluateAnnotations hevaluated hannotation
              exact ⟨some t, congrArg (Except.map some) ht⟩
      | error e =>
          cases e with
          | unknownName n => exact ⟨none, rfl⟩
          | notAType => exact absurd hevaluated hothers
  · exact ⟨none, rfl⟩

end Function

theorem Universe.returnHint_unannotated {u : Universe} {f : Function} {c : ClassId}
    {hint : Function.ReturnHint} (h : u.returnHint f c = .ok hint) :
    ∃ evaluated, u.returnHint f.unannotated c = .ok ⟨.cls .any, evaluated⟩ := by
  unfold returnHint at h
  split at h
  · next hint' hreturn =>
      obtain ⟨evaluated, hunannotated⟩ := Function.returnHint_unannotated hreturn
      exact ⟨evaluated, by rw [returnHint, hunannotated]⟩
  · cases h

theorem Member.reader?_unannotated (member : Member) :
    member.unannotated.reader? =
      member.reader?.map fun reader => (reader.1.unannotated, reader.2) := by
  obtain ⟨name, kind, isAbstract⟩ := member
  cases kind with
  | method f =>
      have htakes : f.unannotated.takesExactly 0 = f.takesExactly 0 := rfl
      simp only [unannotated, reader?, htakes]
      split <;> rfl
  | property getter => cases getter <;> rfl
  | _ => rfl

theorem Member.reader?_unannotate (c d : ClassId) (name : String) (member : Member) :
    (MemberChange.unannotate c name d member).reader? = member.reader?.map fun reader =>
      (if d = c ∧ member.name = name then reader.1.unannotated else reader.1, reader.2) := by
  rw [MemberChange.unannotate]
  dsimp only
  split
  · exact reader?_unannotated member
  · cases member.reader? <;> rfl

/-- A property before and after one class has lost the annotation of the result of one member. -/
structure DeclaredProperty.LosesType (c : ClassId) (property : String) (p q : DeclaredProperty) :
    Prop where
  name : q.name = p.name
  type : q.type = if p.declaringClass = c ∧ p.name = property then .cls .any else p.type

namespace Universe

variable {u : Universe} {walk : Instantiation} (c : ClassId) (name : String)

theorem declare_unannotate {d : ClassId} {member : Member} {first : Option DeclaredProperty}
    (h : u.declare walk d member = .ok first) :
    ∃ first', (u.unannotate c name).declare walk d (MemberChange.unannotate c name d member) =
        .ok first' ∧ Option.Rel (DeclaredProperty.LosesType c name) first first' := by
  unfold declare at h ⊢
  rw [Member.reader?_unannotate, MemberChange.name]
  cases hreader : member.reader? with
  | none =>
      rw [hreader] at h
      cases h
      exact ⟨none, rfl, .none⟩
  | some reader =>
      obtain ⟨f, isAttribute⟩ := reader
      rw [hreader] at h
      obtain ⟨hint, hreturn, h⟩ := bind_ok h
      cases h
      rw [unannotate, Option.map_some]
      dsimp only
      rw [returnHint_mapMembers]
      by_cases hplace : d = c ∧ member.name = name
      · obtain ⟨evaluated, hany⟩ := returnHint_unannotated hreturn
        rw [if_pos hplace, hany]
        exact ⟨_, rfl, .some ⟨rfl, (if_pos hplace).symm⟩⟩
      · rw [if_neg hplace, hreturn]
        exact ⟨_, rfl, .some ⟨rfl, (if_neg hplace).symm⟩⟩

theorem declareAll_unannotate {members : List (ClassId × Member)} {declared : List DeclaredProperty}
    (h : u.declareAll walk members = .ok declared) :
    ∃ declared', (u.unannotate c name).declareAll walk
        (members.map fun entry => (entry.1, MemberChange.unannotate c name entry.1 entry.2)) =
          .ok declared' ∧ List.Forall₂ (DeclaredProperty.LosesType c name) declared declared' := by
  induction members generalizing declared with
  | nil =>
      cases h
      exact ⟨[], rfl, .nil⟩
  | cons entry rest ih =>
      obtain ⟨first, hfirst, h⟩ := bind_ok h
      obtain ⟨others, hothers, h⟩ := bind_ok h
      cases h
      obtain ⟨first', hfirst', hfirsts⟩ := declare_unannotate c name hfirst
      obtain ⟨others', hothers', hrest⟩ := ih hothers
      refine ⟨first'.toList ++ others', ?_, List.rel_append ?_ hrest⟩
      · rw [List.map_cons, declareAll, hfirst', hothers']
        rfl
      · cases hfirsts with
        | none => exact .nil
        | some hp => exact .cons hp .nil

/-- A definition has the same properties when the annotation of one of them is removed. It may be any
type from then on. -/
theorem discover_unannotate {resolved definition : TypeExpr} {declared : List DeclaredProperty}
    (h : u.discover resolved definition = .ok declared) {p : DeclaredProperty} (hp : p ∈ declared) :
    ∃ declared', (u.unannotate p.declaringClass p.name).discover resolved definition =
        .ok declared' ∧
      List.Forall₂ (fun q q' => q'.name = q.name ∧
        q'.type = if q.name = p.name then .cls .any else q.type) declared declared' := by
  obtain ⟨declared', hdeclared', hloses⟩ : ∃ declared',
      (u.unannotate p.declaringClass p.name).discover resolved definition = .ok declared' ∧
        List.Forall₂ (DeclaredProperty.LosesType p.declaringClass p.name) declared declared' := by
    have hancestors : (u.unannotate p.declaringClass p.name).definitionAncestors? definition =
        u.definitionAncestors? definition := by
      unfold definitionAncestors?
      split <;> first | rfl | exact congrArg some (u.classes.ancestors_mapMembers _ _)
    unfold discover at h ⊢
    split at h
    · next hkey =>
        rw [if_pos hkey, hancestors]
        split at h
        · next ancestors _ =>
            have hmembers : (u.unannotate p.declaringClass p.name).classes.publicMembers ancestors = _ :=
              u.classes.publicMembers_mapMembers _ ancestors
            rw [hmembers, unannotate, discoveryInstantiation_mapMembers]
            exact declareAll_unannotate _ _ h
        · cases h
    · cases h
  -- no two properties have one name, so the name tells which property it is
  have hsame : ∀ q ∈ declared, q.name = p.name → q = p := by
    intro q hq hname
    exact List.inj_on_of_nodup_map (nodup_names_of_discover h) hq hp hname
  refine ⟨declared', hdeclared', ((List.forall₂_and_left _ _).2 ⟨hsame, hloses⟩).imp ?_⟩
  rintro q q' ⟨hq, hlost⟩
  refine ⟨hlost.name, hlost.type.trans ?_⟩
  by_cases hname : q.name = p.name
  · rw [if_pos hname, if_pos ⟨by rw [hq hname], hname⟩]
  · rw [if_neg hname, if_neg fun h => hname h.2]

end Universe

end RecordBinding
