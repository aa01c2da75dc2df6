import RecordBinding.Proofs.TypeExpr.Congruence

namespace RecordBinding

open TypeExpr

/-- A class, alone or applied to arguments. -/
inductive TypeExpr.IsClassType : TypeExpr → Prop
  | cls (c : ClassId) : IsClassType (.cls c)
  | generic (origin : ClassId) (args : List TypeExpr) : IsClassType (.generic origin args)

theorem TypeExpr.IsClassType.congr {a b : TypeExpr} (h : a.same b = true) (ha : a.IsClassType) :
    b.IsClassType := by
  rw [same_iff] at h
  cases ha <;> cases h <;> constructor

theorem TypeExpr.arguments_congr {a b : TypeExpr} (h : a.same b = true) (ha : a.IsClassType) :
    List.Forall₂ (fun x y => x.same y = true) a.arguments b.arguments := by
  rw [same_iff] at h
  cases ha with
  | cls c =>
      cases h
      exact .nil
  | generic origin args =>
      cases h with
      | generic origin hargs => exact hargs

namespace Instantiation

/-- Two walks reach the same classes in the same order, and what they put for the parameters of each class
is related. -/
def Related (S : ClassId → Substitution → Substitution → Prop) (walk walk' : Instantiation) : Prop :=
  List.Forall₂ (fun x y => x.1 = y.1 ∧ S x.1 x.2 y.2) walk walk'

/-- Two walks reach the same classes in the same order, with equal types for their parameters. -/
def Same (walk walk' : Instantiation) : Prop :=
  List.Forall₂ (fun x y => x.1 = y.1 ∧ x.2.Same y.2) walk walk'

variable {walk walk' other other' : Instantiation}

theorem has_iff (walk : Instantiation) (d : ClassId) :
    walk.has d = true ↔ d ∈ walk.map (·.1) := by
  simp [has]

theorem has_eq_of_map_eq (h : walk.map (·.1) = walk'.map (·.1)) (d : ClassId) :
    walk.has d = walk'.has d := by
  rw [Bool.eq_iff_iff, has_iff, has_iff, h]

namespace Related

variable {S : ClassId → Substitution → Substitution → Prop}

theorem classes_eq (h : walk.Related S walk') : walk.map (·.1) = walk'.map (·.1) := by
  induction h with
  | nil => rfl
  | cons hxy _ ih => rw [List.map_cons, List.map_cons, hxy.1, ih]

theorem has_eq (h : walk.Related S walk') (c : ClassId) : walk.has c = walk'.has c :=
  has_eq_of_map_eq h.classes_eq c

theorem find? (h : walk.Related S walk') (c : ClassId) :
    Option.Rel (fun x y => x.1 = c ∧ y.1 = c ∧ S c x.2 y.2) (walk.find? fun entry => entry.1 = c)
      (walk'.find? fun entry => entry.1 = c) := by
  induction h with
  | nil => exact .none
  | @cons x y xs ys hxy _ ih =>
      obtain ⟨hclass, hs⟩ := hxy
      rw [List.find?_cons, List.find?_cons, ← hclass]
      split
      · next hx =>
          obtain rfl := of_decide_eq_true hx
          exact .some ⟨rfl, hclass.symm, hs⟩
      · exact ih

theorem entry (h : walk.Related S walk') {c : ClassId} (hnil : S c [] []) :
    S c (Instantiation.entry walk c) (Instantiation.entry walk' c) := by
  have hfind := h.find? c
  rw [Instantiation.entry, Instantiation.entry]
  revert hfind
  generalize walk.find? (fun entry => entry.1 = c) = x
  generalize walk'.find? (fun entry => entry.1 = c) = y
  intro hfind
  cases hfind with
  | none => exact hnil
  | some hxy => exact hxy.2.2

theorem snoc (h : walk.Related S walk') {c : ClassId} {s s' : Substitution} (hs : S c s s') :
    (walk ++ [(c, s)]).Related S (walk' ++ [(c, s')]) :=
  List.rel_append h (.cons ⟨rfl, hs⟩ .nil)

theorem update (h : walk.Related S walk') (h' : other.Related S other') :
    (walk.update other).Related S (walk'.update other') := by
  refine List.rel_append ?_ ?_
  · rw [List.forall₂_map_left_iff, List.forall₂_map_right_iff]
    refine List.Forall₂.imp (fun x y hxy => ?_) h
    have hfind := h'.find? x.1
    rw [← hxy.1]
    revert hfind
    generalize other.find? (fun new => new.1 = x.1) = found
    generalize other'.find? (fun new => new.1 = x.1) = found'
    intro hfind
    cases hfind with
    | none => exact hxy
    | some hnew => exact ⟨hnew.1.trans hnew.2.1.symm, hnew.1 ▸ hnew.2.2⟩
  · induction h' with
    | nil => exact .nil
    | @cons x y xs ys hxy _ ih =>
        rw [List.filter_cons, List.filter_cons, h.has_eq, hxy.1]
        split
        · exact .cons hxy ih
        · exact ih

end Related

theorem Same.related (h : walk.Same walk') : walk.Related (fun _ => Substitution.Same) walk' := h

theorem entry_congr (h : walk.Same walk') (c : ClassId) :
    Substitution.Same (Instantiation.entry walk c) (Instantiation.entry walk' c) :=
  h.related.entry (Substitution.Same.refl [])

end Instantiation

namespace Classes

open Instantiation

/-- What the parameters of a listed base stand for in a visit of the class that lists it. -/
def baseSubstitution (earlier : Classes) (s : Substitution) (base : TypeExpr) (b : ClassId) :
    Substitution :=
  .ofArguments (Classes.parameters earlier b) ((baseArguments base).map (TypeExpr.substitute s))

/-- Enters a listed base, as a visit of the class that lists it does. -/
def enterBase (earlier : Classes) (s : Substitution) (reached : Instantiation) (base : TypeExpr) :
    Instantiation :=
  match visitedBase? base with
  | some b => visit earlier b (baseSubstitution earlier s base b) reached
  | Option.none => reached

theorem visit_cons (info : ClassInfo) (earlier : Classes) (c : ClassId) (s : Substitution)
    (walk : Instantiation) :
    visit (info :: earlier) c s walk =
      if info.id = c then
        if walk.has c then walk else info.listedBases.foldl (enterBase earlier s) (walk ++ [(c, s)])
      else visit earlier c s walk :=
  rfl

section

variable {R : Instantiation → Instantiation → Prop}
  {S : ClassId → Substitution → Substitution → Prop}

theorem enterBases_rel {earlier : Classes} {s s' : Substitution}
    (hvisit : ∀ b {s s'}, S b s s' → ∀ {walk walk'}, R walk walk' →
      R (visit earlier b s walk) (visit earlier b s' walk'))
    {bases : List TypeExpr}
    (hbases : ∀ base ∈ bases, ∀ b, visitedBase? base = some b →
      S b (baseSubstitution earlier s base b) (baseSubstitution earlier s' base b))
    {walk walk' : Instantiation} (h : R walk walk') :
    R (bases.foldl (enterBase earlier s) walk) (bases.foldl (enterBase earlier s') walk') := by
  induction bases generalizing walk walk' with
  | nil => exact h
  | cons base bases ih =>
      obtain ⟨hbase, hbases⟩ := List.forall_mem_cons.1 hbases
      refine ih hbases ?_
      unfold enterBase
      cases hb : visitedBase? base with
      | none => exact h
      | some b => exact hvisit b (hbase b hb) h

/-- Two visits of a class go the same way. What relates the walks has to settle which classes are there
and to last when a class is added; what relates the substitutions of a class has to last into the bases
of a class that is new. -/
theorem visit_rel {classes : Classes}
    (hhas : ∀ {walk walk'}, R walk walk' → ∀ d, walk.has d = walk'.has d)
    (hsnoc : ∀ {walk walk' s s'} d, R walk walk' → S d s s' →
      R (walk ++ [(d, s)]) (walk' ++ [(d, s')]))
    (hnil : ∀ d, S d [] [])
    (hbases : ∀ info earlier, info :: earlier <:+ classes → ∀ {walk walk' s s'}, R walk walk' →
      walk.has info.id = false → S info.id s s' →
      ∀ base ∈ info.listedBases, ∀ b, visitedBase? base = some b →
        S b (baseSubstitution earlier s base b) (baseSubstitution earlier s' base b))
    (c : ClassId) {s s' : Substitution} (hs : S c s s') {walk walk' : Instantiation}
    (h : R walk walk') : R (visit classes c s walk) (visit classes c s' walk') := by
  induction classes generalizing c s s' walk walk' with
  | nil =>
      have hleaf : ∀ {walk walk' s s'} d, R walk walk' → S d s s' →
          R (visitLeaf walk d s) (visitLeaf walk' d s') := by
        intro walk walk' s s' d h hs
        rw [visitLeaf, visitLeaf, hhas h]
        split
        · exact h
        · exact hsnoc d h hs
      simp only [visit]
      split
      · rw [hhas h]
        split
        · exact h
        · exact hleaf _ (hleaf _ h hs) (hnil _)
      · exact hleaf c h hs
  | cons info earlier ih =>
      have hearlier := ih fun info' earlier' hsuffix =>
        hbases info' earlier' (hsuffix.trans (List.suffix_cons info earlier))
      rw [visit_cons, visit_cons]
      split
      · next hid =>
          subst hid
          rw [hhas h]
          split
          · exact h
          · next hnew =>
              rw [← hhas h, Bool.not_eq_true] at hnew
              exact enterBases_rel hearlier
                (hbases info earlier List.suffix_rfl h hnew hs) (hsnoc _ h hs)
      · exact hearlier c hs h

end

theorem visit_congr (classes : Classes) (c : ClassId) {s s' : Substitution}
    {walk walk' : Instantiation} (hs : s.Same s') (h : walk.Same walk') :
    Instantiation.Same (visit classes c s walk) (visit classes c s' walk') := by
  refine visit_rel (S := fun _ => Substitution.Same) (fun h => h.related.has_eq)
    (fun d h hs => h.related.snoc hs) (fun _ => Substitution.Same.refl []) ?_ c hs h
  intro info earlier _ walk walk' s s' _ _ hs base _ b _
  refine Substitution.ofArguments_congr _ ?_
  rw [List.forall₂_map_left_iff, List.forall₂_map_right_iff, List.forall₂_same]
  exact fun arg _ => substitute_congr hs arg

end Classes

namespace Universe

theorem instantiation_congr (u : Universe) {a b : TypeExpr} (h : a.same b = true)
    (ha : a.IsClassType) : Instantiation.Same (u.instantiation a) (u.instantiation b) := by
  rw [instantiation, instantiation, erase_congr h]
  exact Classes.visit_congr _ _ (Substitution.ofArguments_congr _ (arguments_congr h ha)) .nil

theorem discoveryInstantiation_rel (u : Universe)
    {S : ClassId → Substitution → Substitution → Prop} {a b definition : TypeExpr}
    (hwalk : (u.instantiation a).Related S (u.instantiation b))
    (hdefinition : (u.instantiation definition).Related S (u.instantiation definition)) :
    (u.discoveryInstantiation a definition).Related S (u.discoveryInstantiation b definition) := by
  have hupdate := hwalk.update hdefinition
  cases definition with
  | cls c =>
      simp only [discoveryInstantiation]
      rw [hwalk.has_eq]
      split
      · exact hwalk
      · exact hupdate
  | _ => exact hupdate

theorem discoveryInstantiation_congr (u : Universe) {a b : TypeExpr}
    (hwalk : Instantiation.Same (u.instantiation a) (u.instantiation b)) (definition : TypeExpr) :
    Instantiation.Same (u.discoveryInstantiation a definition)
      (u.discoveryInstantiation b definition) :=
  u.discoveryInstantiation_rel hwalk.related
    (List.forall₂_same.2 fun x _ => ⟨rfl, Substitution.Same.refl x.2⟩)

end Universe

end RecordBinding
