import RecordBinding.Proofs.Binding.Congruence

namespace RecordBinding

namespace TypeExpr

/-- A type with wrappers around it that say nothing about its raw class, nested in any way. -/
inductive Wraps (base : TypeExpr) : TypeExpr → Prop
  | base : Wraps base base
  | annotated {t : TypeExpr} (metadata : List Scalar) (h : Wraps base t) :
      Wraps base (t.annotate metadata)
  | optional {t : TypeExpr} (style : UnionStyle) (h : Wraps base t) :
      Wraps base (unite style [t, none])
  | optionalFirst {t : TypeExpr} (style : UnionStyle) (h : Wraps base t) :
      Wraps base (unite style [none, t])
  | newtype {t : TypeExpr} (name : String) (h : Wraps base t) : Wraps base (.newtype name t)
  | synonym {t : TypeExpr} (name : String) (h : Wraps base t) : Wraps base (.alias name t)

theorem exists_present_memberList {t : TypeExpr} {name : String}
    (h : t.erase = .declared name) :
    ∃ p, present t.memberList = [p] ∧ p.erase = .declared name := by
  cases t with
  | union style members =>
      by_cases hsingle : ∃ p, present members = [p]
      · obtain ⟨p, hp⟩ := hsingle
        rw [erase_union_of_single hp] at h
        exact ⟨p, hp, h⟩
      · rw [erase_union_of_many fun p hp => hsingle ⟨p, hp⟩] at h
        cases h
  | cls c =>
      refine ⟨.cls c, ?_, h⟩
      have hne : c ≠ .noneType := by
        rintro rfl
        cases h
      simp [memberList, asArgument, present, isNoneType, hne]
  | none => cases h
  | unresolved source => cases h
  | _ => exact ⟨_, rfl, h⟩

theorem erase_unite_of_optional (style : UnionStyle) {ts : List TypeExpr} {t : TypeExpr}
    {name : String} (h : t.erase = .declared name)
    (hts : ∀ m, m ∈ ts.flatMap memberList ↔ m ∈ t.memberList ∨ m = noneType) :
    (unite style ts).erase = .declared name := by
  obtain ⟨p, hp, herase⟩ := exists_present_memberList h
  have hpresent : SameTypes (present t.memberList)
      (present (withoutDuplicates (ts.flatMap memberList))) := by
    apply sameTypes_present
    · exact fun a ha _ => exists_withoutDuplicates ((hts a).2 (.inl ha))
    · intro b hb hnone
      rcases (hts b).1 (mem_of_mem_withoutDuplicates hb) with hb | rfl
      · exact ⟨b, hb, same_refl b⟩
      · cases hnone
  rw [hp] at hpresent
  obtain ⟨q, hq, hsame⟩ := eq_singleton_of_sameTypes (distinct_present _) hpresent
  rw [erase_congr hsame] at herase
  rw [unite]
  split
  · next x hx =>
      rw [hx, present, present] at hq
      split at hq
      · cases hq
      · cases hq
        exact herase
  · rw [erase_union_of_single hq, herase]

theorem Wraps.erase_eq {base t : TypeExpr} {name : String} (h : base.Wraps t)
    (hbase : base.erase = .declared name) : t.erase = .declared name := by
  induction h with
  | base => exact hbase
  | annotated metadata _ ih => rw [erase_annotate, ih]
  | optional style _ ih => exact erase_unite_of_optional style ih (by simp [memberList, asArgument])
  | optionalFirst style _ ih =>
      exact erase_unite_of_optional style ih (by simp [memberList, asArgument, or_comm])
  | newtype name' _ ih => rwa [erase]
  | synonym name' _ ih => rwa [erase]

end TypeExpr

namespace Classes

open Instantiation

variable {classes : Classes} {c : ClassId} {s s' : Substitution} {walk walk' : Instantiation}

theorem prefix_visit (classes : Classes) (c : ClassId) (s : Substitution) (walk : Instantiation) :
    walk <+: visit classes c s walk := by
  refine (visit_rel (R := fun reached reached' => reached = reached' ∧ walk <+: reached)
    (S := fun _ => Eq) ?_ ?_ (fun _ => rfl) ?_ c rfl ⟨rfl, List.prefix_rfl⟩).2
  · rintro reached _ ⟨rfl, -⟩ d
    rfl
  · rintro reached _ s _ d ⟨rfl, h⟩ rfl
    exact ⟨rfl, h.trans (List.prefix_append _ _)⟩
  · rintro info earlier - _ _ s _ - - rfl base - b -
    rfl

theorem prefix_enterBases (earlier : Classes) (s : Substitution) (bases : List TypeExpr)
    (walk : Instantiation) : walk <+: bases.foldl (enterBase earlier s) walk := by
  induction bases generalizing walk with
  | nil => exact List.prefix_rfl
  | cons base bases ih =>
      refine List.IsPrefix.trans ?_ (ih (enterBase earlier s walk base))
      unfold enterBase
      split
      · exact prefix_visit _ _ _ _
      · exact List.prefix_rfl

theorem visit_root (classes : Classes) (c : ClassId) (s : Substitution) :
    [(c, s)] <+: visit classes c s [] := by
  induction classes with
  | nil =>
      simp only [visit]
      split
      · change [(.builtin .bool, s)] <+: visit [] (.builtin .int) [] [(.builtin .bool, s)]
        exact prefix_visit _ _ _ _
      · exact List.prefix_rfl
  | cons info earlier ih =>
      rw [visit_cons]
      split
      · exact prefix_enterBases earlier s info.listedBases [(c, s)]
      · exact ih

theorem map_visit (classes : Classes) (c : ClassId) (s s' : Substitution)
    (h : walk.map (·.1) = walk'.map (·.1)) :
    (visit classes c s walk).map (·.1) = (visit classes c s' walk').map (·.1) :=
  visit_rel (R := fun walk walk' => walk.map (·.1) = walk'.map (·.1)) (S := fun _ _ _ => True)
    has_eq_of_map_eq (fun d h _ => by simp [h]) (fun _ => trivial)
    (by simp) c trivial h

end Classes

namespace Universe

variable (u : Universe)

theorem entry_instantiation (t : TypeExpr) :
    Instantiation.entry (u.instantiation t) t.erase =
      .ofArguments (Classes.parameters u.classes t.erase) t.arguments := by
  obtain ⟨rest, hrest⟩ := Classes.visit_root u.classes t.erase
    (.ofArguments (Classes.parameters u.classes t.erase) t.arguments)
  rw [instantiation, ← hrest]
  simp [Instantiation.entry]

/-- The names of the properties do not depend on the type from which they are seen. -/
theorem discover_names (a b definition : TypeExpr) :
    Agree (fun ps qs => ps.map DeclaredProperty.name = qs.map DeclaredProperty.name)
      (u.discover a definition) (u.discover b definition) := by
  have hnames : Agree (List.Forall₂ fun p q => p.name = q.name) (u.discover a definition)
      (u.discover b definition) :=
    u.discover_rel fun _ _ _ _ _ _ _ _ _ _ => rfl
  refine hnames.mono fun ps qs h => ?_
  rw [← List.forall₂_eq_eq_eq, List.forall₂_map_left_iff, List.forall₂_map_right_iff]
  exact h

end Universe

/-- What wrappers around a class applied to arguments do and do not change. The raw class is the same, and
with it the registration, the classes that are walked and the names of the properties. But the
parameters of the class get the arguments of the outermost form, so that the walk is the same only if
these happen to be the arguments of the class. Then the types and metadata of the properties are the same
as well, and every registration makes of both types bindings that agree, or fails for both. -/
theorem Registration.wrapping (u : Universe) (registrations : Registrations) {name : String}
    {args : List TypeExpr} {t : TypeExpr}
    (ht : (TypeExpr.generic (.declared name) args).Wraps t) (definition : TypeExpr) :
    let resolved : TypeExpr := .generic (.declared name) args
    let params := Classes.parameters u.classes (.declared name)
    t.erase = resolved.erase ∧
    registrations.select? u t.erase = registrations.select? u resolved.erase ∧
    (u.instantiation t).map (·.1) = (u.instantiation resolved).map (·.1) ∧
    Agree (fun ps qs => ps.map DeclaredProperty.name = qs.map DeclaredProperty.name)
      (u.discover t definition) (u.discover resolved definition) ∧
    ((u.instantiation t).Same (u.instantiation resolved) ↔
      (Substitution.ofArguments params t.arguments).Same (.ofArguments params args)) ∧
    ((Substitution.ofArguments params t.arguments).Same (.ofArguments params args) →
      Agree (List.Forall₂ DeclaredProperty.Same) (u.discover t definition)
          (u.discover resolved definition) ∧
        ∀ (r : Registration) (w : World),
          Agree (Binding.AgreesFor t resolved) ((r.bind u t).run w).1
            ((r.bind u resolved).run w).1) := by
  intro resolved params
  have herase : t.erase = .declared name := ht.erase_eq rfl
  have hwalk : (Substitution.ofArguments params t.arguments).Same (.ofArguments params args) →
      (u.instantiation t).Same (u.instantiation resolved) := by
    intro hsame
    rw [Universe.instantiation, Universe.instantiation, herase]
    exact Classes.visit_congr u.classes _ hsame .nil
  refine ⟨herase, congrArg _ herase, ?_, u.discover_names t resolved definition, ⟨?_, hwalk⟩, ?_⟩
  · rw [Universe.instantiation, Universe.instantiation, herase]
    exact Classes.map_visit _ _ _ _ rfl
  · intro hsame
    have hentry := Instantiation.entry_congr hsame (.declared name)
    have hwrapped := u.entry_instantiation t
    have happlied : Instantiation.entry (u.instantiation resolved) (.declared name) =
        .ofArguments params args := u.entry_instantiation resolved
    rw [herase] at hwrapped
    rwa [hwrapped, happlied] at hentry
  · intro hsame
    exact ⟨u.discover_of_same (hwalk hsame) definition, fun r w =>
      Registration.bind_agree (u.discover_of_same (hwalk hsame) r.definition) w⟩

/-- A protocol for boxes, a class for boxes of numbers and one for boxes of anything. -/
def boxes : ModuleDeclaration where
  name := "boxes"
  types := []
  classes :=
    [⟨"Box", .protocol, [⟨"T", none⟩], [],
        [⟨"item", .method ⟨"Box.item", "item", [⟨"self", .positional, false, none⟩],
          some (.name "T"), .nothing⟩, false⟩], []⟩,
      ⟨"Jar", .concrete, [], [.apply "Box" [.name "int"]],
        [⟨"setItem", .method ⟨"Jar.setItem", "setItem",
          [⟨"self", .positional, false, none⟩, ⟨"value", .positional, false, some (.name "int")⟩],
          none, .set "item"⟩, false⟩,
          ⟨"create", .staticMethod ⟨"Jar.create", "create", [], none, .create "Jar"⟩, false⟩], []⟩,
      ⟨"Crate", .concrete, [], [.apply "Box" [.name "object"]],
        [⟨"setItem", .method ⟨"Crate.setItem", "setItem",
          [⟨"self", .positional, false, none⟩, ⟨"value", .positional, false, none⟩],
          none, .set "item"⟩, false⟩,
          ⟨"create", .staticMethod ⟨"Crate.create", "create", [], none, .create "Crate"⟩, false⟩], []⟩]
  functions := []
  values := []

def jarRegistration : Registration :=
  ⟨.modifiable, .cls (.declared "Box"), .cls (.declared "Jar"), none⟩

def crateRegistration : Registration :=
  ⟨.modifiable, .cls (.declared "Box"), .cls (.declared "Crate"), none⟩

theorem Registration.wrapping_annotated :
    let u := boxes.toUniverse
    let box : ClassId := .declared "Box"
    let item : TypeVar := ⟨some "Box", "T", .object⟩
    let boxed : TypeExpr := .generic box [.ofBuiltin .int]
    let wrapped := boxed.annotate [.str "m"]
    boxed.Wraps wrapped ∧ wrapped.erase = boxed.erase ∧
      u.instantiation boxed = [(box, [(item, .ofBuiltin .int)])] ∧
      u.instantiation wrapped = [(box, [(item, boxed)])] ∧
      ¬ (u.instantiation wrapped).Same (u.instantiation boxed) ∧
      (∃ b w, (jarRegistration.bind u boxed).run {} = (.ok b, w)) ∧
      ∃ failure w, (jarRegistration.bind u wrapped).run {} = (.error failure, w) ∧
        failure.kind = .shape := by
  have hdiffer : ¬ Instantiation.Same
      (boxes.toUniverse.instantiation
        ((TypeExpr.generic (.declared "Box") [.ofBuiltin .int]).annotate [.str "m"]))
      (boxes.toUniverse.instantiation (.generic (.declared "Box") [.ofBuiltin .int])) := by
    rintro (_ | ⟨⟨-, _ | ⟨⟨-, hitem⟩, -⟩⟩, -⟩)
    cases hitem
  exact ⟨.annotated _ .base, rfl, rfl, rfl, hdiffer, ⟨_, _, rfl⟩, ⟨_, _, rfl, rfl⟩⟩

theorem Registration.wrapping_optional :
    let u := boxes.toUniverse
    let boxed : TypeExpr := .generic (.declared "Box") [.noneType]
    let wrapped := TypeExpr.unite .named [.none, boxed]
    boxed.Wraps wrapped ∧ (u.instantiation wrapped).Same (u.instantiation boxed) ∧
      Agree (List.Forall₂ DeclaredProperty.Same) (u.discover wrapped (.cls (.declared "Box")))
        (u.discover boxed (.cls (.declared "Box"))) ∧
      Agree (Binding.AgreesFor wrapped boxed) ((crateRegistration.bind u wrapped).run {}).1
        ((crateRegistration.bind u boxed).run {}).1 ∧
      ∃ b w, (crateRegistration.bind u wrapped).run {} = (.ok b, w) ∧
        b.accessors.map (fun a => (a.name, a.type)) = [("item", .noneType)] := by
  have hwraps : (TypeExpr.generic (.declared "Box") [.noneType]).Wraps
      (.unite .named [.none, .generic (.declared "Box") [.noneType]]) := .optionalFirst .named .base
  obtain ⟨-, -, -, -, hwalk, hagree⟩ :=
    Registration.wrapping boxes.toUniverse [] hwraps (.cls (.declared "Box"))
  have hsame : Substitution.Same
      (.ofArguments (Classes.parameters boxes.toUniverse.classes (.declared "Box"))
        (TypeExpr.unite .named [.none, .generic (.declared "Box") [.noneType]]).arguments)
      (.ofArguments (Classes.parameters boxes.toUniverse.classes (.declared "Box")) [.noneType]) :=
    .refl _
  obtain ⟨htypes, hbind⟩ := hagree hsame
  exact ⟨hwraps, hwalk.2 hsame, htypes, hbind crateRegistration {}, _, _, rfl, rfl⟩

end RecordBinding
