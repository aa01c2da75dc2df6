import RecordBinding.Proofs.Property.Discovery
import RecordBinding.Proofs.TypeExpr.Composition
import RecordBinding.Proofs.Universe.Declaration

namespace RecordBinding

open TypeExpr

namespace Substitution

variable {r s s' : Substitution}

/-- Two substitutions replace the same type variables, and what the first puts for one becomes, up to
equality, what the second puts for it when a further substitution is made. -/
structure Carries (r s s' : Substitution) : Prop where
  formed : s.IsFormed
  formed' : s'.IsFormed
  values : List.Forall₂ (fun x y => x.1 = y.1 ∧ (x.2.substitute r).same y.2 = true) s s'

theorem Carries.nil (r : Substitution) : r.Carries [] [] :=
  ⟨by simp [IsFormed], by simp [IsFormed], .nil⟩

theorem Carries.image (h : r.Carries s s') {v : TypeVar}
    (hv : (∀ entry ∈ s, entry.1 ≠ v) → r.image v = .typeVar v) :
    ((s.image v).substitute r).same (s'.image v) = true := by
  have hvalues := h.values
  clear h
  induction hvalues with
  | nil =>
      exact (congrArg (fun t => t.same (typeVar v)) (hv (List.forall_mem_nil _))).trans (same_refl _)
  | @cons x y xs ys hxy _ ih =>
      rw [Substitution.image, Substitution.image, image?, image?, List.find?_cons, List.find?_cons,
        ← hxy.1]
      split
      · exact hxy.2
      · next hne =>
          have hx : x.1 ≠ v := by simpa [TypeVar.same] using hne
          exact ih fun hxs => hv (List.forall_mem_cons.2 ⟨hx, hxs⟩)

theorem Carries.substitute (h : r.Carries s s') (hr : r.IsFormed) {t : TypeExpr} (ht : t.IsFormed)
    (hfixed : ∀ v ∈ t.parameters, r.image v = .typeVar v) :
    ((t.substitute s).substitute r).same (t.substitute s') = true :=
  same_symm (substitute_substitute ht h.formed hr h.formed' fun v hv =>
    same_symm (h.image fun _ => hfixed v hv))

theorem Carries.ofArguments (params : List TypeVar) {as bs : List TypeExpr}
    (has : ∀ a ∈ as, a.IsArgument) (hbs : ∀ b ∈ bs, b.IsArgument)
    (h : List.Forall₂ (fun a b => (a.substitute r).same b = true) as bs) :
    r.Carries (ofArguments params as) (ofArguments params bs) := by
  refine ⟨.ofArguments params has, .ofArguments params hbs, ?_⟩
  clear has hbs
  induction h generalizing params with
  | nil => simp [Substitution.ofArguments]
  | cons hab _ ih =>
      cases params with
      | nil => exact .nil
      | cons v params => exact .cons ⟨rfl, hab⟩ (ih params)

end Substitution

namespace Instantiation

variable {r : Substitution} {c : ClassId} {walk walk' : Instantiation}

/-- Two walks from a class reach the same classes in the same order, and what the first puts for the
parameters of an ancestor is carried to what the second puts for them. -/
structure Carries (r : Substitution) (c : ClassId) (walk walk' : Instantiation) : Prop where
  root : walk.has c = true
  entries : walk.Related (fun d s s' => d ≠ c → r.Carries s s') walk'

theorem Carries.snoc (h : Carries r c walk walk') {d : ClassId} {s s' : Substitution}
    (hs : d ≠ c → r.Carries s s') : Carries r c (walk ++ [(d, s)]) (walk' ++ [(d, s')]) := by
  refine ⟨?_, h.entries.snoc hs⟩
  have hroot := h.root
  rw [has] at hroot ⊢
  rw [List.any_append, hroot, Bool.true_or]

theorem Carries.entry (h : Carries r c walk walk') {d : ClassId} (hd : d ≠ c) :
    r.Carries (Instantiation.entry walk d) (Instantiation.entry walk' d) :=
  h.entries.entry (fun _ => .nil r) hd

end Instantiation

/-- The type variables in the bases of a class are among the type parameters that it declares. -/
def ClassInfo.OwnsParameters (info : ClassInfo) : Prop :=
  ∀ base ∈ info.listedBases, ∀ v ∈ base.parameters, v ∈ info.typeParameters

instance (info : ClassInfo) : Decidable info.OwnsParameters :=
  inferInstanceAs (Decidable (∀ base ∈ info.listedBases, ∀ v ∈ base.parameters,
    v ∈ info.typeParameters))

namespace Classes

open Instantiation

variable {r : Substitution} {c : ClassId}

theorem find?_eq_none_of_not_declared (classes : Classes) {b : ClassId}
    (h : ∀ name, b ≠ .declared name) : classes.find? b = Option.none := by
  rw [find?, List.find?_eq_none]
  intro info _
  simpa using fun heq : info.id = b => h info.name heq.symm

theorem parameters_eq_nil (classes : Classes) {b : ClassId} (h : ∀ name, b ≠ .declared name) :
    Classes.parameters classes b = [] := by
  rw [Classes.parameters, find?_eq_none_of_not_declared classes h]
  rfl

theorem carries_base {s s' : Substitution} (hr : r.IsFormed) (hs : s.IsFormed) (hs' : s'.IsFormed)
    {base : TypeExpr} (hbase : base.IsFormed)
    (himage : ∀ v ∈ base.parameters, ((s.image v).substitute r).same (s'.image v) = true)
    {b : ClassId} (hb : visitedBase? base = some b) (earlier : Classes) :
    r.Carries (baseSubstitution earlier s base b) (baseSubstitution earlier s' base b) := by
  rw [baseSubstitution, baseSubstitution]
  by_cases hdeclared : ∃ name, b = .declared name
  · obtain ⟨name, rfl⟩ := hdeclared
    have harguments : ∀ a ∈ baseArguments base, a.IsArgument ∧
        ∀ v ∈ a.parameters, ((s.image v).substitute r).same (s'.image v) = true := by
      cases base with
      | generic origin args =>
          obtain rfl : origin = .declared name := by
            simp only [visitedBase?, ClassDeclaration.baseClass?] at hb
            split at hb
            · cases hb
            · exact Option.some.inj hb
          simp only [TypeExpr.parameters, parametersOfAll_eq_flatMap, List.mem_flatMap] at himage
          cases hbase with
          | plain h => cases h
          | generic origin hargs hfixed =>
              exact fun a ha =>
                ⟨⟨hargs a ha, hfixed name rfl a ha⟩, fun v hv => himage v ⟨a, ha, hv⟩⟩
      | _ => simp [baseArguments]
    apply Substitution.Carries.ofArguments
    · exact List.forall_mem_map.2 fun a ha => (harguments a ha).1.substitute hs
    · exact List.forall_mem_map.2 fun a ha => (harguments a ha).1.substitute hs'
    · rw [List.forall₂_map_left_iff, List.forall₂_map_right_iff, List.forall₂_same]
      intro a ha
      exact same_symm (substitute_substitute (harguments a ha).1.formed hs hr hs' fun v hv =>
        same_symm ((harguments a ha).2 v hv))
  · rw [parameters_eq_nil earlier fun name hname => hdeclared ⟨name, hname⟩]
    exact .nil r

/-- What is carried to a class is carried to all that is visited from it. -/
theorem visit_carries (hr : r.IsFormed) {name : String}
    (hfixed : ∀ v, v.owner ≠ some name → r.image v = .typeVar v) {classes : Classes}
    (hclasses : classes.AreDeclared) (hown : ∀ info ∈ classes, info.OwnsParameters) (d : ClassId)
    {s s' : Substitution} (hs : r.Carries s s') {walk walk' : Instantiation}
    (h : Carries r (.declared name) walk walk') :
    Carries r (.declared name) (visit classes d s walk) (visit classes d s' walk') := by
  refine visit_rel (S := fun _ => r.Carries) (fun h => h.entries.has_eq)
    (fun d h hs => h.snoc fun _ => hs) (fun _ => .nil r) ?_ d hs h
  intro info earlier hsuffix walk walk' s s' h hnew hs base hbase b hb
  have hinfo : info ∈ classes := hsuffix.mem List.mem_cons_self
  obtain ⟨_, hdeclared⟩ := hclasses.exists_of_mem hinfo
  refine carries_base hr hs.formed hs.formed' (hdeclared.formed base hbase) ?_ hb earlier
  -- the root is there from the start, so that a class whose bases are entered is another one
  have hroot : info.name ≠ name := by
    rintro rfl
    rw [ClassInfo.id, h.root] at hnew
    cases hnew
  intro v hv
  refine hs.image fun _ => hfixed v ?_
  rw [hdeclared.owner v (hown info hinfo base hbase v hv)]
  simpa using hroot

theorem visit_root_carries (hr : r.IsFormed) {name : String}
    (hfixed : ∀ v, v.owner ≠ some name → r.image v = .typeVar v) {classes : Classes}
    (hclasses : classes.AreDeclared) (hown : ∀ info ∈ classes, info.OwnsParameters) :
    Carries r (.declared name) (visit classes (.declared name) [] [])
      (visit classes (.declared name) r []) := by
  have hroot : Carries r (.declared name) [(.declared name, [])] [(.declared name, r)] :=
    ⟨by simp [has], .cons ⟨rfl, fun hne => absurd rfl hne⟩ .nil⟩
  have hnil : Substitution.IsFormed [] := by simp [Substitution.IsFormed]
  induction hclasses with
  | nil => exact hroot
  | @cons info earlier hinfo hearlier ih =>
      obtain ⟨-, hrest⟩ := List.forall_mem_cons.1 hown
      rw [visit_cons, visit_cons]
      split
      · refine enterBases_rel (visit_carries hr hfixed hearlier hrest) ?_ hroot
        intro base hbase b hb
        exact carries_base hr hnil hr (hinfo.formed base hbase) (fun v _ => same_refl (r.image v))
          hb earlier
      · exact ih hrest

theorem AreDeclared.owner_of_mem_parameters {classes : Classes} (h : classes.AreDeclared)
    (hown : ∀ info ∈ classes, info.OwnsParameters) {name : String} {v : TypeVar}
    (hv : v ∈ Classes.parameters classes (.declared name)) : v.owner = some name := by
  rw [Classes.parameters] at hv
  cases hfind : classes.find? (.declared name) with
  | none => simp [hfind] at hv
  | some info =>
      obtain ⟨hmem, hid⟩ := mem_of_find? hfind
      obtain ⟨earlier, hinfo⟩ := h.exists_of_mem hmem
      simp only [hfind, Option.map_some, Option.getD_some,
        hinfo.parameters (hown info hmem)] at hv
      rw [hinfo.owner v hv, ClassId.declared.inj hid]

end Classes

/-- The type of a property when the arguments are put into the one found for the class alone; metadata
around an argument become metadata of the property. -/
structure DeclaredProperty.Carries (r : Substitution) (p q : DeclaredProperty) : Prop where
  name : p.name = q.name
  type : (p.type.substitute r).stripAnnotated.1.same q.type = true
  declaration : p.declaration = q.declaration
  declaringClass : p.declaringClass = q.declaringClass
  isAttribute : p.isAttribute = q.isAttribute
  metadata : Scalar.sameList ((p.type.substitute r).stripAnnotated.2 ++ p.metadata) q.metadata = true
  hint : p.hint = q.hint

theorem TypeExpr.stripAnnotated_substitute {r : Substitution} (hr : r.IsFormed) {t : TypeExpr}
    (ht : t.IsFormed) :
    (t.substitute r).stripAnnotated =
      let z := (t.stripAnnotated.1.substitute r).stripAnnotated
      (z.1, z.2 ++ t.stripAnnotated.2) := by
  by_cases hannotated : ∃ inner metadata, t = .annotated inner metadata
  · obtain ⟨inner, metadata, rfl⟩ := hannotated
    cases ht with
    | plain h => cases h
    | annotated metadata hinner hargument hplain =>
        have hz := IsArgument.substitute ⟨hinner, hargument⟩ hr
        rw [(IsFormed.annotated metadata hinner hargument hplain).substitute_eq_rebuild hr, rebuild,
          ← hinner.substitute_eq_rebuild hr]
        simp only [stripAnnotated]
        generalize inner.substitute r = z at hz
        by_cases hz' : ∃ i ms, z = .annotated i ms
        · obtain ⟨i, ms, rfl⟩ := hz'
          rfl
        · rw [annotate_of_plain (fun i ms h => hz' ⟨i, ms, h⟩), hz.fixed]
          cases z with
          | annotated i ms => exact absurd ⟨i, ms, rfl⟩ hz'
          | _ => rfl
  · have hstrip : t.stripAnnotated = (t, []) := by
      cases t with
      | annotated inner metadata => exact absurd ⟨inner, metadata, rfl⟩ hannotated
      | _ => rfl
    simp [hstrip]

namespace Universe

variable {r : Substitution} {c : ClassId} {walk walk' : Instantiation}

theorem resolve_carries (hr : r.IsFormed) (h : Instantiation.Carries r c walk walk') {d : ClassId}
    (hd : d ≠ c) {t : TypeExpr} (ht : t.FormedOver fun v => r.image v = .typeVar v) :
    (walk.resolve d t).IsFormed ∧
      ((walk.resolve d t).substitute r).same (walk'.resolve d t) = true :=
  ⟨ht.formed.substitute (h.entry hd).formed, (h.entry hd).substitute hr ht.formed ht.parameters⟩

theorem declareAll_carries (u : Universe) (hr : r.IsFormed)
    (h : Instantiation.Carries r c walk walk') {members : List (ClassId × Member)}
    (hmembers : ∀ entry ∈ members, entry.1 ≠ c ∧ ∀ f hint, u.returnHint f entry.1 = .ok hint →
      hint.type.FormedOver fun v => r.image v = .typeVar v) :
    Agree (List.Forall₂ (DeclaredProperty.Carries r)) (u.declareAll walk members)
      (u.declareAll walk' members) := by
  apply u.declareAll_rel
  intro entry hentry f isAttribute hint _ hreturn
  obtain ⟨hd, hhint⟩ := hmembers entry hentry
  obtain ⟨hformed, hsame⟩ := resolve_carries hr h hd (hhint f hint hreturn)
  have hstrip := stripAnnotated_congr hsame
  rw [stripAnnotated_substitute hr hformed] at hstrip
  exact ⟨rfl, hstrip.1, rfl, rfl, rfl, hstrip.2, rfl⟩

theorem discover_of_has (u : Universe) {resolved : TypeExpr} {d : ClassId}
    (h : (u.instantiation resolved).has d = true) :
    u.discover resolved (.cls d) =
      u.declareAll (u.instantiation resolved) (u.classes.publicMembers (u.classes.ancestors d)) := by
  simp only [discover, isKey, if_true, definitionAncestors?, discoveryInstantiation, h]

end Universe

namespace ModuleDeclaration

/-- Putting arguments for the parameters of a class commutes with walking its hierarchy. -/
theorem instantiation_commutes (m : ModuleDeclaration) (hvalues : m.ValuesFormed)
    (hown : ∀ info ∈ m.toUniverse.classes, info.OwnsParameters) (name : String)
    {args : List TypeExpr} (hargs : ∀ a ∈ args, a.IsArgument) :
    let u := m.toUniverse
    let c : ClassId := .declared name
    let r : Substitution := .ofArguments (Classes.parameters u.classes c) args
    let alone := u.instantiation (.cls c)
    let applied := u.instantiation (.generic c args)
    applied.map (·.1) = alone.map (·.1) ∧
    (∀ d, d ≠ c → r.Carries (Instantiation.entry alone d) (Instantiation.entry applied d)) ∧
    (∀ d, d ≠ c → ∀ f hint, u.returnHint f d = .ok hint →
      ((alone.resolve d hint.type).substitute r).same (applied.resolve d hint.type) = true) ∧
    ∀ d, alone.has d = true → c ∉ u.classes.ancestors d →
      Agree (List.Forall₂ (DeclaredProperty.Carries r)) (u.discover (.cls c) (.cls d))
        (u.discover (.generic c args) (.cls d)) := by
  intro u c r alone applied
  have hr : r.IsFormed := .ofArguments _ hargs
  have hdeclared : u.classes.AreDeclared := m.areDeclared_toUniverse
  have hfixed : ∀ v, v.owner ≠ some name → r.image v = .typeVar v := by
    intro v hv
    rcases Substitution.image_cases r v with ⟨entry, hentry, rfl, -⟩ | ⟨-, himage⟩
    · exact absurd (hdeclared.owner_of_mem_parameters hown (List.of_mem_zip hentry).1) hv
    · exact himage
  have halone : alone = u.classes.visit c [] [] := by
    have hnil : Substitution.ofArguments (Classes.parameters u.classes c) [] = [] :=
      List.zip_nil_right
    simp [alone, c, Universe.instantiation, erase, arguments, hnil]
  have hcarries : Instantiation.Carries r c alone applied := by
    rw [halone]
    exact Classes.visit_root_carries hr hfixed hdeclared hown
  have hhint : ∀ d, d ≠ c → ∀ f hint, u.returnHint f d = .ok hint →
      hint.type.FormedOver fun v => r.image v = .typeVar v := by
    intro d hd f hint h
    refine (m.formedOver_returnHint hvalues h).mono fun v hv => hfixed v ?_
    rintro hname
    rcases hv with hv | ⟨name', rfl, hv⟩
    · rw [TypeVar.IsOfModule, hname] at hv
      cases hv
    · rw [hname] at hv
      obtain rfl := Option.some.inj hv
      exact hd rfl
  refine ⟨hcarries.entries.classes_eq.symm, fun d hd => hcarries.entry hd, ?_, ?_⟩
  · exact fun d hd f hint h => (Universe.resolve_carries hr hcarries hd (hhint d hd f hint h)).2
  · intro d hd hancestor
    rw [u.discover_of_has hd, u.discover_of_has (hcarries.entries.has_eq d ▸ hd)]
    apply u.declareAll_carries hr hcarries
    intro entry hentry
    have hne : entry.1 ≠ c := by
      intro heq
      rw [← heq] at hancestor
      exact hancestor (Classes.mem_publicMembers hentry).1
    exact ⟨hne, hhint entry.1 hne⟩

/-- A hierarchy that swaps its parameters and joins one of them with another type. -/
def swapped : ModuleDeclaration where
  name := "swapped"
  types := []
  classes :=
    [⟨"Root", .concrete, [⟨"V", none⟩], [], [], []⟩,
      ⟨"Pair", .concrete, [⟨"A", none⟩, ⟨"B", none⟩], [.apply "Root" [.apply "list" [.name "B"]]],
        [], []⟩,
      ⟨"Leaf", .concrete, [⟨"X", none⟩, ⟨"Y", none⟩],
        [.apply "Pair" [.name "Y", .union [.name "X", .name "int"]]], [], []⟩]
  functions := []
  values := []

theorem instantiation_commutes_swapped :
    let leaf : ClassId := .declared "Leaf"
    let root : ClassId := .declared "Root"
    let x : TypeVar := ⟨some "Leaf", "X", .object⟩
    let args : List TypeExpr := [.ofBuiltin .int, .ofBuiltin .str]
    let alone := swapped.toUniverse.instantiation (.cls leaf)
    let applied := swapped.toUniverse.instantiation (.generic leaf args)
    swapped.ValuesFormed ∧ (∀ info ∈ swapped.toUniverse.classes, info.OwnsParameters) ∧
      (∀ a ∈ args, a.IsArgument) ∧ applied.map (·.1) = alone.map (·.1) ∧
      alone.resolve root (.typeVar ⟨some "Root", "V", .object⟩) =
        .generic (.builtin .list) [.union .named [.typeVar x, .ofBuiltin .int]] ∧
      applied.resolve root (.typeVar ⟨some "Root", "V", .object⟩) =
        .generic (.builtin .list) [.ofBuiltin .int] ∧
      Substitution.Carries [(x, .ofBuiltin .int), (⟨some "Leaf", "Y", .object⟩, .ofBuiltin .str)]
        (Instantiation.entry alone root) (Instantiation.entry applied root) := by
  intro leaf root x args alone applied
  have hvalues : swapped.ValuesFormed := by simp [ValuesFormed, swapped]
  have hown : ∀ info ∈ swapped.toUniverse.classes, info.OwnsParameters := by decide +kernel
  have hargs : ∀ a ∈ args, a.IsArgument := by
    simp only [args, List.forall_mem_cons]
    exact ⟨⟨.plain rfl, rfl⟩, ⟨.plain rfl, rfl⟩, by simp⟩
  obtain ⟨hclasses, hcarries, -⟩ := instantiation_commutes swapped hvalues hown "Leaf" hargs
  exact ⟨hvalues, hown, hargs, hclasses, rfl, rfl, hcarries root (by decide)⟩

end ModuleDeclaration

end RecordBinding
