import RecordBinding.Proofs.Universe.Completeness
import RecordBinding.Proofs.Universe.Order

namespace RecordBinding

open TypeExpr

/-- A class as the language lets it be declared: its name is new, its bases are declared before it, and a
base that gets arguments gets all of them, with no type variables but the parameters of the class. -/
structure ClassInfo.IsWellBased (earlier : Classes) (info : ClassInfo) : Prop where
  fresh : earlier.find? info.id = Option.none
  known : ∀ base ∈ info.listedBases, ∀ b ∈ ClassDeclaration.baseClass? base, earlier.knows b = true
  filled : ∀ base ∈ info.listedBases, ∀ b ∈ ClassDeclaration.baseClass? base,
    Classes.baseArguments base = [] ∨
      (Classes.parameters earlier b).length ≤ (Classes.baseArguments base).length
  own : ∀ base ∈ info.listedBases, ClassDeclaration.isDeclaredApplication base = true →
    ∀ v ∈ base.parameters, v ∈ info.parameters

instance (earlier : Classes) (info : ClassInfo) : Decidable (info.IsWellBased earlier) :=
  decidable_of_iff
    (earlier.find? info.id = Option.none ∧
      (∀ base ∈ info.listedBases, ∀ b ∈ ClassDeclaration.baseClass? base,
        earlier.knows b = true) ∧
      (∀ base ∈ info.listedBases, ∀ b ∈ ClassDeclaration.baseClass? base,
        Classes.baseArguments base = [] ∨
          (Classes.parameters earlier b).length ≤ (Classes.baseArguments base).length) ∧
      ∀ base ∈ info.listedBases, ClassDeclaration.isDeclaredApplication base = true →
        ∀ v ∈ base.parameters, v ∈ info.parameters)
    ⟨fun h => ⟨h.1, h.2.1, h.2.2.1, h.2.2.2⟩, fun h => ⟨h.fresh, h.known, h.filled, h.own⟩⟩

namespace Classes

/-- Classes that are declared as the language lets them be, each after those behind it in the list. -/
def AreWellBased : Classes → Prop
  | [] => True
  | info :: earlier => info.IsWellBased earlier ∧ AreWellBased earlier

instance decidableAreWellBased : (classes : Classes) → Decidable classes.AreWellBased
  | [] => .isTrue trivial
  | info :: earlier =>
      have := decidableAreWellBased earlier
      inferInstanceAs (Decidable (info.IsWellBased earlier ∧ AreWellBased earlier))

variable {classes : Classes}

theorem AreWellBased.of_suffix (h : classes.AreWellBased) {info : ClassInfo} {earlier : Classes}
    (hsuffix : info :: earlier <:+ classes) : info.IsWellBased earlier := by
  induction classes with
  | nil => cases List.suffix_nil.1 hsuffix
  | cons first rest ih =>
      rcases List.suffix_cons_iff.1 hsuffix with heq | hsuffix
      · cases heq
        exact h.1
      · exact ih h.2 hsuffix

theorem AreWellBased.find?_of_suffix (h : classes.AreWellBased) {earlier : Classes}
    (hsuffix : earlier <:+ classes) {b : ClassId} {info : ClassInfo}
    (hb : earlier.find? b = some info) : classes.find? b = some info := by
  induction classes with
  | nil =>
      rw [List.suffix_nil.1 hsuffix] at hb
      exact hb
  | cons first rest ih =>
      rcases List.suffix_cons_iff.1 hsuffix with rfl | hsuffix
      · exact hb
      · have hrest := ih h.2 hsuffix
        rw [find?_cons_of_ne, hrest]
        rintro rfl
        rw [h.1.fresh] at hrest
        cases hrest

theorem AreWellBased.parameters_base (h : classes.AreWellBased) {info : ClassInfo}
    {earlier : Classes} (hsuffix : info :: earlier <:+ classes) {base : TypeExpr}
    (hbase : base ∈ info.listedBases) {b : ClassId} (hb : visitedBase? base = some b) :
    Classes.parameters earlier b = Classes.parameters classes b := by
  by_cases hdeclared : ∃ name, b = .declared name
  · obtain ⟨name, rfl⟩ := hdeclared
    have hknown := (h.of_suffix hsuffix).known base hbase _ (baseClass?_of_visitedBase? hb)
    obtain ⟨i, hi⟩ := Option.isSome_iff_exists.1 hknown
    apply parameters_congr
    rw [hi, h.find?_of_suffix ((List.suffix_cons _ _).trans hsuffix) hi]
  · have hne : ∀ name, b ≠ .declared name := fun name hname => hdeclared ⟨name, hname⟩
    rw [parameters_eq_nil earlier hne, parameters_eq_nil classes hne]

end Classes

namespace Substitution

variable {classes : Classes} {replaced params : List TypeVar} {s s' : Substitution}

/-- What the second substitution puts for the type variables in use, the first one does too once a
substitution within the bounds is made in it, which replaces no others but the given type variables. Those
are in use that are parameters, and those that are not replaced. -/
structure Narrows (classes : Classes) (replaced params : List TypeVar) (s s' : Substitution) :
    Prop where
  formed : s.IsFormed
  formed' : s'.IsFormed
  known : s.IsKnown classes
  keys : ∀ entry ∈ s, entry.1 ∈ params
  keys' : ∀ entry ∈ s', entry.1 ∈ params
  composed : ∃ r, r.IsBounded classes ∧ (∀ v, v ∉ replaced → r.image v = .typeVar v) ∧
    ∀ v, (v ∈ replaced → v ∈ params) → ((s.image v).substitute r).same (s'.image v) = true

theorem Narrows.nil (classes : Classes) (replaced params : List TypeVar) :
    Narrows classes replaced params [] [] :=
  ⟨by simp [IsFormed], by simp [IsFormed], by simp [IsKnown], List.forall_mem_nil _,
    List.forall_mem_nil _, [], .nil classes, fun _ _ => rfl, fun v _ => same_refl (.typeVar v)⟩

theorem image_of_keys {params : List TypeVar} {s : Substitution} (h : ∀ entry ∈ s, entry.1 ∈ params)
    {v : TypeVar} (hv : v ∉ params) : s.image v = .typeVar v := by
  rcases image_cases s v with ⟨entry, hentry, rfl, -⟩ | ⟨-, himage⟩
  · exact absurd (h entry hentry) hv
  · exact himage

theorem Narrows.root {r : Substitution} (hr : r.IsBounded classes)
    (hkeys : ∀ entry ∈ r, entry.1 ∈ replaced) : Narrows classes replaced replaced [] r :=
  ⟨by simp [IsFormed], hr.formed, by simp [IsKnown], List.forall_mem_nil _, hkeys,
    r, hr, fun _ => image_of_keys hkeys, fun v _ => same_refl (r.image v)⟩

theorem Narrows.image_same (h : Narrows classes replaced params s s') {v : TypeVar}
    (hv : v ∈ params → ∀ x ∈ (s.image v).parameters, x ∉ replaced) :
    (s.image v).same (s'.image v) = true := by
  obtain ⟨r, -, hfixed, hcomposed⟩ := h.composed
  by_cases hparam : v ∈ params
  · have hsame := hcomposed v fun _ => hparam
    rwa [substitute_eq_self fun x hx => hfixed x (hv hparam x hx)] at hsame
  · rw [image_of_keys h.keys hparam, image_of_keys h.keys' hparam]
    exact same_refl _

end Substitution

namespace Classes

open Instantiation

variable {classes : Classes} {replaced : List TypeVar}

theorem formed_baseArguments {base : TypeExpr} (h : base.IsFormed) :
    ∀ a ∈ baseArguments base, a.IsFormed := by
  cases base with
  | generic origin args =>
      cases h with
      | plain h => cases h
      | generic origin hargs hdeclared => exact hargs
  | _ => simp [baseArguments]

theorem known_baseArguments {base : TypeExpr} (h : base.IsKnown classes) :
    ∀ a ∈ baseArguments base, a.IsKnown classes := by
  cases base with
  | generic origin args =>
      intro a ha c hc
      refine h c (List.mem_cons_of_mem _ ?_)
      rw [namedByAll_eq_flatMap]
      exact List.mem_flatMap.2 ⟨a, ha, hc⟩
  | _ => simp [baseArguments]

theorem narrows_base (hclasses : classes.AreWellBased) {info : ClassInfo} {earlier : Classes}
    (hsuffix : info :: earlier <:+ classes) (hformed : ∀ base ∈ info.listedBases, base.IsFormed)
    (hknown : info.IsKnown classes) {s s' : Substitution}
    (hs : s.Narrows classes replaced info.parameters s') {base : TypeExpr}
    (hbase : base ∈ info.listedBases) {b : ClassId} (hb : visitedBase? base = some b) :
    Substitution.Narrows classes replaced (Classes.parameters classes b)
      (baseSubstitution earlier s base b) (baseSubstitution earlier s' base b) := by
  have hclass := baseClass?_of_visitedBase? hb
  have hinfo := hclasses.of_suffix hsuffix
  by_cases hnone : baseArguments base = [] ∨ Classes.parameters earlier b = []
  · have hnil : ∀ s, baseSubstitution earlier s base b = [] := by
      intro s
      rw [baseSubstitution, Substitution.ofArguments]
      rcases hnone with h | h <;> simp [h]
    rw [hnil, hnil]
    exact .nil classes replaced _
  · obtain ⟨hargs, hparams⟩ := not_or.1 hnone
    have happlied : ClassDeclaration.isDeclaredApplication base = true := by
      cases base with
      | generic origin args =>
          obtain rfl := Option.some.inj hclass
          cases origin with
          | declared name => rfl
          | _ => exact absurd (parameters_eq_nil earlier (by simp)) hparams
      | _ => exact absurd rfl hargs
    obtain ⟨r, hr, hfixed, hcomposed⟩ := hs.composed
    have hcarries := carries_base hr.formed hs.formed hs.formed' (hformed base hbase)
      (fun v hv => hcomposed v fun _ => hinfo.own base hbase happlied v hv) hb earlier
    have hkeys : ∀ s, ∀ entry ∈ baseSubstitution earlier s base b,
        entry.1 ∈ Classes.parameters classes b := by
      intro s entry hentry
      rw [← hclasses.parameters_base hsuffix hbase hb]
      exact (List.of_mem_zip hentry).1
    refine ⟨hcarries.formed, hcarries.formed', ?_, hkeys s, hkeys s', r, hr, hfixed, fun v hv => ?_⟩
    · intro entry hentry
      obtain ⟨a, ha, hvalue⟩ := List.mem_map.1 (List.of_mem_zip hentry).2
      rw [← hvalue]
      exact (known_baseArguments (hknown.bases base hbase) a ha).substitute
        (formed_baseArguments (hformed base hbase) a ha) hs.formed hs.known
    · refine hcarries.image fun hkeys => hfixed v fun hreplaced => ?_
      have hv := hv hreplaced
      rw [← hclasses.parameters_base hsuffix hbase hb] at hv
      have hlength := (hinfo.filled base hbase b hclass).resolve_left hargs
      rw [← List.length_map (TypeExpr.substitute s)] at hlength
      rw [← List.map_fst_zip hlength] at hv
      obtain ⟨entry, hentry, hkey⟩ := List.mem_map.1 hv
      exact hkeys entry hentry hkey

/-- Two walks reach the same classes, and what the second puts for their parameters narrows what the first
puts for them. -/
abbrev WalkNarrows (classes : Classes) (replaced : List TypeVar) (walk walk' : Instantiation) : Prop :=
  walk.Related (fun d => Substitution.Narrows classes replaced (Classes.parameters classes d)) walk'

theorem visit_narrows (hclasses : classes.AreWellBased) (hdeclared : classes.AreDeclared)
    (hknown : ∀ info ∈ classes, info.IsKnown classes) (c : ClassId) {s s' : Substitution}
    (hs : s.Narrows classes replaced (Classes.parameters classes c) s') {walk walk' : Instantiation}
    (h : WalkNarrows classes replaced walk walk') :
    WalkNarrows classes replaced (visit classes c s walk) (visit classes c s' walk') := by
  refine visit_rel (fun h => h.has_eq) (fun d h hs => h.snoc hs) (fun d => .nil classes replaced _) ?_
    c hs h
  intro info earlier hsuffix walk walk' s s' _ _ hs base hbase b hb
  -- a class is the first of its name also in the whole table, so its parameters there are its own
  have hinfo : info ∈ classes := hsuffix.mem List.mem_cons_self
  obtain ⟨_, hinfoDeclared⟩ := hdeclared.exists_of_mem hinfo
  have hparams : Classes.parameters classes info.id = info.parameters := by
    rw [Classes.parameters, hclasses.find?_of_suffix hsuffix (find?_cons_self info earlier)]
    rfl
  rw [hparams] at hs
  exact narrows_base hclasses hsuffix hinfoDeclared.formed (hknown info hinfo) hs hbase hb

end Classes

/-- One property as seen from two types, with a type from the second that is below the one from the first,
or left as text with it. -/
structure DeclaredProperty.Narrows (classes : Classes) (p q : DeclaredProperty) : Prop where
  name : p.name = q.name
  unresolved : p.type.isUnresolved = true → q.type.isUnresolved = true
  below : classes.Below q.type.erase p.type.erase

namespace TypeExpr

theorem erase_stripAnnotated (t : TypeExpr) : t.stripAnnotated.1.erase = t.erase := by
  cases t <;> rfl

theorem isUnresolved_stripAnnotated {t : TypeExpr} (h : t.IsFormed) :
    t.stripAnnotated.1.isUnresolved = t.isUnresolved := by
  cases t with
  | annotated inner metadata =>
      cases h with
      | plain h => cases h
      | annotated metadata hinner hargument hplain =>
          cases inner with
          | unresolved source => cases hargument
          | _ => rfl
  | _ => rfl

theorem parameters_stripAnnotated (t : TypeExpr) : t.stripAnnotated.1.parameters = t.parameters := by
  cases t <;> rfl

theorem erase_substitute_of_generic {t : TypeExpr} (ht : t.IsFormed) {origin : ClassId}
    {args : List TypeExpr} (hgeneric : t.stripAnnotated.1 = .generic origin args) {s : Substitution}
    (hs : s.IsFormed) : (t.substitute s).erase = origin ∧ (t.substitute s).isUnresolved = false := by
  rw [ht.substitute_eq_rebuild hs]
  cases t with
  | generic origin' args' =>
      cases hgeneric
      exact ⟨rfl, rfl⟩
  | annotated inner metadata =>
      obtain rfl : inner = .generic origin args := hgeneric
      exact ⟨rfl, rfl⟩
  | _ => cases hgeneric

/-- The type variables in a union, which may have metadata. Other types say nothing. -/
def unionVariables (t : TypeExpr) : List TypeVar :=
  match t.stripAnnotated.1 with
  | .union _ members => parametersOfAll members
  | _ => []

theorem IsFormed.stripAnnotated_ne {t : TypeExpr} (h : t.IsFormed) (inner : TypeExpr)
    (metadata : List Scalar) : t.stripAnnotated.1 ≠ .annotated inner metadata := by
  cases t with
  | annotated inner' metadata' =>
      cases h with
      | plain h => cases h
      | annotated metadata hinner hargument hplain => exact hplain inner metadata
  | _ =>
      intro h
      cases h

theorem IsFormed.uniform_or_union_or_generic {t : TypeExpr} (h : t.IsFormed) (P : TypeVar → Prop) :
    (∀ v ∈ t.parameters, P v) ∨ (∀ v ∈ t.parameters, ¬ P v) ∨ t.unionVariables = t.parameters ∨
      ∃ origin args, t.stripAnnotated.1 = .generic origin args := by
  rw [← parameters_stripAnnotated, unionVariables]
  cases hstripped : t.stripAnnotated.1 with
  | union style members => exact .inr (.inr (.inl rfl))
  | generic origin args => exact .inr (.inr (.inr ⟨origin, args, rfl⟩))
  | typeVar v =>
      by_cases hv : P v
      · exact .inl (by simpa [parameters] using hv)
      · exact .inr (.inl (by simpa [parameters] using hv))
  | annotated inner metadata => exact absurd hstripped (h.stripAnnotated_ne inner metadata)
  | _ => exact .inl (by simp [parameters])

end TypeExpr

namespace Universe

variable {u : Universe} {replaced : List TypeVar} {walk walk' : Instantiation} {c : ClassId}
  {hint : Function.ReturnHint}

theorem narrows_of_resolve (hfirst : (walk.resolve c hint.type).IsFormed)
    (hsecond : (walk'.resolve c hint.type).IsFormed)
    (hunresolved : (walk.resolve c hint.type).isUnresolved = true →
      (walk'.resolve c hint.type).isUnresolved = true)
    (hbelow : u.classes.Below (walk'.resolve c hint.type).erase (walk.resolve c hint.type).erase)
    (name : String) (f : Function) (isAttribute : Bool) :
    DeclaredProperty.Narrows u.classes (.ofReader walk c name f isAttribute hint)
      (.ofReader walk' c name f isAttribute hint) := by
  refine ⟨rfl, ?_, ?_⟩
  · simp only [DeclaredProperty.ofReader]
    rwa [isUnresolved_stripAnnotated hfirst, isUnresolved_stripAnnotated hsecond]
  · simp only [DeclaredProperty.ofReader]
    rwa [erase_stripAnnotated, erase_stripAnnotated]

theorem isUnresolved_substitute_mono {t : TypeExpr} {r : Substitution} (h : t.isUnresolved = true) :
    (t.substitute r).isUnresolved = true := by
  cases t with
  | unresolved source => rfl
  | _ => cases h

/-- What a reader yields narrows, unless its annotation is a union that brings a parameter which is replaced
and is not one of the reader's class together with one of the class for which such a parameter stands. -/
theorem narrows_ofReader (hordered : u.classes.IsOrdered)
    (hnarrows : Substitution.Narrows u.classes replaced (Classes.parameters u.classes c)
      (Instantiation.entry walk c) (Instantiation.entry walk' c))
    (hformed : hint.type.IsFormed) (hknown : hint.type.IsKnown u.classes)
    (hapart : ∀ v ∈ hint.type.unionVariables, v ∈ replaced → v ∈ Classes.parameters u.classes c ∨
      ∀ p ∈ hint.type.unionVariables, p ∈ Classes.parameters u.classes c →
        ∀ x ∈ ((Instantiation.entry walk c).image p).parameters, x ∉ replaced)
    (name : String) (f : Function) (isAttribute : Bool) :
    DeclaredProperty.Narrows u.classes (.ofReader walk c name f isAttribute hint)
      (.ofReader walk' c name f isAttribute hint) := by
  have hfirst : (walk.resolve c hint.type).IsFormed := hformed.substitute hnarrows.formed
  have hsecond : (walk'.resolve c hint.type).IsFormed := hformed.substitute hnarrows.formed'
  have hinUse : (∀ v ∈ hint.type.parameters, v ∈ replaced → v ∈ Classes.parameters u.classes c) →
      DeclaredProperty.Narrows u.classes (.ofReader walk c name f isAttribute hint)
        (.ofReader walk' c name f isAttribute hint) := by
    intro hown
    obtain ⟨r, hr, -, hcomposed⟩ := hnarrows.composed
    have hsame : ((walk.resolve c hint.type).substitute r).same (walk'.resolve c hint.type) = true :=
      same_symm (substitute_substitute hformed hnarrows.formed hr.formed hnarrows.formed' fun v hv =>
        same_symm (hcomposed v (hown v hv)))
    refine narrows_of_resolve hfirst hsecond (fun h => ?_) ?_ name f isAttribute
    · rw [← isUnresolved_congr hsame]
      exact isUnresolved_substitute_mono h
    · rw [← erase_congr hsame]
      exact (hknown.substitute hformed hnarrows.formed hnarrows.known).substitute_below hordered hfirst hr
  have huntouched : (∀ v ∈ hint.type.parameters, v ∈ Classes.parameters u.classes c →
        ∀ x ∈ ((Instantiation.entry walk c).image v).parameters, x ∉ replaced) →
      DeclaredProperty.Narrows u.classes (.ofReader walk c name f isAttribute hint)
        (.ofReader walk' c name f isAttribute hint) := by
    intro hfixed
    have hsame : (walk.resolve c hint.type).same (walk'.resolve c hint.type) = true :=
      substitute_congr_of_parameters hformed hnarrows.formed hnarrows.formed' fun v hv =>
        hnarrows.image_same (hfixed v hv)
    refine narrows_of_resolve hfirst hsecond (fun h => ?_) ?_ name f isAttribute
    · rwa [← isUnresolved_congr hsame]
    · rw [erase_congr hsame]
      exact Classes.below_refl _
  rcases hformed.uniform_or_union_or_generic fun v => v ∈ replaced → v ∈ Classes.parameters u.classes c
    with hown | hforeign | hunion | ⟨origin, args, hgeneric⟩
  · exact hinUse hown
  · refine huntouched fun v hv hparam => absurd (fun _ => hparam) (hforeign v hv)
  · rw [hunion] at hapart
    by_cases hown : ∀ v ∈ hint.type.parameters, v ∈ replaced → v ∈ Classes.parameters u.classes c
    · exact hinUse hown
    · push Not at hown
      obtain ⟨v, hv, hreplaced, hforeign⟩ := hown
      exact huntouched ((hapart v hv hreplaced).resolve_left hforeign)
  · obtain ⟨herase, hresolved⟩ := erase_substitute_of_generic hformed hgeneric hnarrows.formed
    obtain ⟨herase', -⟩ := erase_substitute_of_generic hformed hgeneric hnarrows.formed'
    refine narrows_of_resolve hfirst hsecond (fun h => ?_) ?_ name f isAttribute
    · exact absurd h (by rw [Instantiation.resolve, hresolved]; simp)
    · rw [Instantiation.resolve, Instantiation.resolve, herase, herase']
      exact Classes.below_refl _

end Universe

/-- A module with an order of its classes, all declared as the language lets them be, whose values
include no types but over its classes. -/
structure ModuleDeclaration.IsWellDefined (m : ModuleDeclaration) : Prop where
  ordered : m.toUniverse.classes.IsOrdered
  wellBased : m.toUniverse.classes.AreWellBased
  formed : m.ValuesFormed
  known : m.ValuesKnown

/-- Arguments for the type parameters of a class, each with a raw class below the one that its parameter
erases to. -/
structure Universe.IsParameterisation (u : Universe) (c : ClassId) (args : List TypeExpr) : Prop where
  arguments : ∀ a ∈ args, a.IsArgument
  known : ∀ a ∈ args, a.IsKnown u.classes
  bounded : List.Forall₂ (fun v a => u.classes.Below a.erase (TypeExpr.typeVar v).erase)
    (Classes.parameters u.classes c) args

/-- The type variables in the annotation of a member of a class, if it is a reader of a union. -/
def Universe.unionVariables (u : Universe) (c : ClassId) (member : Member) : List TypeVar :=
  match member.reader? with
  | some (f, _) =>
      match u.returnHint f c with
      | .ok hint => hint.type.unionVariables
      | .error _ => []
  | Option.none => []

theorem Universe.unionVariables_eq {u : Universe} {c : ClassId} {member : Member} {f : Function}
    {isAttribute : Bool} {hint : Function.ReturnHint} (hreader : member.reader? = some (f, isAttribute))
    (hreturn : u.returnHint f c = .ok hint) :
    u.unionVariables c member = hint.type.unionVariables := by
  rw [unionVariables, hreader]
  dsimp only
  rw [hreturn]

/-- No reader that declares a property of a definition has a union for its annotation in which a type
parameter of a class that is none of the reader's class comes together with one of the reader's class that,
as seen from the former class, stands for a type in which there is such a parameter. -/
def Universe.KeepsApart (u : Universe) (c : ClassId) (definition : TypeExpr) : Prop :=
  ∀ entry ∈ u.classes.publicMembers ((u.definitionAncestors? definition).getD []),
    ∀ v ∈ u.unionVariables entry.1 entry.2, v ∈ Classes.parameters u.classes c →
      v ∈ Classes.parameters u.classes entry.1 ∨
        ∀ p ∈ u.unionVariables entry.1 entry.2, p ∈ Classes.parameters u.classes entry.1 →
          ∀ x ∈ ((Instantiation.entry (u.discoveryInstantiation (.cls c) definition) entry.1).image
            p).parameters, x ∉ Classes.parameters u.classes c

instance (u : Universe) (c : ClassId) (definition : TypeExpr) : Decidable (u.KeepsApart c definition) :=
  inferInstanceAs (Decidable (∀ _ ∈ _, ∀ _ ∈ _, _ → _ ∨ ∀ _ ∈ _, _ → ∀ _ ∈ _, _))

theorem Universe.IsParameterisation.isBounded {u : Universe} {c : ClassId} {args : List TypeExpr}
    (h : u.IsParameterisation c args) :
    (Substitution.ofArguments (Classes.parameters u.classes c) args).IsBounded u.classes := by
  refine ⟨.ofArguments _ h.arguments, fun entry hentry => h.known _ (List.of_mem_zip hentry).2, ?_⟩
  have hbounded := h.bounded
  generalize Classes.parameters u.classes c = params at hbounded
  clear h
  induction hbounded with
  | nil => simp [Substitution.ofArguments]
  | cons hva _ ih => exact List.forall_mem_cons.2 ⟨hva, ih⟩

theorem Universe.instantiation_of_definition {u : Universe} {definition : TypeExpr}
    {ancestors : List ClassId} (h : u.definitionAncestors? definition = some ancestors) :
    u.instantiation definition = u.classes.visit definition.erase [] [] := by
  have hargs : Substitution.ofArguments (Classes.parameters u.classes definition.erase)
      definition.arguments = [] := by
    cases definition with
    | cls c => exact List.zip_nil_right
    | generic origin args =>
        cases origin with
        | builtin b =>
            rw [erase, Classes.parameters_eq_nil u.classes (by simp)]
            rfl
        | _ => cases h
    | _ => cases h
  rw [instantiation, hargs]

namespace ModuleDeclaration

variable {m : ModuleDeclaration}

/-- From a class with arguments within the bounds of its parameters, the same properties are found as from
the class alone, with types below theirs. -/
theorem discover_narrows (hm : m.IsWellDefined) {c : ClassId} (hany : c ≠ .any)
    {args : List TypeExpr} (hargs : m.toUniverse.IsParameterisation c args)
    {definition : TypeExpr} (hapart : m.toUniverse.KeepsApart c definition) :
    Agree (List.Forall₂ (DeclaredProperty.Narrows m.toUniverse.classes))
      (m.toUniverse.discover (.cls c) definition)
      (m.toUniverse.discover (.generic c args) definition) := by
  let u := m.toUniverse
  let replaced := Classes.parameters u.classes c
  have hvisit : ∀ d {s s'}, Substitution.Narrows u.classes replaced (Classes.parameters u.classes d) s s' →
      Classes.WalkNarrows u.classes replaced (u.classes.visit d s []) (u.classes.visit d s' []) :=
    fun d _ _ hs => Classes.visit_narrows hm.wellBased m.areDeclared_toUniverse
      (fun info => isKnown_of_mem hm.ordered) d hs .nil
  have hwalk : Classes.WalkNarrows u.classes replaced (u.instantiation (.cls c))
      (u.instantiation (.generic c args)) := by
    have halone : u.definitionAncestors? (.cls c) = some (u.classes.ancestors c) := rfl
    rw [Universe.instantiation_of_definition halone, erase, if_neg hany]
    exact hvisit c (.root hargs.isBounded fun entry hentry => (List.of_mem_zip hentry).1)
  cases hancestors : u.definitionAncestors? definition with
  | none =>
      rw [Universe.discover, Universe.discover, hancestors]
      split
      · exact .error rfl
      · exact .error rfl
  | some ancestors =>
      have hdefinition : Classes.WalkNarrows u.classes replaced (u.instantiation definition)
          (u.instantiation definition) := by
        rw [Universe.instantiation_of_definition hancestors]
        exact hvisit definition.erase (.nil _ _ _)
      have hjoined := u.discoveryInstantiation_rel hwalk hdefinition
      apply u.discover_rel_of_public
      intro entry hentry f isAttribute hint hreader hreturn
      obtain ⟨-, -, hmember⟩ := Classes.mem_publicMembers hentry
      obtain ⟨info, hfind, -⟩ := Classes.exists_of_reader? hmember (by simp [hreader])
      refine Universe.narrows_ofReader hm.ordered (hjoined.entry (.nil _ _ _))
        (m.formedOver_returnHint hm.formed hreturn).formed
        (isKnown_returnHint hm.ordered hm.known hfind hreturn) ?_ _ _ _
      rw [← Universe.unionVariables_eq hreader hreturn]
      exact hapart entry hentry

end ModuleDeclaration

end RecordBinding
