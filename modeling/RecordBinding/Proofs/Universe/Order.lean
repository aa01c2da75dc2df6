import RecordBinding.Proofs.TypeExpr.Narrowing
import RecordBinding.Proofs.Universe.Declaration

namespace RecordBinding

namespace Classes

/-- A class is below another when it is that class or descends from it. -/
def Below (classes : Classes) (c d : ClassId) : Prop :=
  c = d ∨ classes.inherits c d = true

instance (classes : Classes) (c d : ClassId) : Decidable (classes.Below c d) :=
  inferInstanceAs (Decidable (c = d ∨ classes.inherits c d = true))

/-- Every class descends from the root class, and from all that its ancestors descend from. -/
structure IsOrdered (classes : Classes) : Prop where
  root : ∀ info ∈ classes, ClassId.object ∈ info.ancestors
  closed : ∀ info ∈ classes, ∀ a ∈ info.ancestors, ∀ b ∈ classes.ancestors a, b ∈ info.ancestors

instance (classes : Classes) : Decidable classes.IsOrdered :=
  decidable_of_iff
    ((∀ info ∈ classes, ClassId.object ∈ info.ancestors) ∧
      ∀ info ∈ classes, ∀ a ∈ info.ancestors, ∀ b ∈ classes.ancestors a, b ∈ info.ancestors)
    ⟨fun h => ⟨h.1, h.2⟩, fun h => ⟨h.root, h.closed⟩⟩

variable {classes : Classes} {a b c : ClassId}

theorem below_iff : classes.Below a b ↔ a = b ∨ b ∈ classes.ancestors a := by
  rw [Below, inherits, List.contains_iff_mem]

theorem below_refl (c : ClassId) : classes.Below c c := .inl rfl

theorem IsOrdered.mem_ancestors (h : classes.IsOrdered) (hb : b ∈ classes.ancestors a)
    (hc : c ∈ classes.ancestors b) : c ∈ classes.ancestors a := by
  cases hfind : classes.find? a with
  | some info =>
      rw [ancestors_of_find? hfind] at hb ⊢
      exact h.closed info (mem_of_find? hfind).1 b hb c hc
  | none =>
      unfold ancestors at hb
      split at hb
      · simp only [hfind, Option.map_none, Option.getD_none, List.mem_singleton] at hb
        rwa [hb] at hc
      · obtain rfl := List.mem_singleton.1 hb
        exact hc
      · simp only [List.mem_cons, List.not_mem_nil, or_false] at hb
        rcases hb with rfl | rfl | rfl
        · exact hc
        · exact List.mem_cons_of_mem _ hc
        · exact List.mem_cons_of_mem _ (List.mem_cons_of_mem _ hc)
      · simp only [List.mem_cons, List.not_mem_nil, or_false] at hb
        rcases hb with rfl | rfl | rfl
        · exact hc
        · exact List.mem_cons_of_mem _ hc
        · exact List.mem_cons_of_mem _ (List.mem_cons_of_mem _ hc)
      · simp only [List.mem_cons, List.not_mem_nil, or_false] at hb
        rcases hb with rfl | rfl
        · exact hc
        · obtain rfl := List.mem_singleton.1 hc
          unfold ancestors
          split <;> simp_all

theorem IsOrdered.trans (h : classes.IsOrdered) (hab : classes.Below a b)
    (hbc : classes.Below b c) : classes.Below a c := by
  rw [below_iff] at *
  rcases hab with rfl | hab
  · exact hbc
  · rcases hbc with rfl | hbc
    · exact .inr hab
    · exact .inr (h.mem_ancestors hab hbc)

theorem IsOrdered.below_root (h : classes.IsOrdered) {info : ClassInfo}
    (hc : classes.find? c = some info) : classes.Below c .object := by
  rw [below_iff, ancestors_of_find? hc]
  exact .inr (h.root info (mem_of_find? hc).1)

theorem below_root_of_builtin (b : Builtin) : classes.Below (.builtin b) .object := by
  rw [below_iff]
  cases b <;> simp [ancestors, ClassId.object]

end Classes

/-- The classes that are named in a type descend from the root class, as all classes do that there are. -/
def TypeExpr.IsKnown (classes : Classes) (t : TypeExpr) : Prop :=
  ∀ c ∈ t.named, classes.Below c .object

namespace TypeExpr

variable {classes : Classes}

theorem isKnown_cls {c : ClassId} (h : classes.Below c .object) : (cls c).IsKnown classes := by
  simpa [IsKnown, named] using h

theorem isKnown_typeVar {v : TypeVar} (h : classes.Below v.bound .object) :
    (typeVar v).IsKnown classes := by
  simpa [IsKnown, named] using h

theorem IsKnown.bound {t : TypeExpr} (ht : t.IsKnown classes) {v : TypeVar}
    (hv : v ∈ t.parameters) : classes.Below v.bound .object :=
  ht _ (bound_mem_named hv)

theorem IsKnown.erase {t : TypeExpr} (ht : t.IsKnown classes) : classes.Below t.erase .object := by
  rcases erase_cases t with h | h | h
  · exact h ▸ Classes.below_refl _
  · exact h ▸ Classes.below_root_of_builtin .noneType
  · exact ht _ h

theorem isKept_isKnown (classes : Classes) : IsKept (IsKnown classes) where
  builtin := by
    intro n t h
    unfold builtinType? at h
    split at h
    · cases h
      simp [IsKnown, named]
    · cases h
      exact isKnown_cls (.inr rfl)
    · cases h
      simp [IsKnown, named]
    · cases h
      exact isKnown_cls (.inr rfl)
    · cases h
      exact isKnown_cls (.inr rfl)
    · obtain ⟨b, -, rfl⟩ := Option.map_eq_some_iff.1 h
      exact isKnown_cls (Classes.below_root_of_builtin b)
  text := by simp [IsKnown, named]
  literal := by simp [IsKnown, named, literalOf]
  asArgument := by
    intro t ht c hc
    exact (named_asArgument hc).elim (ht c) fun h => h ▸ Classes.below_root_of_builtin .noneType
  generic := by
    intro origin args horigin hargs _ c hc
    rw [named, namedByAll_eq_flatMap] at hc
    rcases List.mem_cons.1 hc with rfl | hc
    · exact horigin c (List.mem_singleton_self c)
    · obtain ⟨a, ha, hc⟩ := List.mem_flatMap.1 hc
      exact hargs a ha c hc
  unite := by
    intro style ts hts c hc
    rcases named_unite hc with ⟨t, ht, hc⟩ | rfl
    · exact hts t ht c hc
    · exact Classes.below_root_of_builtin .noneType
  annotate := by
    intro t ht metadata c hc
    exact (named_annotate hc).elim (ht c) fun h => h ▸ Classes.below_root_of_builtin .noneType

theorem IsKnown.rebuild {t : TypeExpr} (ht : t.IsKnown classes) {s : Substitution}
    (hs : ∀ v ∈ t.parameters, (s.image v).IsKnown classes) : (t.rebuild s).IsKnown classes := by
  intro c hc
  rcases named_rebuild hc with hc | rfl | ⟨v, hv, hc⟩
  · exact ht c hc
  · exact Classes.below_root_of_builtin .noneType
  · exact hs v hv c hc

end TypeExpr

namespace Substitution

variable {classes : Classes} {r : Substitution}

def IsKnown (classes : Classes) (s : Substitution) : Prop :=
  ∀ entry ∈ s, entry.2.IsKnown classes

theorem IsKnown.image {s : Substitution} (hs : s.IsKnown classes) {v : TypeVar}
    (hv : classes.Below v.bound .object) : (s.image v).IsKnown classes := by
  rcases image_cases s v with ⟨entry, hentry, -, himage⟩ | ⟨-, himage⟩
  · rw [himage]
    exact hs entry hentry
  · rw [himage]
    simpa [TypeExpr.IsKnown, TypeExpr.named] using hv

/-- A substitution that puts for a type variable what erases to a class below its bound. -/
structure IsBounded (classes : Classes) (r : Substitution) : Prop where
  formed : r.IsFormed
  known : r.IsKnown classes
  bounded : ∀ entry ∈ r, classes.Below entry.2.erase entry.1.bound

theorem IsBounded.nil (classes : Classes) : IsBounded classes [] :=
  ⟨by simp [IsFormed], by simp [IsKnown], by simp⟩

theorem IsBounded.image (hr : r.IsBounded classes) (v : TypeVar) :
    classes.Below (r.image v).erase v.bound := by
  rcases image_cases r v with ⟨entry, hentry, rfl, himage⟩ | ⟨-, himage⟩
  · rw [himage]
    exact hr.bounded entry hentry
  · rw [himage]
    exact Classes.below_refl v.bound

end Substitution

namespace TypeExpr

variable {classes : Classes} {t : TypeExpr}

theorem IsKnown.substitute (ht : t.IsKnown classes) (hformed : t.IsFormed) {s : Substitution}
    (hs : s.IsFormed) (hknown : s.IsKnown classes) : (t.substitute s).IsKnown classes := by
  rw [hformed.substitute_eq_rebuild hs]
  exact ht.rebuild fun v hv => hknown.image (ht.bound hv)

theorem IsKnown.substitute_below (ht : t.IsKnown classes) (hclasses : classes.IsOrdered)
    (hformed : t.IsFormed) {r : Substitution} (hr : r.IsBounded classes) :
    classes.Below (t.substitute r).erase t.erase := by
  rw [hformed.substitute_eq_rebuild hr.formed]
  exact erase_rebuild_le Classes.below_refl hclasses.trans
    (Classes.below_root_of_builtin .noneType) hr.formed hformed ht (fun v _ => hr.image v)
    fun v hv => hr.known.image (ht.bound hv)

end TypeExpr

/-- The bounds of the type parameters of a class, and its bases, name classes that there are. -/
structure ClassInfo.IsKnown (classes : Classes) (info : ClassInfo) : Prop where
  bounds : ∀ v ∈ info.typeParameters, classes.Below v.bound .object
  bases : ∀ base ∈ info.listedBases, base.IsKnown classes

namespace ClassDeclaration

variable {names : String → Option TypeExpr} {classes earlier : Classes} {d : ClassDeclaration}
  {info : ClassInfo}

theorem below_bound (hnames : ∀ n t, names n = some t → t.IsKnown classes)
    (h : declare names earlier d = info :: earlier) :
    ∀ v ∈ info.typeParameters, classes.Below v.bound .object := by
  cases h
  refine List.forall_mem_map.2 fun p _ => ?_
  dsimp only
  split
  · next source _ =>
      split
      · next t ht =>
          refine TypeExpr.IsKnown.erase
            (TypeSource.kept_evaluate (TypeExpr.isKept_isKnown classes) ?_ source ht)
          apply Scope.Holds.extend
          · exact hnames
          · refine List.forall_mem_map.2 fun p _ => ?_
            exact TypeExpr.isKnown_typeVar (Classes.below_refl .object)
      · exact Classes.below_refl .object
  · exact Classes.below_refl .object

theorem isKnown (hnames : ∀ n t, names n = some t → t.IsKnown classes)
    (h : declare names earlier d = info :: earlier) : info.IsKnown classes := by
  have hbounds := below_bound hnames h
  refine ⟨hbounds, ?_⟩
  cases h
  intro base hbase
  obtain ⟨source, -, hsource⟩ := List.mem_filterMap.1 hbase
  refine TypeSource.kept_evaluate (TypeExpr.isKept_isKnown classes) ?_ source
    (ok_of_toOption hsource)
  apply Scope.Holds.extend
  · exact hnames
  · exact List.forall_mem_map.2 fun v hv => TypeExpr.isKnown_typeVar (hbounds v hv)

theorem find?_declare {c : ClassId} (d : ClassDeclaration)
    (h : (classes.find? c).isSome ∨ c = .declared d.name) :
    ((declare names classes d).find? c).isSome := by
  simp only [Classes.find?, List.find?_isSome] at h ⊢
  rcases h with ⟨info, hinfo, hid⟩ | rfl
  · exact ⟨info, List.mem_cons_of_mem _ hinfo, hid⟩
  · exact ⟨_, List.mem_cons_self, decide_eq_true rfl⟩

theorem find?_foldl_declare {c : ClassId} {ds : List ClassDeclaration}
    (h : (classes.find? c).isSome ∨ ∃ d ∈ ds, c = .declared d.name) :
    (Classes.find? (ds.foldl (declare names) classes) c).isSome := by
  induction ds generalizing classes with
  | nil => simpa using h
  | cons d ds ih =>
      apply ih
      rcases h with h | ⟨d', hd', rfl⟩
      · exact .inl (find?_declare d (.inl h))
      · rcases List.mem_cons.1 hd' with rfl | hd'
        · exact .inl (find?_declare d' (.inr rfl))
        · exact .inr ⟨d', hd', rfl⟩

end ClassDeclaration

namespace ModuleDeclaration

variable {m : ModuleDeclaration}

theorem isKnown_typeNamed? (hclasses : m.toUniverse.classes.IsOrdered) {fuel : Nat} {n : String}
    {t : TypeExpr} (h : m.typeNamed? fuel n = some t) : t.IsKnown m.toUniverse.classes := by
  have hkept := TypeExpr.isKept_isKnown m.toUniverse.classes
  induction fuel generalizing n t with
  | zero => cases h
  | succ fuel ih =>
      have hevaluate : ∀ (source : TypeSource) t,
          source.evaluate ⟨m.typeNamed? fuel, fun _ => Option.none, false⟩ = .ok t →
            t.IsKnown m.toUniverse.classes :=
        fun source t => TypeSource.kept_evaluate hkept (fun _ _ => ih) source
      rw [typeNamed?] at h
      split at h
      · next hdeclared =>
          cases h
          obtain ⟨d, hd, hname⟩ := List.any_eq_true.1 hdeclared
          have hfound : (m.toUniverse.classes.find? (.declared n)).isSome :=
            ClassDeclaration.find?_foldl_declare (.inr ⟨d, hd, by rw [eq_of_beq hname]⟩)
          obtain ⟨info, hinfo⟩ := Option.isSome_iff_exists.1 hfound
          exact TypeExpr.isKnown_cls (hclasses.below_root hinfo)
      · dsimp only at h
        split at h
        · next bound _ =>
            cases h
            refine TypeExpr.isKnown_typeVar ?_
            dsimp only
            split
            · next t ht =>
                obtain ⟨source, -, ht⟩ := Option.map_eq_some_iff.1 ht
                exact (hevaluate source t ht).erase
            · exact Classes.below_refl .object
        · next base _ =>
            obtain ⟨t, ht, rfl⟩ := Option.map_eq_some_iff.1 h
            exact hevaluate base t (ok_of_toOption ht)
        · next target _ =>
            obtain ⟨t, ht, rfl⟩ := Option.map_eq_some_iff.1 h
            exact hevaluate target t (ok_of_toOption ht)
        · cases h

theorem isKnown_typeNames (hclasses : m.toUniverse.classes.IsOrdered) {n : String} {t : TypeExpr}
    (h : m.typeNames.lookup n = some t) : t.IsKnown m.toUniverse.classes :=
  isKnown_typeNamed? hclasses (m.typeNamed?_of_lookup h)

theorem isKnown_of_mem (hclasses : m.toUniverse.classes.IsOrdered) {info : ClassInfo}
    (h : info ∈ m.toUniverse.classes) : info.IsKnown m.toUniverse.classes := by
  rcases ClassDeclaration.mem_foldl_declare h with h | ⟨d, -, earlier, h⟩
  · cases h
  · exact ClassDeclaration.isKnown (fun n t => isKnown_typeNames hclasses) h

/-- The types among the values of a module name classes that there are. -/
def ValuesKnown (m : ModuleDeclaration) : Prop :=
  ∀ entry ∈ m.values, ∀ t, entry.2 = .type t → t.IsKnown m.toUniverse.classes

theorem isKnown_name? (hclasses : m.toUniverse.classes.IsOrdered) (hvalues : m.ValuesKnown)
    {n : String} {t : TypeExpr} (h : m.toUniverse.name? n = some t) :
    t.IsKnown m.toUniverse.classes := by
  rcases m.name?_cases h with h | h | ⟨value, hvalue, rfl⟩
  · exact isKnown_typeNames hclasses h
  · obtain ⟨f, rfl⟩ := h
    simp [TypeExpr.IsKnown, TypeExpr.named]
  · cases value with
    | type t => exact hvalues _ hvalue t rfl
    | scalar s => cases s <;> simp [TypeExpr.IsKnown, TypeExpr.named, Value.toType, TypeExpr.ofScalar]
    | _ => simp [TypeExpr.IsKnown, TypeExpr.named, Value.toType]

theorem isKnown_returnHint (hclasses : m.toUniverse.classes.IsOrdered) (hvalues : m.ValuesKnown)
    {f : Function} {c : ClassId} {info : ClassInfo} (hc : m.toUniverse.classes.find? c = some info)
    {hint : Function.ReturnHint} (h : m.toUniverse.returnHint f c = .ok hint) :
    hint.type.IsKnown m.toUniverse.classes := by
  have hscope : (m.toUniverse.scopeOf c).Holds (TypeExpr.IsKnown m.toUniverse.classes) := by
    apply Scope.Holds.extend
    · exact fun n t => isKnown_name? hclasses hvalues
    · intro entry hentry
      rcases List.mem_append.1 hentry with hentry | hentry
      · obtain ⟨v, hv, rfl⟩ := List.mem_map.1 hentry
        simp only [hc, Option.map_some, Option.getD_some] at hv
        exact TypeExpr.isKnown_typeVar
          ((isKnown_of_mem hclasses (Classes.mem_of_find? hc).1).bounds v hv)
      · obtain rfl := List.mem_singleton.1 hentry
        exact TypeExpr.isKnown_cls (hclasses.below_root hc)
  exact Function.kept_returnHint (TypeExpr.isKept_isKnown _) hscope (Universe.returnHint_ok h)

end ModuleDeclaration

end RecordBinding
