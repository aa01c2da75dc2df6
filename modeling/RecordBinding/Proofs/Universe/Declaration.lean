import RecordBinding.Proofs.Declaration.Evaluation
import RecordBinding.Property.Discovery

namespace RecordBinding

namespace Linearization

variable {α : Type} [DecidableEq α]

theorem mem_of_nextHead? {lists : List (List α)} {a : α} (h : nextHead? lists = some a) :
    ∃ list ∈ lists, a ∈ list := by
  obtain ⟨list, hlist, ha⟩ := List.mem_filterMap.1 (List.mem_of_find?_eq_some h)
  exact ⟨list, hlist, List.mem_of_mem_head? ha⟩

theorem mem_of_mem_dropHead {head a : α} {lists : List (List α)} {list : List α}
    (hlist : list ∈ dropHead head lists) (ha : a ∈ list) : ∃ list ∈ lists, a ∈ list := by
  obtain ⟨list', hlist', rfl⟩ := List.mem_map.1 hlist
  refine ⟨list', hlist', ?_⟩
  split at ha
  · exact List.mem_of_mem_tail ha
  · exact ha

theorem mem_of_mem_merge {lists : List (List α)} {a : α} (h : a ∈ merge lists) :
    ∃ list ∈ lists, a ∈ list := by
  unfold merge at h
  generalize lists.flatten.length = fuel at h
  induction fuel generalizing lists with
  | zero => simp [mergeSteps] at h
  | succ fuel ih =>
      rw [mergeSteps] at h
      split at h
      · next head hhead =>
          rcases List.mem_cons.1 h with rfl | h
          · exact mem_of_nextHead? hhead
          · obtain ⟨list, hlist, ha⟩ := ih h
            exact mem_of_mem_dropHead hlist ha
      · simp at h

end Linearization

/-- What a declaration makes of a class, whose bases are looked for among the classes before it. -/
structure ClassInfo.IsDeclared (earlier : Classes) (info : ClassInfo) : Prop where
  formed : ∀ base ∈ info.listedBases, base.IsFormed
  owner : ∀ v ∈ info.typeParameters, v.owner = some info.name
  parameters : (∀ base ∈ info.listedBases, ∀ v ∈ base.parameters, v ∈ info.typeParameters) →
    info.parameters = info.typeParameters
  bases : ∀ b ∈ info.bases, b.isUniversal = true ∨
    ∃ base ∈ info.listedBases, ClassDeclaration.baseClass? base = some b
  ancestors : ∀ c ∈ info.ancestors, c = info.id ∨
    ∃ b ∈ info.bases, c = b ∨ c ∈ earlier.ancestors b

/-- Classes that are declared one after the other. -/
inductive Classes.AreDeclared : Classes → Prop
  | nil : AreDeclared []
  | cons {info : ClassInfo} {earlier : Classes} (hinfo : info.IsDeclared earlier)
      (h : AreDeclared earlier) : AreDeclared (info :: earlier)

theorem Classes.mem_of_find? {classes : Classes} {c : ClassId} {info : ClassInfo}
    (h : classes.find? c = some info) : info ∈ classes ∧ info.id = c :=
  ⟨List.mem_of_find?_eq_some h, by simpa using List.find?_some h⟩

theorem Classes.ancestors_of_find? {classes : Classes} {c : ClassId} {info : ClassInfo}
    (h : classes.find? c = some info) : classes.ancestors c = info.ancestors := by
  obtain ⟨-, rfl⟩ := mem_of_find? h
  simp only [ancestors, ClassInfo.id] at h ⊢
  rw [h]
  rfl

theorem Classes.AreDeclared.exists_of_mem {classes : Classes} (h : classes.AreDeclared)
    {info : ClassInfo} (hinfo : info ∈ classes) : ∃ earlier, info.IsDeclared earlier := by
  induction h with
  | nil => simp at hinfo
  | @cons first earlier hfirst _ ih =>
      rcases List.mem_cons.1 hinfo with rfl | hinfo
      · exact ⟨earlier, hfirst⟩
      · exact ih hinfo

namespace ClassDeclaration

theorem mem_withoutRepetition {vars : List TypeVar} {v : TypeVar}
    (h : v ∈ withoutRepetition vars) : v ∈ vars := by
  have hkept : ∀ vars kept : List TypeVar,
      v ∈ vars.foldl (fun kept v => if kept.any v.same then kept else kept ++ [v]) kept →
      v ∈ kept ∨ v ∈ vars := by
    intro vars
    induction vars with
    | nil => exact fun kept h => .inl h
    | cons w vars ih =>
        intro kept h
        have hrest := ih _ h
        dsimp only at hrest
        split at hrest
        · exact hrest.imp_right (List.mem_cons_of_mem w)
        · simpa [or_assoc] using hrest
  simpa using hkept vars [] h

theorem baseClass_of_mem_allBases {kind : ClassKind} {hasParameters : Bool}
    {listed : List TypeExpr} {b : ClassId} (h : b ∈ allBases kind hasParameters listed) :
    b.isUniversal = true ∨ ∃ base ∈ listed, baseClass? base = some b := by
  unfold allBases at h
  extract_lets stated bases at h
  have hstated : ∀ b ∈ stated, b.isUniversal = true ∨ ∃ base ∈ listed, baseClass? base = some b := by
    intro b hb
    rcases List.mem_append.1 hb with hb | hb
    · exact .inr (List.mem_filterMap.1 hb)
    · cases kind <;> simp [kindBases] at hb <;> simp [hb, ClassId.isUniversal]
  split at h
  · exact .inl (by simp_all [ClassId.isUniversal, ClassId.object])
  · dsimp only [bases] at h
    split at h
    · rcases List.mem_append.1 h with h | h
      · exact hstated b h
      · exact .inl (by simp_all [ClassId.isUniversal])
    · exact hstated b h

theorem isDeclared {names : String → Option TypeExpr} {earlier : Classes} {d : ClassDeclaration}
    {info : ClassInfo} (hnames : ∀ n t, names n = some t → t.IsFormed)
    (h : declare names earlier d = info :: earlier) : info.IsDeclared earlier := by
  cases h
  constructor
  case formed =>
    intro base hbase
    obtain ⟨source, -, hsource⟩ := List.mem_filterMap.1 hbase
    have hkept := TypeExpr.isKept_formedOver fun _ => True
    refine (TypeSource.kept_evaluate hkept ?_ source (ok_of_toOption hsource)).formed
    apply Scope.Holds.extend
    · exact fun n t ht => ⟨hnames n t ht, fun _ _ => trivial⟩
    · exact List.forall_mem_map.2 fun v _ => ⟨.plain rfl, fun _ _ => trivial⟩
  case owner => exact List.forall_mem_map.2 fun p _ => rfl
  case parameters =>
    intro hown
    dsimp only at hown ⊢
    split
    · rfl
    · next hempty =>
        have hnone : d.parameters = [] := by simpa using hempty
        simp only [hnone, List.map_nil, List.not_mem_nil] at hown ⊢
        split
        · refine List.eq_nil_iff_forall_not_mem.2 fun v hv => ?_
          have hv := mem_withoutRepetition hv
          rw [TypeExpr.parametersOfAll_eq_flatMap] at hv
          obtain ⟨base, hbase, hv⟩ := List.mem_flatMap.1 hv
          exact hown base hbase v hv
        · rfl
  case bases => exact fun b hb => baseClass_of_mem_allBases hb
  case ancestors =>
    intro c hc
    rcases List.mem_cons.1 hc with rfl | hc
    · exact .inl rfl
    · obtain ⟨list, hlist, hc⟩ := Linearization.mem_of_mem_merge hc
      rcases List.mem_append.1 hlist with hlist | hlist
      · obtain ⟨b, hb, rfl⟩ := List.mem_map.1 hlist
        exact .inr ⟨b, hb, .inr hc⟩
      · obtain rfl := List.mem_singleton.1 hlist
        exact .inr ⟨c, hc, .inl rfl⟩

theorem mem_foldl_declare {names : String → Option TypeExpr} {classes : Classes}
    {ds : List ClassDeclaration} {info : ClassInfo}
    (h : info ∈ ds.foldl (declare names) classes) :
    info ∈ classes ∨ ∃ d ∈ ds, ∃ earlier, declare names earlier d = info :: earlier := by
  induction ds generalizing classes with
  | nil => exact .inl h
  | cons d ds ih =>
      rcases ih h with h | ⟨d', hd', h⟩
      · rcases List.mem_cons.1 h with rfl | h
        · exact .inr ⟨d, List.mem_cons_self, classes, rfl⟩
        · exact .inl h
      · exact .inr ⟨d', List.mem_cons_of_mem d hd', h⟩

end ClassDeclaration

theorem Universe.returnHint_ok {u : Universe} {f : Function} {c : ClassId}
    {hint : Function.ReturnHint} (h : u.returnHint f c = .ok hint) :
    f.returnHint (u.scopeOf c) = .ok hint := by
  unfold Universe.returnHint at h
  split at h
  · next hhint =>
      cases h
      exact hhint
  · cases h

/-- A type variable that the module declares, and no class. -/
def TypeVar.IsOfModule (v : TypeVar) : Prop :=
  v.owner = none

namespace ModuleDeclaration

variable (m : ModuleDeclaration)

theorem formedOver_typeNamed? {fuel : Nat} {n : String} {t : TypeExpr}
    (h : m.typeNamed? fuel n = some t) : t.FormedOver TypeVar.IsOfModule := by
  cases fuel with
  | zero => cases h
  | succ fuel =>
      rw [typeNamed?] at h
      split at h
      · cases h
        exact .plain rfl rfl
      · dsimp only at h
        split at h
        · cases h
          exact ⟨.plain rfl, by simp [TypeExpr.parameters, TypeVar.IsOfModule]⟩
        · obtain ⟨base, -, rfl⟩ := Option.map_eq_some_iff.1 h
          exact .plain rfl rfl
        · obtain ⟨target, -, rfl⟩ := Option.map_eq_some_iff.1 h
          exact .plain rfl rfl
        · cases h

theorem typeNamed?_of_lookup {n : String} {t : TypeExpr}
    (h : m.typeNames.lookup n = some t) :
    m.typeNamed? (m.types.length + 1) n = some t := by
  obtain ⟨before, after, hentries, -⟩ := List.lookup_eq_some_iff.1 h
  have hentry : (n, t) ∈ m.typeNames := by simp [hentries]
  obtain ⟨n', -, hn'⟩ := List.mem_filterMap.1 hentry
  obtain ⟨t', ht', heq⟩ := Option.map_eq_some_iff.1 hn'
  cases heq
  exact ht'

theorem formedOver_typeNames {n : String} {t : TypeExpr} (h : m.typeNames.lookup n = some t) :
    t.FormedOver TypeVar.IsOfModule :=
  m.formedOver_typeNamed? (m.typeNamed?_of_lookup h)

theorem areDeclared_toUniverse : m.toUniverse.classes.AreDeclared := by
  have hnames : ∀ n t, m.typeNames.lookup n = some t → t.IsFormed :=
    fun n t ht => (m.formedOver_typeNames ht).formed
  have hfold : ∀ (ds : List ClassDeclaration) (classes : Classes), classes.AreDeclared →
      (ds.foldl (ClassDeclaration.declare fun n => m.typeNames.lookup n) classes).AreDeclared := by
    intro ds
    induction ds with
    | nil => exact fun classes h => h
    | cons d ds ih => exact fun classes h => ih _ (.cons (ClassDeclaration.isDeclared hnames rfl) h)
  exact hfold m.classes [] .nil

/-- The types among the values of a module are formed, without type variables of classes. -/
def ValuesFormed : Prop :=
  ∀ entry ∈ m.values, ∀ t, entry.2 = .type t → t.FormedOver TypeVar.IsOfModule

theorem name?_cases {n : String} {t : TypeExpr} (h : m.toUniverse.name? n = some t) :
    m.typeNames.lookup n = some t ∨ (∃ name, t = .datum (.function name)) ∨
      ∃ value, (n, value) ∈ m.values ∧ value.toType = t := by
  unfold Universe.name? at h
  split at h
  · next found hfound =>
      cases h
      exact .inl hfound
  · split at h
    · cases h
      exact .inr (.inl ⟨_, rfl⟩)
    · obtain ⟨value, hvalue, rfl⟩ := Option.map_eq_some_iff.1 h
      obtain ⟨before, after, hentries, -⟩ := List.lookup_eq_some_iff.1 hvalue
      refine .inr (.inr ⟨value, ?_, rfl⟩)
      rw [show m.values = _ from hentries]
      simp

theorem formedOver_name? (hvalues : m.ValuesFormed) {n : String} {t : TypeExpr}
    (h : m.toUniverse.name? n = some t) : t.FormedOver TypeVar.IsOfModule := by
  rcases m.name?_cases h with h | ⟨name, rfl⟩ | ⟨value, hvalue, rfl⟩
  · exact m.formedOver_typeNames h
  · exact .plain rfl rfl
  · cases value with
    | type t => exact hvalues _ hvalue t rfl
    | scalar s => cases s <;> exact .plain rfl rfl
    | _ => exact .plain rfl rfl

/-- The annotations of a class have formed types over its own type parameters and those of the
module. -/
theorem formedOver_returnHint (hvalues : m.ValuesFormed) {f : Function} {c : ClassId}
    {hint : Function.ReturnHint} (h : m.toUniverse.returnHint f c = .ok hint) :
    hint.type.FormedOver fun v => v.IsOfModule ∨ ∃ name, c = .declared name ∧ v.owner = some name := by
  have hscope : (m.toUniverse.scopeOf c).Holds (TypeExpr.FormedOver fun v =>
      v.IsOfModule ∨ ∃ name, c = .declared name ∧ v.owner = some name) := by
    apply Scope.Holds.extend
    · exact fun n t ht => (m.formedOver_name? hvalues ht).mono fun v hv => .inl hv
    · intro entry hentry
      rcases List.mem_append.1 hentry with hentry | hentry
      · obtain ⟨v, hv, rfl⟩ := List.mem_map.1 hentry
        refine ⟨.plain rfl, ?_⟩
        simp only [TypeExpr.parameters, List.mem_singleton, forall_eq]
        cases hfind : m.toUniverse.classes.find? c with
        | none => simp [hfind] at hv
        | some info =>
            simp only [hfind, Option.map_some, Option.getD_some] at hv
            obtain ⟨hmem, rfl⟩ := Classes.mem_of_find? hfind
            obtain ⟨earlier, hinfo⟩ := m.areDeclared_toUniverse.exists_of_mem hmem
            exact .inr ⟨info.name, rfl, hinfo.owner v hv⟩
      · obtain rfl := List.mem_singleton.1 hentry
        exact .plain rfl rfl
  exact Function.kept_returnHint (TypeExpr.isKept_formedOver _) hscope (Universe.returnHint_ok h)

end ModuleDeclaration

end RecordBinding
