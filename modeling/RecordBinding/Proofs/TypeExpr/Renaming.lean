import RecordBinding.Proofs.TypeExpr.Congruence
import RecordBinding.Universe.Hierarchy

namespace RecordBinding

/-- A renaming of type variables keeps them apart and keeps their bounds. -/
structure Renaming where
  toFun : TypeVar → TypeVar
  injective : ∀ v w, toFun v = toFun w → v = w
  bound : ∀ v, (toFun v).bound = v.bound

instance : CoeFun Renaming fun _ => TypeVar → TypeVar := ⟨Renaming.toFun⟩

namespace TypeExpr

variable (ρ : Renaming)

mutual

/-- The type with its type variables renamed, also inside new types and aliases. -/
def rename : TypeExpr → TypeExpr
  | typeVar v => typeVar (ρ v)
  | newtype name base => newtype name (rename base)
  | .alias name target => .alias name (rename target)
  | generic origin args => generic origin (renameAll args)
  | union style members => union style (renameAll members)
  | annotated inner metadata => annotated (rename inner) metadata
  | t => t

def renameAll : List TypeExpr → List TypeExpr
  | [] => []
  | t :: ts => rename t :: renameAll ts

end

@[simp] theorem renameAll_eq_map (ts : List TypeExpr) : renameAll ρ ts = ts.map (rename ρ) := by
  induction ts with
  | nil => rfl
  | cons t ts ih => rw [renameAll, ih, List.map_cons]

@[simp] theorem isNoneType_rename (t : TypeExpr) : (t.rename ρ).isNoneType = t.isNoneType := by
  cases t <;> rfl

@[simp] theorem isProtocolBase_rename (t : TypeExpr) :
    (t.rename ρ).isProtocolBase = t.isProtocolBase := by
  cases t <;> rfl

@[simp] theorem isUnresolved_rename (t : TypeExpr) : (t.rename ρ).isUnresolved = t.isUnresolved := by
  cases t <;> rfl

@[simp] theorem class?_rename (t : TypeExpr) : (t.rename ρ).class? = t.class? := by
  cases t <;> rfl

theorem asArgument_rename (t : TypeExpr) : (t.rename ρ).asArgument = t.asArgument.rename ρ := by
  cases t <;> rfl

theorem annotate_rename (t : TypeExpr) (metadata : List Scalar) :
    (t.rename ρ).annotate metadata = (t.annotate metadata).rename ρ := by
  cases t <;> rfl

theorem stripAnnotated_rename (t : TypeExpr) :
    (t.rename ρ).stripAnnotated = (t.stripAnnotated.1.rename ρ, t.stripAnnotated.2) := by
  cases t <;> rfl

theorem rename_ofScalar (s : Scalar) : (ofScalar s).rename ρ = ofScalar s := by
  cases s <;> rfl

theorem arguments_rename (t : TypeExpr) : (t.rename ρ).arguments = t.arguments.map (rename ρ) := by
  cases t <;> simp [rename, arguments, rename_ofScalar]

theorem qualname?_rename (t : TypeExpr) : (t.rename ρ).qualname? = t.qualname? := by
  have hoptional : ∀ (members : List TypeExpr) (texts : List String),
      optionalPart? (members.map (rename ρ)) texts = optionalPart? members texts := by
    intro members texts
    match members, texts with
    | [a, b], [s, t] => simp [optionalPart?]
    | [], _ | [_], _ | _ :: _ :: _ :: _, _ | [_, _], [] | [_, _], [_] | [_, _], _ :: _ :: _ :: _ => rfl
  cases t with
  | union style members =>
      cases style with
      | bars => rfl
      | named => simp only [rename, qualname?, renameAll_eq_map, hoptional]
  | _ => rfl

theorem isKey_rename (t : TypeExpr) : (t.rename ρ).isKey = t.isKey := by
  induction t using induct with
  | step t ih =>
      have hall : ∀ ts : List TypeExpr, (∀ t ∈ ts, (t.rename ρ).isKey = t.isKey) →
          areKeys (ts.map (rename ρ)) = areKeys ts := by
        intro ts hts
        induction ts with
        | nil => rfl
        | cons t ts ihs =>
            obtain ⟨ht, hts⟩ := List.forall_mem_cons.1 hts
            rw [List.map_cons, areKeys, areKeys, ht, ihs hts]
      cases t with
      | generic origin args => simpa [rename, isKey] using hall args ih
      | union style members => simpa [rename, isKey] using hall members ih
      | annotated inner metadata => exact ih inner (by simp [parts])
      | _ => rfl

theorem sameList_rename {as : List TypeExpr}
    (h : ∀ a ∈ as, ∀ b, (a.rename ρ).same (b.rename ρ) = a.same b) (bs : List TypeExpr) :
    sameList (as.map (rename ρ)) (bs.map (rename ρ)) = sameList as bs := by
  induction as generalizing bs with
  | nil => cases bs <;> rfl
  | cons a as ih =>
      obtain ⟨ha, has⟩ := List.forall_mem_cons.1 h
      cases bs with
      | nil => rfl
      | cons b bs => rw [List.map_cons, List.map_cons, sameList, sameList, ha, ih has]

theorem eachIn_rename {as : List TypeExpr}
    (h : ∀ a ∈ as, ∀ b, (a.rename ρ).same (b.rename ρ) = a.same b) (bs : List TypeExpr) :
    eachIn (as.map (rename ρ)) (bs.map (rename ρ)) = eachIn as bs := by
  rw [Bool.eq_iff_iff, eachIn_iff, eachIn_iff, List.forall_mem_map]
  refine forall₂_congr fun a ha => ?_
  simp only [List.mem_map, exists_exists_and_eq_and, h a ha]

theorem someSame_rename {as : List TypeExpr}
    (h : ∀ a ∈ as, ∀ b, (a.rename ρ).same (b.rename ρ) = a.same b) (b : TypeExpr) :
    someSame (as.map (rename ρ)) (b.rename ρ) = someSame as b := by
  rw [Bool.eq_iff_iff, someSame_iff, someSame_iff]
  simp only [List.mem_map, exists_exists_and_eq_and]
  exact exists_congr fun a => and_congr_right fun ha => by rw [h a ha]

theorem same_rename (a b : TypeExpr) : (a.rename ρ).same (b.rename ρ) = a.same b := by
  induction a using induct generalizing b with
  | step a ih =>
      cases a with
      | typeVar v =>
          cases b with
          | typeVar w =>
              have hinjective : ρ v = ρ w ↔ v = w := ⟨ρ.injective v w, congrArg ρ⟩
              simp [rename, same, TypeVar.same, hinjective]
          | _ => rfl
      | newtype name base =>
          cases b with
          | newtype name' base' =>
              exact congrArg (name == name' && ·) (ih base (by simp [parts]) base')
          | _ => rfl
      | «alias» name target =>
          cases b with
          | «alias» name' target' =>
              exact congrArg (name == name' && ·) (ih target (by simp [parts]) target')
          | _ => rfl
      | generic origin args =>
          cases b with
          | generic origin' args' =>
              simp only [rename, renameAll_eq_map, same]
              exact congrArg (decide (origin = origin') && ·) (sameList_rename ρ ih args')
          | _ => rfl
      | union style members =>
          cases b with
          | union style' members' =>
              have hsome : someSame (members.map (rename ρ)) ∘ rename ρ = someSame members :=
                funext fun b => someSame_rename ρ ih b
              simp only [rename, renameAll_eq_map, same, List.all_map]
              exact congrArg₂ (· && ·) (eachIn_rename ρ ih members')
                (congrArg members'.all hsome)
          | _ => rfl
      | annotated inner metadata =>
          cases b with
          | annotated inner' metadata' =>
              exact congrArg (· && Scalar.sameList metadata metadata')
                (ih inner (by simp [parts]) inner')
          | _ => rfl
      | _ => cases b <;> rfl

theorem erase_rename (t : TypeExpr) : (t.rename ρ).erase = t.erase := by
  induction t using induct with
  | step t ih =>
      have hpresent : ∀ ts : List TypeExpr, (∀ t ∈ ts, (t.rename ρ).erase = t.erase) →
          erasePresent (ts.map (rename ρ)) = erasePresent ts := by
        intro ts hts
        induction ts with
        | nil => rfl
        | cons t ts ihs =>
            obtain ⟨ht, hts⟩ := List.forall_mem_cons.1 hts
            have hsame : ((t.rename ρ).same ∘ rename ρ) = t.same :=
              funext fun other => same_rename ρ t other
            simp only [List.map_cons, erasePresent, isNoneType_rename, List.any_map, hsame, ht, ihs hts]
      cases t with
      | typeVar v => exact ρ.bound v
      | newtype name base => exact ih base (by simp [parts])
      | «alias» name target => exact ih target (by simp [parts])
      | union style members => simp only [rename, renameAll_eq_map, erase, hpresent members ih]
      | annotated inner metadata => exact ih inner (by simp [parts])
      | _ => rfl

theorem memberList_rename (t : TypeExpr) : (t.rename ρ).memberList = t.memberList.map (rename ρ) := by
  cases t <;> simp [rename, memberList, asArgument, noneType]

theorem withoutDuplicates_rename (ts : List TypeExpr) :
    withoutDuplicates (ts.map (rename ρ)) = (withoutDuplicates ts).map (rename ρ) := by
  induction ts with
  | nil => rfl
  | cons t ts ih =>
      rw [List.map_cons, withoutDuplicates, withoutDuplicates, ih, List.map_cons, List.filter_map]
      congr 3
      exact funext fun other => congrArg not (same_rename ρ t other)

theorem unite_rename (style : UnionStyle) (ts : List TypeExpr) :
    unite style (ts.map (rename ρ)) = (unite style ts).rename ρ := by
  have hmembers : (ts.map (rename ρ)).flatMap memberList = (ts.flatMap memberList).map (rename ρ) := by
    rw [List.flatMap_map, List.map_flatMap]
    exact congrArg (List.flatMap · ts) (funext (memberList_rename ρ))
  unfold unite
  rw [hmembers, withoutDuplicates_rename]
  match withoutDuplicates (ts.flatMap memberList) with
  | [] => rfl
  | [t] => rfl
  | a :: b :: rest => simp [rename]

theorem joinsByBar_rename (t : TypeExpr) : (t.rename ρ).joinsByBar = t.joinsByBar := by
  cases t with
  | generic origin args => cases origin <;> rfl
  | union style members => cases style <;> rfl
  | _ => rfl

theorem joinsByName_rename (t : TypeExpr) : (t.rename ρ).joinsByName = t.joinsByName := by
  cases t with
  | union style members => cases style <;> rfl
  | _ => rfl

theorem join?_rename (a b : TypeExpr) :
    (a.rename ρ).join? (b.rename ρ) = (a.join? b).map (rename ρ) := by
  have hunite : ∀ style, unite style [a.rename ρ, b.rename ρ] = (unite style [a, b]).rename ρ :=
    fun style => unite_rename ρ style [a, b]
  unfold join?
  rw [joinsByBar_rename, joinsByBar_rename, joinsByName_rename, joinsByName_rename,
    isProtocolBase_rename, isProtocolBase_rename]
  split
  · cases a <;> cases b <;> first | rfl | exact congrArg some (hunite .bars)
  · split
    · rfl
    · split
      · exact congrArg some (hunite .named)
      · rfl

theorem parameters_rename (t : TypeExpr) : (t.rename ρ).parameters = t.parameters.map ρ := by
  induction t using induct with
  | step t ih =>
      have hall : ∀ ts : List TypeExpr, (∀ t ∈ ts, (t.rename ρ).parameters = t.parameters.map ρ) →
          parametersOfAll (ts.map (rename ρ)) = (parametersOfAll ts).map ρ := by
        intro ts hts
        induction ts with
        | nil => rfl
        | cons t ts ihs =>
            obtain ⟨ht, hts⟩ := List.forall_mem_cons.1 hts
            rw [List.map_cons, parametersOfAll, parametersOfAll, ht, ihs hts, List.map_append]
      cases t with
      | generic origin args => simpa [rename, parameters] using hall args ih
      | union style members => simpa [rename, parameters] using hall members ih
      | annotated inner metadata => exact ih inner (by simp [parts])
      | _ => rfl

end TypeExpr

/-- A substitution with the type variables renamed on both sides. -/
def Substitution.rename (ρ : Renaming) (s : Substitution) : Substitution :=
  s.map fun entry => (ρ entry.1, entry.2.rename ρ)

namespace Substitution

variable (ρ : Renaming)

theorem image_rename (s : Substitution) (v : TypeVar) :
    (s.rename ρ).image (ρ v) = (s.image v).rename ρ := by
  have hsame : ∀ w, (ρ w).same (ρ v) = w.same v := fun w => TypeExpr.same_rename ρ (.typeVar w) (.typeVar v)
  have hentries : (fun entry : TypeVar × TypeExpr => entry.1.same (ρ v)) ∘
      (fun entry : TypeVar × TypeExpr => (ρ entry.1, entry.2.rename ρ)) =
        fun entry => entry.1.same v :=
    funext fun entry => hsame entry.1
  unfold image image? Substitution.rename
  rw [List.find?_map, hentries]
  cases s.find? fun entry => entry.1.same v <;> rfl

theorem fixes_rename (s : Substitution) (v : TypeVar) : (s.rename ρ).fixes (ρ v) = s.fixes v := by
  rw [fixes, fixes, image_rename]
  exact TypeExpr.same_rename ρ (s.image v) (.typeVar v)

end Substitution

namespace TypeExpr

variable (ρ : Renaming)

theorem rebuild_rename (s : Substitution) (t : TypeExpr) :
    (t.rename ρ).rebuild (s.rename ρ) = (t.rebuild s).rename ρ := by
  induction t using induct with
  | step t ih =>
      have hall : ∀ ts : List TypeExpr,
          (∀ t ∈ ts, (t.rename ρ).rebuild (s.rename ρ) = (t.rebuild s).rename ρ) →
          (ts.map (rename ρ)).map (rebuild (s.rename ρ)) = (ts.map (rebuild s)).map (rename ρ) := by
        intro ts hts
        rw [List.map_map, List.map_map]
        exact List.map_congr_left hts
      cases t with
      | typeVar v => simp only [rename, rebuild, Substitution.image_rename, asArgument_rename]
      | generic origin args =>
          simp only [rename, rebuild, renameAll_eq_map, rebuildAll_eq_map, hall args ih]
      | union style members =>
          simp only [rename, rebuild, renameAll_eq_map, rebuildAll_eq_map, hall members ih, unite_rename]
      | annotated inner metadata =>
          have hinner := ih inner (by simp [parts])
          simp only [rename, rebuild, hinner, annotate_rename]
      | _ => rfl

theorem substitute_rename (s : Substitution) (t : TypeExpr) :
    (t.rename ρ).substitute (s.rename ρ) = (t.substitute s).rename ρ := by
  have hfixes : (s.rename ρ).fixes ∘ ρ = s.fixes := funext fun v => s.fixes_rename ρ v
  by_cases hvar : ∃ v, t = typeVar v
  · obtain ⟨v, rfl⟩ := hvar
    exact s.image_rename ρ v
  · have hcompound : ∀ v, t ≠ typeVar v := fun v hv => hvar ⟨v, hv⟩
    have hcompound' : ∀ v, t.rename ρ ≠ typeVar v := by
      intro v
      cases t with
      | typeVar w => exact absurd rfl (hcompound w)
      | _ => simp [rename]
    rw [substitute_of_compound _ hcompound, substitute_of_compound _ hcompound', parameters_rename,
      List.all_map, hfixes, rebuild_rename]
    split <;> rfl

end TypeExpr

end RecordBinding
