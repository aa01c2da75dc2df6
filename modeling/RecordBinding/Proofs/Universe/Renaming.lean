import RecordBinding.Proofs.Declaration.Renaming
import RecordBinding.Proofs.Universe.Instantiation
import RecordBinding.Proofs.Universe.MemberChange

namespace RecordBinding

/-- New names for the type parameters of each class, which keep different names different. -/
structure NewNames where
  toFun : ClassId → String → String
  injective : ∀ c, Function.Injective (toFun c)

instance : CoeFun NewNames fun _ => ClassId → String → String := ⟨NewNames.toFun⟩

/-- The type variables of classes with their new names. -/
def NewNames.renaming (g : NewNames) : Renaming where
  toFun v :=
    match v.owner with
    | some name => { v with name := g (.declared name) v.name }
    | none => v
  injective := by
    rintro ⟨_ | a, v, bound⟩ ⟨_ | b, w, bound'⟩ h
    · exact h
    · cases h
    · cases h
    · obtain ⟨howner, hname, hbound⟩ := TypeVar.mk.inj h
      obtain rfl := Option.some.inj howner
      obtain rfl : bound = bound' := hbound
      obtain rfl : v = w := g.injective _ hname
      rfl
  bound v := by split <;> rfl

def Value.rename (ρ : Renaming) : Value → Value
  | type t => type (t.rename ρ)
  | v => v

def MemberKind.rename (g : String → String) : MemberKind → MemberKind
  | method f => method (f.rename g)
  | staticMethod f => staticMethod (f.rename g)
  | classMethod f => classMethod (f.rename g)
  | staticValue v => staticValue v
  | property getter => property (getter.map (Function.rename g))
  | overload base cases => overload (base.rename g) (cases.map fun entry => (entry.1, entry.2.rename g))
  | .attribute v => .attribute v

def Member.functions (member : Member) : List Function :=
  match member.kind with
  | .method f | .staticMethod f | .classMethod f => [f]
  | .property getter => getter.toList
  | .overload base cases => base :: cases.map Prod.snd
  | .staticValue _ | .attribute _ => []

def Member.rename (g : String → String) (member : Member) : Member :=
  { member with kind := member.kind.rename g }

def TypeParameter.rename (g : String → String) (p : TypeParameter) : TypeParameter :=
  ⟨g p.name, p.bound.map (TypeSource.rename g)⟩

/-- The declaration of a class with other names in its parameters, its bases and the annotations of its
members. The classes that overloads are written for are read without the parameters. -/
def ClassDeclaration.rename (g : String → String) (d : ClassDeclaration) : ClassDeclaration :=
  { d with
    parameters := d.parameters.map (TypeParameter.rename g)
    bases := d.bases.map (TypeSource.rename g)
    members := d.members.map (Member.rename g) }

/-- The module with new names for the type parameters of its classes. -/
def ModuleDeclaration.rename (g : NewNames) (m : ModuleDeclaration) : ModuleDeclaration :=
  { m with
    classes := m.classes.map fun d => d.rename (g (.declared d.name))
    values := m.values.map fun entry => (entry.1, entry.2.rename g.renaming) }

def ClassInfo.rename (g : NewNames) (info : ClassInfo) : ClassInfo :=
  { info with
    typeParameters := info.typeParameters.map g.renaming
    parameters := info.parameters.map g.renaming
    listedBases := info.listedBases.map (TypeExpr.rename g.renaming)
    members := info.members.map (Member.rename (g info.id)) }

/-- The members of each class with new names for its type parameters. -/
def NewNames.memberChange (g : NewNames) : MemberChange where
  toFun c := Member.rename (g c)
  name _ _ := rfl
  isAbstract _ _ := rfl
  plain c member v h := by
    obtain ⟨name, kind, isAbstract⟩ := member
    cases h
    rfl

theorem NewNames.replaces (g : NewNames) (info : ClassInfo) :
    g.memberChange.Replaces info (info.rename g) :=
  ⟨rfl, rfl, rfl, rfl⟩

namespace Classes

variable (g : NewNames)

def rename (classes : Classes) : Classes :=
  classes.map (ClassInfo.rename g)

variable {classes : Classes}

theorem find?_rename (c : ClassId) :
    (classes.rename g).find? c = (classes.find? c).map (ClassInfo.rename g) :=
  classes.find?_map g.replaces c

theorem parameters_rename (c : ClassId) :
    (classes.rename g).parameters c = (classes.parameters c).map g.renaming := by
  unfold parameters
  rw [find?_rename]
  cases classes.find? c <;> rfl

theorem ancestors_rename (c : ClassId) : (classes.rename g).ancestors c = classes.ancestors c :=
  classes.ancestors_map g.replaces c

theorem inherits_rename (c ancestor : ClassId) :
    (classes.rename g).inherits c ancestor = classes.inherits c ancestor :=
  classes.inherits_map g.replaces c ancestor

theorem isProtocol_rename (c : ClassId) : (classes.rename g).isProtocol c = classes.isProtocol c :=
  classes.isProtocol_map g.replaces c

theorem memberAlong?_rename (name : String) (cs : List ClassId) :
    (classes.rename g).memberAlong? name cs =
      (classes.memberAlong? name cs).map fun found => (found.1, found.2.rename (g found.1)) :=
  classes.memberAlong?_map g.replaces name cs

theorem member?_rename (c : ClassId) (name : String) :
    (classes.rename g).member? c name =
      (classes.member? c name).map fun found => (found.1, found.2.rename (g found.1)) :=
  classes.member?_map g.replaces c name

end Classes

theorem mem_of_mem_mergeMembers {members : List Member} {member : Member}
    (h : member ∈ mergeMembers members) : member ∈ members := by
  unfold mergeMembers at h
  refine (List.foldlRecOn (motive := fun kept => ∀ other ∈ kept, other ∈ members) members _
    (List.forall_mem_nil _) fun kept hkept next hnext => ?_) member h
  split
  · refine List.forall_mem_map.2 fun other hother => ?_
    split
    · exact hnext
    · exact hkept other hother
  · exact List.forall_mem_append.2 ⟨hkept, List.forall_mem_singleton.2 hnext⟩

namespace ClassDeclaration

variable {g : NewNames}

theorem any_same_rename (ρ : Renaming) (vars : List TypeVar) (v : TypeVar) :
    (vars.map ρ).any (TypeVar.same (ρ v)) = vars.any v.same := by
  rw [List.any_map]
  exact congrArg vars.any (funext fun w => TypeExpr.same_rename ρ (.typeVar v) (.typeVar w))

theorem withoutRepetition_rename (ρ : Renaming) (vars : List TypeVar) :
    withoutRepetition (vars.map ρ) = (withoutRepetition vars).map ρ := by
  unfold withoutRepetition
  rw [List.foldl_map]
  change List.foldl _ ([].map ρ) vars = _
  refine List.foldl_hom (List.map ρ) fun kept v => ?_
  rw [any_same_rename]
  split
  · rfl
  · rw [List.map_append]
    rfl

theorem allBases_rename (ρ : Renaming) (kind : ClassKind) (hasParameters : Bool)
    (listed : List TypeExpr) :
    allBases kind hasParameters (listed.map (TypeExpr.rename ρ)) = allBases kind hasParameters listed := by
  have hclass : baseClass? ∘ TypeExpr.rename ρ = baseClass? :=
    funext fun t => by cases t <;> rfl
  have happlication : isDeclaredApplication ∘ TypeExpr.rename ρ = isDeclaredApplication := by
    funext t
    cases t with
    | generic origin args => cases origin <;> rfl
    | _ => rfl
  simp only [allBases, List.filterMap_map, List.any_map, hclass, happlication]

/-- The names that a class uses before its own parameters have bounds, or in its bases. -/
def headNames (d : ClassDeclaration) : List String :=
  (d.parameters.filterMap TypeParameter.bound ++ d.bases).flatMap TypeSource.names

/-- The scope that a class is declared in, without its own parameters. -/
def outerScope (names : String → Option TypeExpr) (classes : Classes) : Scope where
  lookup := names
  arity := fun c => (classes.find? c).map fun info => info.parameters.length
  keepsMissing := false

/-- The class that the bound of a type parameter erases to. -/
def boundOf (names : String → Option TypeExpr) (classes : Classes) (d : ClassDeclaration)
    (p : TypeParameter) : ClassId :=
  match p.bound with
  | some source =>
      match source.evaluate ((outerScope names classes).extend
        (d.parameters.map fun p => (p.name, .typeVar ⟨some d.name, p.name, .object⟩))) with
      | .ok t => t.erase
      | .error _ => .object
  | none => .object

def typeParametersOf (names : String → Option TypeExpr) (classes : Classes) (d : ClassDeclaration) :
    List TypeVar :=
  d.parameters.map fun p => ⟨some d.name, p.name, boundOf names classes d p⟩

/-- The bases of a class that can be evaluated. -/
def basesOf (names : String → Option TypeExpr) (classes : Classes) (d : ClassDeclaration) :
    List TypeExpr :=
  d.bases.filterMap fun source => (source.evaluate ((outerScope names classes).extend
    ((typeParametersOf names classes d).map fun v => (v.name, .typeVar v)))).toOption

section

variable {names : String → Option TypeExpr} (hnames : ∀ n t, names n = some t → t.rename g.renaming = t)
  (classes : Classes) {d : ClassDeclaration}
  (hd : ∀ n ∈ d.headNames, n ∈ d.parameters.map TypeParameter.name ∨ g (.declared d.name) n = n)

theorem alike_outerScope : (outerScope names classes).Alike (outerScope names (classes.rename g)) := by
  refine ⟨funext fun c => ?_, rfl⟩
  simp only [outerScope, Classes.find?_rename]
  cases classes.find? c with
  | none => rfl
  | some info => simp [ClassInfo.rename]

include hnames in
theorem renames_outerScope (n : String) :
    (outerScope names classes).Renames g.renaming id (outerScope names (classes.rename g)) n := by
  apply Scope.Renames.of_lookup
  simp only [outerScope]
  cases h : names n with
  | none => rfl
  | some t => rw [Option.map_some, hnames n t h]

include hnames in
/-- Annotations that stand before a class has its members are evaluated alike with the new names. -/
theorem evaluate_extend_rename {entries : List (String × TypeExpr)} {source : TypeSource}
    (h : ∀ n ∈ source.names, n ∈ entries.map Prod.fst ∨ g (.declared d.name) n = n) :
    EndsAlike (TypeExpr.rename g.renaming) (source.evaluate ((outerScope names classes).extend entries))
      ((source.rename (g (.declared d.name))).evaluate ((outerScope names (classes.rename g)).extend
        (entries.map fun entry => (g (.declared d.name) entry.1, entry.2.rename g.renaming)))) :=
  source.evaluate_rename ((alike_outerScope classes).extend _ _) fun n hn =>
    .extend (g.injective _) (h n hn) (renames_outerScope hnames classes n)

include hnames hd in
theorem boundOf_rename {p : TypeParameter} (hp : p ∈ d.parameters) :
    boundOf names (classes.rename g) (d.rename (g (.declared d.name)))
      (p.rename (g (.declared d.name))) = boundOf names classes d p := by
  cases hbound : p.bound with
  | none => simp [boundOf, TypeParameter.rename, hbound]
  | some source =>
      let entries := d.parameters.map fun p => (p.name, TypeExpr.typeVar ⟨some d.name, p.name, .object⟩)
      have hentries : (d.parameters.map (TypeParameter.rename (g (.declared d.name)))).map
          (fun p => (p.name, TypeExpr.typeVar ⟨some d.name, p.name, .object⟩)) =
          entries.map fun entry => (g (.declared d.name) entry.1, entry.2.rename g.renaming) := by
        simp only [entries, List.map_map]
        rfl
      have hsource : ∀ n ∈ source.names, n ∈ entries.map Prod.fst ∨ g (.declared d.name) n = n := by
        intro n hn
        simp only [entries, List.map_map]
        refine hd n (List.mem_flatMap.2 ⟨source, List.mem_append_left _ ?_, hn⟩)
        exact List.mem_filterMap.2 ⟨p, hp, hbound⟩
      have heval := evaluate_extend_rename hnames classes hsource
      simp only [boundOf, TypeParameter.rename, ClassDeclaration.rename, hbound, Option.map_some]
      rw [hentries]
      generalize source.evaluate _ = value at heval ⊢
      generalize (source.rename _).evaluate _ = value' at heval ⊢
      cases heval with
      | ok t => exact TypeExpr.erase_rename g.renaming t
      | _ => rfl

include hnames hd in
theorem typeParametersOf_rename :
    typeParametersOf names (classes.rename g) (d.rename (g (.declared d.name))) =
      (typeParametersOf names classes d).map g.renaming := by
  simp only [typeParametersOf, ClassDeclaration.rename, List.map_map]
  refine List.map_congr_left fun p hp => ?_
  exact congrArg (TypeVar.mk (some d.name) (g (.declared d.name) p.name))
    (boundOf_rename hnames classes hd hp)

include hnames hd in
theorem basesOf_rename :
    basesOf names (classes.rename g) (d.rename (g (.declared d.name))) =
      (basesOf names classes d).map (TypeExpr.rename g.renaming) := by
  let entries := (typeParametersOf names classes d).map fun v => (v.name, TypeExpr.typeVar v)
  have hentries : (typeParametersOf names (classes.rename g) (d.rename (g (.declared d.name)))).map
      (fun v => (v.name, TypeExpr.typeVar v)) =
      entries.map fun entry => (g (.declared d.name) entry.1, entry.2.rename g.renaming) := by
    rw [typeParametersOf_rename hnames classes hd]
    simp only [entries, typeParametersOf, List.map_map]
    rfl
  unfold basesOf
  rw [hentries, List.map_filterMap]
  simp only [ClassDeclaration.rename, List.filterMap_map]
  refine List.filterMap_congr fun source hsource => ?_
  have hmentions : ∀ n ∈ source.names, n ∈ entries.map Prod.fst ∨ g (.declared d.name) n = n := by
    intro n hn
    simp only [entries, typeParametersOf, List.map_map]
    exact hd n (List.mem_flatMap.2 ⟨source, List.mem_append_right _ hsource, hn⟩)
  exact (evaluate_extend_rename hnames classes hmentions).toOption_eq

end

theorem declare_rename {names : String → Option TypeExpr}
    (hnames : ∀ n t, names n = some t → t.rename g.renaming = t) (classes : Classes)
    (d : ClassDeclaration)
    (hd : ∀ n ∈ d.headNames, n ∈ d.parameters.map TypeParameter.name ∨ g (.declared d.name) n = n) :
    declare names (classes.rename g) (d.rename (g (.declared d.name))) =
      (declare names classes d).rename g := by
  unfold declare
  extract_lets outer' unbounded' typeParameters' scope' listed' bases' ancestors' parameters' members'
    hasMember' inherited' declared' abstractNames' outer unbounded typeParameters scope listed bases
    ancestors parameters members hasMember inherited declared abstractNames
  -- each part of a class is computed from those before it, so they are taken in the order of the definition
  have htype : typeParameters' = typeParameters.map g.renaming :=
    typeParametersOf_rename hnames classes hd
  have hlisted : listed' = listed.map (TypeExpr.rename g.renaming) := basesOf_rename hnames classes hd
  have hbases : bases' = bases := by
    simp only [bases', bases, hlisted, allBases_rename]
    simp only [ClassDeclaration.rename, List.isEmpty_map]
  have hancestors : ancestors' = ancestors := by
    simp only [ancestors', ancestors, hbases, funext (Classes.ancestors_rename g)]
    rfl
  have hparameters : parameters' = parameters.map g.renaming := by
    have hall : TypeExpr.parametersOfAll (listed.map (TypeExpr.rename g.renaming)) =
        (TypeExpr.parametersOfAll listed).map g.renaming := by
      simp only [TypeExpr.parametersOfAll_eq_flatMap, List.flatMap_map, List.map_flatMap,
        TypeExpr.parameters_rename]
    simp only [parameters', parameters, htype, hlisted, hancestors, hall, withoutRepetition_rename,
      List.isEmpty_map]
    split
    · rfl
    · split <;> rfl
  have hmembers : members' = members.map (Member.rename (g (.declared d.name))) :=
    mergeMembers_map g.memberChange (.declared d.name) d.members
  have hdeclared : declared' = declared := by
    simp only [declared', declared, hmembers, List.filter_map, List.map_map]
    rfl
  have hmember : ∀ name, hasMember' name =
      (hasMember name).map (Member.rename (g (.declared d.name))) := by
    intro name
    simp only [hasMember', hasMember, hmembers]
    exact find?_member_map g.memberChange (.declared d.name) members name
  have hbaseNames : ∀ b, ((Classes.find? (Classes.rename g classes) b).map ClassInfo.abstractNames).getD [] =
      ((classes.find? b).map ClassInfo.abstractNames).getD [] := by
    intro b
    rw [Classes.find?_rename]
    cases classes.find? b <;> rfl
  have hinherited : inherited' = inherited := by
    simp only [inherited', inherited, hbases, hancestors, hbaseNames, hmember, Classes.memberAlong?_rename]
    refine List.filter_congr fun name _ => ?_
    cases hasMember name with
    | some member => rfl
    | none => cases classes.memberAlong? name ancestors.tail <;> rfl
  have habstract : abstractNames' = abstractNames := by
    simp only [abstractNames', abstractNames, hancestors, hdeclared, hinherited]
  rw [htype, hlisted, hbases, hancestors, hparameters, hmembers, habstract]
  rfl

end ClassDeclaration

namespace ModuleDeclaration

variable (g : NewNames) (m : ModuleDeclaration)

theorem typeNamed?_rename (fuel : Nat) (n : String) :
    (m.rename g).typeNamed? fuel n = m.typeNamed? fuel n := by
  induction fuel generalizing n with
  | zero => rfl
  | succ fuel ih =>
      have hclasses : (m.rename g).classes.any (fun d => d.name == n) =
          m.classes.any fun d => d.name == n := by
        simp only [rename, List.any_map]
        rfl
      rw [typeNamed?, typeNamed?, hclasses, funext ih]
      rfl

theorem rename_typeNamed? (fuel : Nat) {n : String} {t : TypeExpr} (h : m.typeNamed? fuel n = some t) :
    t.rename g.renaming = t := by
  induction fuel generalizing n t with
  | zero => cases h
  | succ fuel ih =>
      let scope : Scope :=
        { lookup := m.typeNamed? fuel, arity := fun _ => none, keepsMissing := false }
      have hscope : ∀ n, scope.Renames g.renaming id scope n := by
        intro n
        apply Scope.Renames.of_lookup
        cases hn : scope.lookup n with
        | none => rfl
        | some t => rw [Option.map_some, ih hn]
      have heval : ∀ {source : TypeSource} {t}, source.evaluate scope = .ok t →
          t.rename g.renaming = t := by
        intro source t ht
        have h := source.evaluate_rename ⟨rfl, rfl⟩ fun n _ => hscope n
        rw [source.rename_id, ht] at h
        exact (Option.some.inj h.toOption_eq).symm
      rw [typeNamed?] at h
      split at h
      · cases h
        rfl
      · dsimp only at h
        split at h
        · cases h
          rfl
        · obtain ⟨base, hbase, rfl⟩ := Option.map_eq_some_iff.1 h
          exact congrArg (TypeExpr.newtype _) (heval (ok_of_toOption hbase))
        · obtain ⟨target, htarget, rfl⟩ := Option.map_eq_some_iff.1 h
          exact congrArg (TypeExpr.alias _) (heval (ok_of_toOption htarget))
        · cases h

theorem typeNames_rename : (m.rename g).typeNames = m.typeNames := by
  have hnames : (m.rename g).classes.map ClassDeclaration.name = m.classes.map ClassDeclaration.name := by
    simp only [rename, List.map_map]
    rfl
  simp only [typeNames, hnames, typeNamed?_rename]
  rfl

theorem rename_typeNames {n : String} {t : TypeExpr} (h : m.typeNames.lookup n = some t) :
    t.rename g.renaming = t :=
  m.rename_typeNamed? g _ (m.typeNamed?_of_lookup h)

end ModuleDeclaration

/-- The names that the annotations of a member mention. -/
def Member.mentions (member : Member) : List String :=
  member.functions.flatMap fun f => f.annotations.flatMap TypeSource.names

/-- The names that a class uses in its own body, in its bases, and in the bounds of its parameters. -/
def ClassDeclaration.mentions (d : ClassDeclaration) : List String :=
  d.headNames ++ d.members.flatMap Member.mentions

/-- New names that a module has room for: in each class they leave alone what the class uses besides its own
parameters. -/
def NewNames.Suit (g : NewNames) (m : ModuleDeclaration) : Prop :=
  ∀ d ∈ m.classes, ∀ n ∈ d.mentions,
    n ∈ d.parameters.map TypeParameter.name ∨ g (.declared d.name) n = n

def Universe.rename (g : NewNames) (u : Universe) : Universe :=
  { u with
    classes := u.classes.rename g
    values := u.values.map fun entry => (entry.1, entry.2.rename g.renaming) }

namespace ModuleDeclaration

variable {g : NewNames} {m : ModuleDeclaration}

theorem toUniverse_rename (hg : g.Suit m) : (m.rename g).toUniverse = m.toUniverse.rename g := by
  have hfold : ∀ (ds : List ClassDeclaration) (classes : Classes), (∀ d ∈ ds, d ∈ m.classes) →
      (ds.map fun d => d.rename (g (.declared d.name))).foldl
          (ClassDeclaration.declare fun n => m.typeNames.lookup n) (classes.rename g) =
        (ds.foldl (ClassDeclaration.declare fun n => m.typeNames.lookup n) classes).rename g := by
    intro ds
    induction ds with
    | nil => exact fun classes _ => rfl
    | cons d ds ih =>
        intro classes hds
        obtain ⟨hd, hds⟩ := List.forall_mem_cons.1 hds
        rw [List.map_cons, List.foldl_cons, List.foldl_cons, ← ih _ hds,
          ClassDeclaration.declare_rename (fun n t ht => m.rename_typeNames g ht) classes d fun n hn =>
            hg d hd n (List.mem_append_left _ hn)]
  unfold toUniverse Universe.rename
  simp only [typeNames_rename]
  rw [← hfold m.classes [] fun d hd => hd]
  rfl

theorem name?_rename (n : String) :
    (m.toUniverse.rename g).name? n = (m.toUniverse.name? n).map (TypeExpr.rename g.renaming) := by
  have hvalue : ∀ v : Value, (v.rename g.renaming).toType = v.toType.rename g.renaming := by
    intro v
    cases v with
    | scalar s => exact (TypeExpr.rename_ofScalar g.renaming s).symm
    | _ => rfl
  have hvalues : (m.values.map fun entry => (entry.1, entry.2.rename g.renaming)).lookup n =
      (m.values.lookup n).map (Value.rename g.renaming) := by
    induction m.values with
    | nil => rfl
    | cons entry entries ih =>
        rw [List.map_cons, List.lookup_cons, List.lookup_cons, ih]
        split <;> rfl
  simp only [Universe.name?, Universe.rename, toUniverse, hvalues]
  cases hname : m.typeNames.lookup n with
  | some t => exact congrArg some (m.rename_typeNames g hname).symm
  | none =>
      dsimp only
      cases m.functions.find? fun f => f.name == n with
      | some f => rfl
      | none => cases m.values.lookup n with
        | none => rfl
        | some v => exact congrArg some (hvalue v)

theorem alike_scope (g : NewNames) (m : ModuleDeclaration) :
    m.toUniverse.scope.Alike (m.toUniverse.rename g).scope := by
  refine ⟨funext fun c => ?_, rfl⟩
  simp only [Universe.scope, Universe.rename, Classes.find?_rename]
  cases m.toUniverse.classes.find? c with
  | none => rfl
  | some info => simp [ClassInfo.rename]

theorem renames_scope (g : NewNames) (m : ModuleDeclaration) (n : String) :
    m.toUniverse.scope.Renames g.renaming id (m.toUniverse.rename g).scope n :=
  .of_lookup (name?_rename n)

theorem renames_scopeOf {c : ClassId} {n : String}
    (hn : n ∈ (((m.toUniverse.classes.find? c).map ClassInfo.typeParameters).getD []).map TypeVar.name ∨
      g c n = n) :
    (m.toUniverse.scopeOf c).Renames g.renaming (g c) ((m.toUniverse.rename g).scopeOf c) n := by
  let params := ((m.toUniverse.classes.find? c).map ClassInfo.typeParameters).getD []
  have hparams : (((m.toUniverse.rename g).classes.find? c).map ClassInfo.typeParameters).getD [] =
      params.map g.renaming := by
    simp only [params, Universe.rename, Classes.find?_rename]
    cases m.toUniverse.classes.find? c <;> rfl
  have hname : ∀ v ∈ params, (g.renaming v).name = g c v.name := by
    intro v hv
    cases hfind : m.toUniverse.classes.find? c with
    | none => simp [params, hfind] at hv
    | some info =>
        obtain ⟨hmem, rfl⟩ := Classes.mem_of_find? hfind
        obtain ⟨earlier, hinfo⟩ := m.areDeclared_toUniverse.exists_of_mem hmem
        have howner := hinfo.owner v (by simpa [params, hfind] using hv)
        simp only [NewNames.renaming, howner]
        rfl
  have hentries : (params.map g.renaming).map (fun v => (v.name, TypeExpr.typeVar v)) =
      (params.map fun v => (v.name, TypeExpr.typeVar v)).map
        fun entry => (g c entry.1, entry.2.rename g.renaming) := by
    rw [List.map_map, List.map_map]
    exact List.map_congr_left fun v hv => Prod.ext (hname v hv) rfl
  have hown : (m.toUniverse.scope.extend [(c.qualname, .cls c)]).Renames g.renaming id
      ((m.toUniverse.rename g).scope.extend [(c.qualname, .cls c)]) n :=
    Scope.Renames.extend (g := id) (fun _ _ h => h) (.inr rfl) (renames_scope g m n)
  unfold Universe.scopeOf
  dsimp only
  rw [hparams, hentries, Scope.extend_append, Scope.extend_append]
  exact hown.extend (g.injective c) (by simpa [params, List.map_map] using hn)

theorem exists_of_find? {c : ClassId} {info : ClassInfo} (h : m.toUniverse.classes.find? c = some info) :
    ∃ d ∈ m.classes, c = .declared d.name ∧
      info.typeParameters.map TypeVar.name = d.parameters.map TypeParameter.name ∧
      ∀ member ∈ info.members, member ∈ d.members := by
  obtain ⟨hmem, rfl⟩ := Classes.mem_of_find? h
  obtain hnone | ⟨d, hd, earlier, hdeclare⟩ := ClassDeclaration.mem_foldl_declare hmem
  · cases hnone
  · obtain ⟨rfl, -⟩ := List.cons.inj hdeclare
    refine ⟨d, hd, rfl, ?_, fun member hmember => mem_of_mem_mergeMembers hmember⟩
    change (ClassDeclaration.typeParametersOf (fun n => m.typeNames.lookup n) earlier d).map _ = _
    rw [ClassDeclaration.typeParametersOf, List.map_map]
    rfl

theorem renames_of_mem (hg : g.Suit m) {c : ClassId} {info : ClassInfo}
    (hfind : m.toUniverse.classes.find? c = some info) {member : Member} (hmember : member ∈ info.members)
    {f : Function} (hf : f ∈ member.functions) :
    ∀ source ∈ f.annotations, ∀ n ∈ source.names,
      (m.toUniverse.scopeOf c).Renames g.renaming (g c) ((m.toUniverse.rename g).scopeOf c) n := by
  intro source hsource n hn
  apply renames_scopeOf
  obtain ⟨d, hd, rfl, hparameters, hmembers⟩ := exists_of_find? hfind
  rw [hfind, Option.map_some, Option.getD_some, hparameters]
  refine hg d hd n (List.mem_append_right _ (List.mem_flatMap.2 ⟨member, hmembers member hmember, ?_⟩))
  exact List.mem_flatMap.2 ⟨f, hf, List.mem_flatMap.2 ⟨source, hsource, hn⟩⟩

end ModuleDeclaration

end RecordBinding
