import RecordBinding.Object.Call
import RecordBinding.Proofs.TypeExpr.Formed
import RecordBinding.Proofs.Universe.Instantiation
import RecordBinding.Proofs.Universe.MemberChange

namespace RecordBinding

def ClassDeclaration.mapMembers (φ : MemberChange) (d : ClassDeclaration) : ClassDeclaration :=
  { d with members := d.members.map (φ (.declared d.name)) }

def ModuleDeclaration.mapMembers (φ : MemberChange) (m : ModuleDeclaration) : ModuleDeclaration :=
  { m with classes := m.classes.map (ClassDeclaration.mapMembers φ) }

def ClassInfo.mapMembers (φ : MemberChange) (info : ClassInfo) : ClassInfo :=
  { info with members := info.members.map (φ info.id) }

def Classes.mapMembers (φ : MemberChange) (classes : Classes) : Classes :=
  classes.map (ClassInfo.mapMembers φ)

def Universe.mapMembers (φ : MemberChange) (u : Universe) : Universe :=
  { u with classes := u.classes.mapMembers φ }

variable (φ : MemberChange)

theorem MemberChange.replaces (info : ClassInfo) : φ.Replaces info (info.mapMembers φ) :=
  ⟨rfl, rfl, rfl, rfl⟩

namespace Classes

variable (classes : Classes) (c : ClassId)

theorem find?_mapMembers :
    (classes.mapMembers φ).find? c = (classes.find? c).map (ClassInfo.mapMembers φ) :=
  classes.find?_map φ.replaces c

theorem parameters_mapMembers : (classes.mapMembers φ).parameters c = classes.parameters c := by
  unfold parameters
  rw [find?_mapMembers]
  cases classes.find? c <;> rfl

theorem ancestors_mapMembers : (classes.mapMembers φ).ancestors c = classes.ancestors c :=
  classes.ancestors_map φ.replaces c

theorem inherits_mapMembers (ancestor : ClassId) :
    (classes.mapMembers φ).inherits c ancestor = classes.inherits c ancestor :=
  classes.inherits_map φ.replaces c ancestor

theorem isProtocol_mapMembers : (classes.mapMembers φ).isProtocol c = classes.isProtocol c :=
  classes.isProtocol_map φ.replaces c

theorem memberAlong?_mapMembers (name : String) (cs : List ClassId) :
    (classes.mapMembers φ).memberAlong? name cs =
      (classes.memberAlong? name cs).map fun found => (found.1, φ found.1 found.2) :=
  classes.memberAlong?_map φ.replaces name cs

theorem member?_mapMembers (name : String) :
    (classes.mapMembers φ).member? c name =
      (classes.member? c name).map fun found => (found.1, φ found.1 found.2) :=
  classes.member?_map φ.replaces c name

theorem enterBase_mapMembers {earlier : Classes}
    (hvisit : ∀ c s walk, visit (earlier.mapMembers φ) c s walk = visit earlier c s walk)
    (s : Substitution) : enterBase (earlier.mapMembers φ) s = enterBase earlier s := by
  funext reached base
  unfold enterBase baseSubstitution
  simp only [parameters_mapMembers, hvisit]

theorem visit_mapMembers (s : Substitution) (walk : Instantiation) :
    visit (classes.mapMembers φ) c s walk = visit classes c s walk := by
  induction classes generalizing c s walk with
  | nil => rfl
  | cons info earlier ih =>
      have hid : (info.mapMembers φ).id = info.id := rfl
      have hbases : (info.mapMembers φ).listedBases = info.listedBases := rfl
      rw [mapMembers, List.map_cons, visit_cons, visit_cons, hid, hbases]
      change (if info.id = c then if walk.has c then walk else
        info.listedBases.foldl (enterBase (mapMembers φ earlier) s) _ else
          visit (mapMembers φ earlier) c s walk) = _
      rw [enterBase_mapMembers φ ih, ih]

theorem publicMembers_mapMembers (ancestors : List ClassId) :
    (classes.mapMembers φ).publicMembers ancestors =
      (classes.publicMembers ancestors).map fun entry => (entry.1, φ entry.1 entry.2) :=
  classes.publicMembers_map φ.replaces ancestors

end Classes

theorem ClassDeclaration.declare_mapMembers (names : String → Option TypeExpr) (classes : Classes)
    (d : ClassDeclaration) :
    declare names (classes.mapMembers φ) (d.mapMembers φ) = (declare names classes d).mapMembers φ := by
  unfold declare
  extract_lets outer' unbounded' typeParameters' scope' listed' bases' ancestors' parameters' members'
    hasMember' inherited' declared' abstractNames' outer unbounded typeParameters scope listed bases
    ancestors parameters members hasMember inherited declared abstractNames
  have houter : outer' = outer := by
    simp only [outer', outer, Classes.find?_mapMembers, Option.map_map]
    rfl
  have htype : typeParameters' = typeParameters := by
    simp only [typeParameters', typeParameters, unbounded', unbounded, houter]
    rfl
  have hlisted : listed' = listed := by
    simp only [listed', listed, scope', scope, houter, htype]
    rfl
  have hbases : bases' = bases := by
    simp only [bases', bases, hlisted]
    rfl
  have hancestors : ancestors' = ancestors := by
    simp only [ancestors', ancestors, hbases, funext (Classes.ancestors_mapMembers φ classes)]
    rfl
  have hparameters : parameters' = parameters := by
    simp only [parameters', parameters, htype, hlisted, hancestors]
  have hmembers : members' = members.map (φ (.declared d.name)) :=
    mergeMembers_map φ (.declared d.name) d.members
  have hdeclared : declared' = declared := by
    simp only [declared', declared, hmembers, List.filter_map, List.map_map, Function.comp_def,
      φ.name, φ.isAbstract]
  have hmember : ∀ name, hasMember' name = (hasMember name).map (φ (.declared d.name)) := by
    intro name
    simp only [hasMember', hasMember, hmembers]
    exact find?_member_map φ _ members name
  have hinherited : inherited' = inherited := by
    simp only [inherited', inherited, hbases, hancestors, hmember, Classes.find?_mapMembers,
      Option.map_map, Classes.memberAlong?_mapMembers]
    refine List.filter_congr fun name _ => ?_
    cases hasMember name with
    | some member => exact φ.isAbstract _ member
    | none =>
        cases classes.memberAlong? name ancestors.tail with
        | none => rfl
        | some found => exact φ.isAbstract found.1 found.2
  have habstract : abstractNames' = abstractNames := by
    simp only [abstractNames', abstractNames, hancestors, hdeclared, hinherited]
  rw [htype, hlisted, hbases, hancestors, hparameters, hmembers, habstract]
  rfl

namespace ModuleDeclaration

variable (m : ModuleDeclaration)

theorem typeNamed?_mapMembers (fuel : Nat) (n : String) :
    (m.mapMembers φ).typeNamed? fuel n = m.typeNamed? fuel n := by
  induction fuel generalizing n with
  | zero => rfl
  | succ fuel ih =>
      have hclasses : (m.mapMembers φ).classes.any (fun d => d.name == n) =
          m.classes.any fun d => d.name == n := by
        simp only [mapMembers, List.any_map]
        rfl
      rw [typeNamed?, typeNamed?, hclasses, funext ih]
      rfl

theorem typeNames_mapMembers : (m.mapMembers φ).typeNames = m.typeNames := by
  have hnames : (m.mapMembers φ).classes.map ClassDeclaration.name =
      m.classes.map ClassDeclaration.name := by
    simp only [mapMembers, List.map_map]
    rfl
  simp only [typeNames, hnames, typeNamed?_mapMembers]
  rfl

theorem toUniverse_mapMembers : (m.mapMembers φ).toUniverse = m.toUniverse.mapMembers φ := by
  have hfold : (m.classes.map (ClassDeclaration.mapMembers φ)).foldl
      (ClassDeclaration.declare fun n => m.typeNames.lookup n) (Classes.mapMembers φ []) =
        (m.classes.foldl (ClassDeclaration.declare fun n => m.typeNames.lookup n) []).mapMembers φ := by
    rw [List.foldl_map]
    exact List.foldl_hom (Classes.mapMembers φ) fun classes d =>
      ClassDeclaration.declare_mapMembers φ _ classes d
  unfold toUniverse Universe.mapMembers
  simp only [typeNames_mapMembers]
  rw [← hfold]
  rfl

end ModuleDeclaration

namespace Universe

variable (u : Universe)

theorem scope_mapMembers : (u.mapMembers φ).scope = u.scope := by
  simp only [scope, mapMembers, Classes.find?_mapMembers, Option.map_map]
  rfl

theorem scopeOf_mapMembers (c : ClassId) : (u.mapMembers φ).scopeOf c = u.scopeOf c := by
  unfold scopeOf
  rw [scope_mapMembers]
  simp only [mapMembers, Classes.find?_mapMembers, Option.map_map]
  rfl

theorem instantiation_mapMembers (t : TypeExpr) :
    (u.mapMembers φ).instantiation t = u.instantiation t := by
  simp only [instantiation, mapMembers, Classes.parameters_mapMembers, Classes.visit_mapMembers]

theorem discoveryInstantiation_mapMembers (resolved definition : TypeExpr) :
    (u.mapMembers φ).discoveryInstantiation resolved definition =
      u.discoveryInstantiation resolved definition := by
  simp only [discoveryInstantiation, instantiation_mapMembers]

theorem returnHint_mapMembers (f : Function) (c : ClassId) :
    (u.mapMembers φ).returnHint f c = u.returnHint f c := by
  rw [returnHint, returnHint, scopeOf_mapMembers]

theorem admits_mapMembers (supplied hint : TypeExpr) :
    (u.mapMembers φ).admits supplied hint = u.admits supplied hint := by
  simp only [admits, inherits, mapMembers, Classes.isProtocol_mapMembers, Classes.inherits_mapMembers]

theorem classOf_mapMembers (v : Value) : (u.mapMembers φ).classOf v = u.classOf v := by
  have hancestors : ∀ c, (u.mapMembers φ).classes.ancestors c = u.classes.ancestors c :=
    u.classes.ancestors_mapMembers φ
  cases v with
  | type t =>
      cases t with
      | cls c => simp only [classOf, classOfType, hancestors]
      | generic origin args => cases origin <;> rfl
      | union style members => cases style <;> rfl
      | _ => rfl
  | _ => rfl

theorem classNamed?_mapMembers (name : String) :
    (u.mapMembers φ).classNamed? name = u.classNamed? name := by
  rw [classNamed?, classNamed?, scope_mapMembers]

theorem initialFields_mapMembers (c : ClassId) :
    (u.mapMembers φ).initialFields c = u.initialFields c := by
  simp only [initialFields, mapMembers, Classes.ancestors_mapMembers, Classes.find?_mapMembers]
  refine congrArg (List.foldl · [] _) (funext fun fields => funext fun a => ?_)
  cases u.classes.find? a <;> rfl

end Universe

namespace Action

variable (u : Universe)

theorem instantiate_mapMembers (c : ClassId) :
    instantiate (u.mapMembers φ) c = instantiate u c := by
  cases c with
  | declared name =>
      have hfind : (u.mapMembers φ).classes.find? (.declared name) = _ :=
        u.classes.find?_mapMembers φ (.declared name)
      simp only [instantiate, hfind, Universe.initialFields_mapMembers]
      cases u.classes.find? (.declared name) <;> rfl
  | _ => rfl

theorem callType_mapMembers (t : TypeExpr) : callType (u.mapMembers φ) t = callType u t := by
  induction t using TypeExpr.induct with
  | step t ih =>
      cases t with
      | cls c => exact instantiate_mapMembers φ u c
      | generic c args => exact instantiate_mapMembers φ u c
      | annotated inner metadata => exact ih inner (by simp [TypeExpr.parts])
      | _ => rfl

theorem runBody_mapMembers (body : Body) (args : List Value) :
    runBody (u.mapMembers φ) body args = runBody u body args := by
  unfold runBody
  simp only [Universe.classNamed?_mapMembers, instantiate_mapMembers, callType_mapMembers]

theorem call_mapMembers (factory : Attribute) :
    factory.call (u.mapMembers φ) [] = factory.call u [] := by
  cases factory with
  | function f held => simp only [Attribute.call, callFunction, runBody_mapMembers]
  | value v =>
      cases v with
      | type t => exact callType_mapMembers φ u t
      | _ => rfl
  | _ => rfl

end Action

end RecordBinding
