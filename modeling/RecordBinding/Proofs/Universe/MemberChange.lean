import RecordBinding.Proofs.Universe.Declaration

namespace RecordBinding

/-- Other members in place of those of each class, under the same names and abstract where those are. Mere
attributes stay as they are. -/
structure MemberChange where
  toFun : ClassId → Member → Member
  name : ∀ c member, (toFun c member).name = member.name
  isAbstract : ∀ c member, (toFun c member).isAbstract = member.isAbstract
  plain : ∀ c member v, member.kind = .attribute v → toFun c member = member

instance : CoeFun MemberChange fun _ => ClassId → Member → Member := ⟨MemberChange.toFun⟩

/-- A class that stands where another one does, with other members. Nothing is said of what the two list as
their bases and parameters. -/
structure MemberChange.Replaces (φ : MemberChange) (info info' : ClassInfo) : Prop where
  id : info'.id = info.id
  kind : info'.kind = info.kind
  ancestors : info'.ancestors = info.ancestors
  members : info'.members = info.members.map (φ info.id)

theorem find?_member_map (φ : MemberChange) (c : ClassId) (members : List Member) (name : String) :
    (members.map (φ c)).find? (fun member => member.name == name) =
      (members.find? fun member => member.name == name).map (φ c) := by
  simp only [List.find?_map, Function.comp_def, φ.name]

theorem mergeMembers_map (φ : MemberChange) (c : ClassId) (members : List Member) :
    mergeMembers (members.map (φ c)) = (mergeMembers members).map (φ c) := by
  unfold mergeMembers
  rw [List.foldl_map]
  change List.foldl _ ([].map (φ c)) members = _
  refine List.foldl_hom (List.map (φ c)) fun kept member => ?_
  simp only [List.any_map, Function.comp_def, φ.name]
  split
  · rw [List.map_map, List.map_map]
    refine List.map_congr_left fun other _ => ?_
    simp only [Function.comp_apply, φ.name]
    split <;> rfl
  · rw [List.map_append]
    rfl

namespace Classes

theorem firstOfName_map (φ : MemberChange) (entries : List (ClassId × Member)) :
    firstOfName (entries.map fun entry => (entry.1, φ entry.1 entry.2)) =
      (firstOfName entries).map fun entry => (entry.1, φ entry.1 entry.2) := by
  induction entries with
  | nil => rfl
  | cons entry rest ih =>
      simp only [List.map_cons, firstOfName, ih, List.filter_map, Function.comp_def, φ.name]

section

variable {φ : MemberChange} {F : ClassInfo → ClassInfo} (hF : ∀ info, φ.Replaces info (F info))
  (classes : Classes)

include hF

theorem find?_map (c : ClassId) : find? (classes.map F) c = (classes.find? c).map F := by
  unfold find?
  simp only [List.find?_map, Function.comp_def, (hF _).id]

theorem ancestors_map (c : ClassId) : ancestors (classes.map F) c = classes.ancestors c := by
  unfold ancestors
  split
  · rw [find?_map hF, Option.map_map]
    simp only [Function.comp_def, (hF _).ancestors]
  all_goals rfl

theorem inherits_map (c ancestor : ClassId) :
    inherits (classes.map F) c ancestor = classes.inherits c ancestor := by
  rw [inherits, inherits, ancestors_map hF]

theorem isProtocol_map (c : ClassId) : isProtocol (classes.map F) c = classes.isProtocol c := by
  unfold isProtocol
  split
  · rfl
  · rw [find?_map hF, Option.map_map]
    simp only [Function.comp_def, (hF _).kind]

theorem ownMembers_map (c : ClassId) :
    ownMembers (classes.map F) c = (classes.ownMembers c).map (φ c) := by
  unfold ownMembers
  rw [find?_map hF]
  cases hfind : classes.find? c with
  | none =>
      refine (List.map_id _).symm.trans (List.map_congr_left fun member hmember => ?_)
      obtain ⟨v, hv⟩ := ClassId.kind_of_mem_builtinMembers hmember
      exact (φ.plain c member v hv).symm
  | some info =>
      obtain ⟨-, rfl⟩ := mem_of_find? hfind
      exact (hF info).members

theorem ownMember?_map (c : ClassId) (name : String) :
    ownMember? (classes.map F) c name = (classes.ownMember? c name).map (φ c) := by
  rw [ownMember?, ownMember?, ownMembers_map hF, find?_member_map]

theorem memberAlong?_map (name : String) (cs : List ClassId) :
    memberAlong? (classes.map F) name cs =
      (classes.memberAlong? name cs).map fun found => (found.1, φ found.1 found.2) := by
  induction cs with
  | nil => rfl
  | cons c cs ih =>
      rw [memberAlong?, memberAlong?, ownMember?_map hF, ih]
      cases classes.ownMember? c name <;> rfl

theorem member?_map (c : ClassId) (name : String) :
    member? (classes.map F) c name =
      (classes.member? c name).map fun found => (found.1, φ found.1 found.2) := by
  rw [member?, member?, ancestors_map hF, memberAlong?_map hF]

theorem membersOf_map (cs : List ClassId) :
    membersOf (classes.map F) cs =
      (classes.membersOf cs).map fun entry => (entry.1, φ entry.1 entry.2) := by
  unfold membersOf
  rw [List.map_flatMap]
  refine congrArg (List.flatMap · _) (funext fun c => ?_)
  rw [ownMembers_map hF, List.map_map, List.map_map]
  rfl

theorem publicMembers_map (ancestors : List ClassId) :
    publicMembers (classes.map F) ancestors =
      (classes.publicMembers ancestors).map fun entry => (entry.1, φ entry.1 entry.2) := by
  simp only [publicMembers, membersOf_map hF, firstOfName_map, List.filter_map, Function.comp_def,
    φ.name]

end

end Classes

end RecordBinding
