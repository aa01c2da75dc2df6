import RecordBinding.Proofs.Object.Agreement
import RecordBinding.Proofs.Universe.Instantiation

namespace RecordBinding

namespace Classes

theorem sublist_firstOfName (entries : List (ClassId × Member)) :
    (firstOfName entries).Sublist entries := by
  induction entries with
  | nil => exact .slnil
  | cons entry rest ih => exact .cons_cons entry (List.filter_sublist.trans ih)

theorem nodup_firstOfName (entries : List (ClassId × Member)) :
    ((firstOfName entries).map (·.2.name)).Nodup := by
  induction entries with
  | nil => exact .nil
  | cons entry rest ih =>
      rw [firstOfName, List.map_cons, List.nodup_cons]
      refine ⟨?_, (List.filter_sublist.map _).nodup ih⟩
      intro hname
      obtain ⟨other, hother, heq⟩ := List.mem_map.1 hname
      simpa [heq] using (List.mem_filter.1 hother).2

theorem mem_firstOfName_iff {entries : List (ClassId × Member)} {entry : ClassId × Member} :
    entry ∈ firstOfName entries ↔
      entries.find? (fun other => other.2.name == entry.2.name) = some entry := by
  induction entries with
  | nil => simp [firstOfName]
  | cons first rest ih =>
      rw [firstOfName, List.mem_cons, List.mem_filter, ih, List.find?_cons]
      cases hname : first.2.name == entry.2.name with
      | true =>
          have hsame : entry.2.name = first.2.name := (eq_of_beq hname).symm
          simp [hsame, eq_comm]
      | false =>
          have hne : entry ≠ first := by
            rintro rfl
            simp at hname
          have hkept : (entry.2.name != first.2.name) = true := by
            rw [bne_comm, bne, hname]
            rfl
          simp [hne, hkept]

theorem mem_publicMembers {classes : Classes} {ancestors : List ClassId}
    {entry : ClassId × Member} (h : entry ∈ classes.publicMembers ancestors) :
    entry.1 ∈ ancestors ∧ entry.1.isUniversal = false ∧ entry.2 ∈ classes.ownMembers entry.1 := by
  have hentry := (sublist_firstOfName _).subset (List.mem_filter.1 h).1
  obtain ⟨c, hc, hmember⟩ := List.mem_flatMap.1 hentry
  obtain ⟨hancestor, huniversal⟩ := List.mem_filter.1 hc
  obtain ⟨member, hmem, rfl⟩ := List.mem_map.1 hmember
  exact ⟨hancestor, by simpa using huniversal, hmem⟩

theorem exists_of_mem_ownMembers {classes : Classes} {c : ClassId} {member : Member}
    (h : member ∈ classes.ownMembers c) (hkind : ∀ v, member.kind ≠ .attribute v) :
    ∃ info, classes.find? c = some info ∧ member ∈ info.members := by
  unfold ownMembers at h
  split at h
  · next info hinfo => exact ⟨info, hinfo, h⟩
  · obtain ⟨v, hv⟩ := ClassId.kind_of_mem_builtinMembers h
    exact absurd hv (hkind v)

theorem exists_of_reader? {classes : Classes} {c : ClassId} {member : Member}
    (h : member ∈ classes.ownMembers c) (hreader : member.reader? ≠ none) :
    ∃ info, classes.find? c = some info ∧ member ∈ info.members :=
  exists_of_mem_ownMembers h fun v hv => hreader (by rw [Member.reader?, hv])

end Classes

/-- The property that a reader declares. -/
def DeclaredProperty.ofReader (walk : Instantiation) (c : ClassId) (name : String) (f : Function)
    (isAttribute : Bool) (hint : Function.ReturnHint) : DeclaredProperty where
  name := name
  type := (walk.resolve c hint.type).stripAnnotated.1
  declaration := f
  declaringClass := c
  isAttribute := isAttribute
  metadata := (walk.resolve c hint.type).stripAnnotated.2
  hint := hint

namespace Universe

variable {walk walk' : Instantiation} {Q : DeclaredProperty → DeclaredProperty → Prop}

/-- Two walks lead to related properties when they do so reader by reader. Whether a member is a reader
and whether its annotation has a value does not depend on the walk. -/
theorem declareAll_rel (u : Universe) {members : List (ClassId × Member)}
    (hQ : ∀ entry ∈ members, ∀ f isAttribute hint, entry.2.reader? = some (f, isAttribute) →
      u.returnHint f entry.1 = .ok hint →
      Q (.ofReader walk entry.1 entry.2.name f isAttribute hint)
        (.ofReader walk' entry.1 entry.2.name f isAttribute hint)) :
    Agree (List.Forall₂ Q) (u.declareAll walk members) (u.declareAll walk' members) := by
  induction members with
  | nil => exact .ok .nil
  | cons entry rest ih =>
      obtain ⟨hentry, hrest⟩ := List.forall_mem_cons.1 hQ
      obtain ⟨c, member⟩ := entry
      have hfirst : Agree (Option.Rel Q) (u.declare walk c member) (u.declare walk' c member) := by
        rw [declare, declare]
        cases hreader : member.reader? with
        | none => exact .ok .none
        | some reader =>
            obtain ⟨f, isAttribute⟩ := reader
            dsimp only
            cases hreturn : u.returnHint f c with
            | error e => exact .error rfl
            | ok hint => exact .ok (.some (hentry f isAttribute hint hreader hreturn))
      refine hfirst.bind fun first first' hfirst => ?_
      refine (ih hrest).bind fun others others' hothers => .ok (List.rel_append ?_ hothers)
      cases hfirst with
      | none => exact .nil
      | some hp => exact .cons hp .nil

theorem discover_rel_of_public (u : Universe) {a b definition : TypeExpr}
    (hQ : ∀ entry ∈ u.classes.publicMembers ((u.definitionAncestors? definition).getD []),
      ∀ f isAttribute hint, entry.2.reader? = some (f, isAttribute) → u.returnHint f entry.1 = .ok hint →
      Q (.ofReader (u.discoveryInstantiation a definition) entry.1 entry.2.name f isAttribute hint)
        (.ofReader (u.discoveryInstantiation b definition) entry.1 entry.2.name f isAttribute hint)) :
    Agree (List.Forall₂ Q) (u.discover a definition) (u.discover b definition) := by
  rw [discover, discover]
  split
  · cases hancestors : u.definitionAncestors? definition with
    | none => exact .error rfl
    | some ancestors =>
        rw [hancestors] at hQ
        exact u.declareAll_rel hQ
  · exact .error rfl

theorem discover_rel (u : Universe) {a b definition : TypeExpr}
    (hQ : ∀ c info, u.classes.find? c = some info → ∀ member ∈ info.members,
      ∀ f isAttribute hint, member.reader? = some (f, isAttribute) → u.returnHint f c = .ok hint →
      Q (.ofReader (u.discoveryInstantiation a definition) c member.name f isAttribute hint)
        (.ofReader (u.discoveryInstantiation b definition) c member.name f isAttribute hint)) :
    Agree (List.Forall₂ Q) (u.discover a definition) (u.discover b definition) := by
  apply u.discover_rel_of_public
  intro entry hentry f isAttribute hint hreader
  obtain ⟨-, -, hmember⟩ := Classes.mem_publicMembers hentry
  obtain ⟨info, hinfo, hmem⟩ := Classes.exists_of_reader? hmember (by simp [hreader])
  exact hQ entry.1 info hinfo entry.2 hmem f isAttribute hint hreader

end Universe

end RecordBinding
