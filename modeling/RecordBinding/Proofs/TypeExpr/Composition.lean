import RecordBinding.Proofs.TypeExpr.Formed

namespace RecordBinding

theorem SameMembers.flatMap {α β : Type*} {r : α → α → Prop} {r' : β → β → Prop} {as bs : List α}
    {f g : α → List β} (h : SameMembers r as bs)
    (hfg : ∀ a ∈ as, ∀ b ∈ bs, r a b → SameMembers r' (f a) (g b)) :
    SameMembers r' (as.flatMap f) (bs.flatMap g) := by
  simp only [SameMembers, List.mem_flatMap]
  constructor
  · rintro x ⟨a, ha, hx⟩
    obtain ⟨b, hb, hab⟩ := h.1 a ha
    obtain ⟨y, hy, hxy⟩ := (hfg a ha b hb hab).1 x hx
    exact ⟨y, ⟨b, hb, hy⟩, hxy⟩
  · rintro y ⟨b, hb, hy⟩
    obtain ⟨a, ha, hab⟩ := h.2 b hb
    obtain ⟨x, hx, hxy⟩ := (hfg a ha b hb hab).2 y hy
    exact ⟨x, ⟨a, ha, hx⟩, hxy⟩

namespace TypeExpr

variable {s r : Substitution}

theorem annotate_annotate (t : TypeExpr) (first second : List Scalar) :
    (t.annotate first).annotate second = t.annotate (first ++ second) := by
  cases t <;> simp [annotate]

theorem rebuild_annotate (r : Substitution) (t : TypeExpr) (metadata : List Scalar) :
    rebuild r (t.annotate metadata) = (rebuild r t).annotate metadata := by
  cases t with
  | annotated inner first => rw [annotate, rebuild, rebuild, annotate_annotate]
  | _ => rfl

theorem SameTypes.refl (ts : List TypeExpr) : SameTypes ts ts :=
  SameMembers.refl fun t _ => same_refl t

theorem rebuild_same (r : Substitution) {a b : TypeExpr} (h : a.same b = true) :
    (rebuild r a).same (rebuild r b) = true := by
  induction a using induct generalizing b with
  | step a ih =>
      have hform := (same_iff a b).1 h
      cases hform with
      | generic origin hargs =>
          simp only [rebuild, rebuildAll_eq_map]
          refine (same_iff _ _).2 (.generic origin ?_)
          simp only [List.forall₂_map_left_iff, List.forall₂_map_right_iff]
          refine ((List.forall₂_and_left _ _).2 ⟨ih, hargs⟩).imp ?_
          rintro a b ⟨ha, hab⟩
          exact ha hab
      | union style style' hmembers =>
          simp only [rebuild, rebuildAll_eq_map]
          apply unite_congr_of_members
          simp only [List.flatMap_map]
          exact hmembers.flatMap fun a ha b _ hab => memberList_congr (ih a ha hab)
      | annotated hinner hmetadata => exact annotate_congr (ih _ (by simp [parts]) hinner) hmetadata
      | typeVar v => exact same_refl _
      | _ => exact h

theorem sameTypes_memberList_unite (style : UnionStyle) {ts : List TypeExpr}
    (h : ∀ t ∈ ts, t.IsFormed) : SameTypes (unite style ts).memberList (ts.flatMap memberList) := by
  have hflat : ∀ m ∈ withoutDuplicates (ts.flatMap memberList), m.memberList = [m] := by
    intro m hm
    obtain ⟨t, ht, hm⟩ := List.mem_flatMap.1 (mem_of_mem_withoutDuplicates hm)
    exact ((h t ht).memberList hm).2
  have hmembers := (sameTypes_withoutDuplicates (ts.flatMap memberList)).symm
  rw [unite]
  generalize withoutDuplicates (ts.flatMap memberList) = members at *
  split
  · next t => rwa [hflat t (by simp)]
  · exact hmembers

theorem memberList_rebuild_asArgument (r : Substitution) (t : TypeExpr) :
    (rebuild r t.asArgument).memberList = (rebuild r t).memberList := by
  cases t <;> rfl

theorem sameTypes_memberList_rebuild {t : TypeExpr} (ht : t.IsFormed) (hr : r.IsFormed) :
    SameTypes (rebuild r t).memberList
      (t.memberList.flatMap fun m => (rebuild r m).memberList) := by
  by_cases hunion : ∃ style members, t = .union style members
  · obtain ⟨style, members, rfl⟩ := hunion
    cases ht with
    | plain h => cases h
    | union style hmembers =>
        have hrebuilt : ∀ m ∈ members.map (rebuild r), m.IsFormed :=
          List.forall_mem_map.2 fun m hm => ((hmembers m hm).rebuild hr).1
        have hunite := sameTypes_memberList_unite style hrebuilt
        rw [List.flatMap_map] at hunite
        rw [rebuild, rebuildAll_eq_map]
        exact hunite
  · rw [memberList_of_plain fun style members ht => hunion ⟨style, members, ht⟩,
      List.flatMap_singleton, memberList_rebuild_asArgument]
    exact .refl _

theorem same_unite_singleton (style : UnionStyle) {t : TypeExpr} (ht : t.IsArgument) :
    t.same (unite style [t]) = true := by
  by_cases hunion : ∃ style' members, t = .union style' members
  · obtain ⟨style', members, rfl⟩ := hunion
    rw [← unite_of_formed ht.formed]
    apply unite_congr_of_members
    rw [unite_of_formed ht.formed, List.flatMap_singleton]
    cases ht.formed with
    | plain h => cases h
    | union _ hmembers hflat =>
        rw [flatMap_memberList_of_flat hflat]
        exact .refl members
  · have hplain := memberList_of_plain fun style members ht => hunion ⟨style, members, ht⟩
    rw [unite, List.flatMap_singleton, hplain, ht.fixed]
    exact same_refl t

theorem rebuild_unite (style : UnionStyle) {ts : List TypeExpr} (hts : ∀ t ∈ ts, t.IsFormed)
    (hr : r.IsFormed) :
    (rebuild r (unite style ts)).same (unite style (ts.map (rebuild r))) = true := by
  have hunite := isArgument_unite style hts
  have hargument : (rebuild r (unite style ts)).IsArgument :=
    ⟨(hunite.formed.rebuild hr).1, (hunite.formed.rebuild hr).2 hunite.fixed⟩
  refine same_trans (same_unite_singleton style hargument) (unite_congr_of_members style style ?_)
  rw [List.flatMap_singleton, List.flatMap_map]
  have hsame : ∀ a b : TypeExpr, a.same b = true →
      SameTypes (rebuild r a).memberList (rebuild r b).memberList :=
    fun a b hab => memberList_congr (rebuild_same r hab)
  refine SameTypes.trans (sameTypes_memberList_rebuild hunite.formed hr) ?_
  refine SameTypes.trans
    ((sameTypes_memberList_unite style hts).flatMap fun a _ b _ => hsame a b) ?_
  rw [List.flatMap_assoc]
  refine SameMembers.flatMap (r := Eq) (.refl fun _ _ => rfl) ?_
  rintro t ht _ _ rfl
  exact (sameTypes_memberList_rebuild (hts t ht) hr).symm

/-- Forming a type anew twice is forming it anew with the composed substitution. -/
theorem rebuild_rebuild {t : TypeExpr} {u : Substitution} (ht : t.IsFormed) (hs : s.IsFormed)
    (hr : r.IsFormed)
    (h : ∀ v ∈ t.parameters, (u.image v).same ((s.image v).rebuild r) = true) :
    (t.rebuild u).same ((t.rebuild s).rebuild r) = true := by
  have hall : ∀ ts : List TypeExpr,
      (∀ p ∈ ts, (∀ v ∈ p.parameters, (u.image v).same ((s.image v).rebuild r) = true) →
        (p.rebuild u).same ((p.rebuild s).rebuild r) = true) →
      (∀ v ∈ parametersOfAll ts, (u.image v).same ((s.image v).rebuild r) = true) →
      List.Forall₂ (fun a b => a.same b = true) (ts.map (rebuild u))
        ((ts.map (rebuild s)).map (rebuild r)) := by
    intro ts hts hvars
    simp only [parametersOfAll_eq_flatMap, List.mem_flatMap] at hvars
    simp only [List.map_map, List.forall₂_map_left_iff, List.forall₂_map_right_iff,
      List.forall₂_same]
    exact fun p hp => hts p hp fun v hv => hvars v ⟨p, hp, hv⟩
  induction ht with
  | @plain t hplain =>
      cases t with
      | typeVar v =>
          have hargument := hs.image v
          have himage := asArgument_congr (h v (by simp [parameters]))
          rw [(hargument.formed.rebuild hr).2 hargument.fixed] at himage
          rwa [rebuild, rebuild, hargument.fixed]
      | generic origin args => cases hplain
      | union style members => cases hplain
      | annotated inner metadata => cases hplain
      | _ => exact same_refl _
  | @generic origin args hargs hdeclared ih =>
      simp only [rebuild, rebuildAll_eq_map]
      exact (same_iff _ _).2 (.generic origin (hall args ih h))
  | @union style members hmembers hflat hdistinct hmany ih =>
      simp only [rebuild, rebuildAll_eq_map]
      refine same_trans (unite_congr style (hall members ih h)) (same_symm (rebuild_unite style ?_ hr))
      exact List.forall_mem_map.2 fun m hm => ((hmembers m hm).rebuild hs).1
  | annotated metadata hinner hargument hplain ih =>
      rw [rebuild, rebuild, rebuild_annotate]
      exact annotate_congr (ih h) ((Scalar.sameList_iff _ _).2 rfl)

/-- Substitution composes: what the outer one makes of the images of the inner one is what both
together make of the type. -/
theorem substitute_substitute {t : TypeExpr} {u : Substitution} (ht : t.IsFormed) (hs : s.IsFormed)
    (hr : r.IsFormed) (hu : u.IsFormed)
    (h : ∀ v ∈ t.parameters, (u.image v).same ((s.image v).substitute r) = true) :
    (t.substitute u).same ((t.substitute s).substitute r) = true := by
  rw [(ht.substitute hs).substitute_eq_rebuild hr, ht.substitute_eq_rebuild hs,
    ht.substitute_eq_rebuild hu]
  refine rebuild_rebuild ht hs hr fun v hv => ?_
  rw [← (hs.image v).formed.substitute_eq_rebuild hr]
  exact h v hv

theorem substitute_eq_self {t : TypeExpr} (h : ∀ v ∈ t.parameters, r.image v = .typeVar v) :
    t.substitute r = t := by
  by_cases hvar : ∃ v, t = .typeVar v
  · obtain ⟨v, rfl⟩ := hvar
    exact h v (List.mem_singleton_self v)
  · rw [substitute_of_compound r fun v ht => hvar ⟨v, ht⟩, if_pos]
    refine List.all_eq_true.2 fun v hv => ?_
    rw [Substitution.fixes, h v hv]
    exact same_refl _

theorem substitute_congr_of_parameters {t : TypeExpr} (ht : t.IsFormed) (hs : s.IsFormed)
    (hr : r.IsFormed) (h : ∀ v ∈ t.parameters, (s.image v).same (r.image v) = true) :
    (t.substitute s).same (t.substitute r) = true := by
  have hnil : ∀ t : TypeExpr, t.substitute [] = t := fun t => substitute_eq_self fun _ _ => rfl
  have hempty : Substitution.IsFormed [] := by simp [Substitution.IsFormed]
  have hcomposed := substitute_substitute ht hr hempty hs fun v hv => by
    rw [hnil]
    exact h v hv
  rwa [hnil] at hcomposed

end TypeExpr

end RecordBinding
