import RecordBinding.Proofs.TypeExpr.Composition

namespace RecordBinding

theorem exists_of_mem_left {α β : Type*} {r : α → β → Prop} {as : List α} {bs : List β}
    (h : List.Forall₂ r as bs) {a : α} (ha : a ∈ as) : ∃ b ∈ bs, r a b := by
  induction h with
  | nil => cases ha
  | cons hab _ ih =>
      rcases List.mem_cons.1 ha with rfl | ha
      · exact ⟨_, List.mem_cons_self, hab⟩
      · obtain ⟨b, hb, hab⟩ := ih ha
        exact ⟨b, List.mem_cons_of_mem _ hb, hab⟩

namespace Substitution

variable {s : Substitution}

/-- Every type that is put in is formed, and no union without members. Null and texts may be put in,
too. -/
def PutsFormed (s : Substitution) : Prop :=
  ∀ entry ∈ s, entry.2.IsFormed ∧ entry.2.memberList ≠ []

/-- What is put in, as arguments of other types. -/
def asArguments (s : Substitution) : Substitution :=
  s.map fun entry => (entry.1, entry.2.asArgument)

theorem image_cons (v : TypeVar) (t : TypeExpr) (s : Substitution) (w : TypeVar) :
    image ((v, t) :: s) w = if v = w then t else s.image w := by
  by_cases hv : v = w <;> simp [image, image?, TypeVar.same, hv]

theorem PutsFormed.cons (v : TypeVar) {t : TypeExpr} (ht : t.IsFormed) (hsome : t.memberList ≠ [])
    (hs : s.PutsFormed) : PutsFormed ((v, t) :: s) :=
  List.forall_mem_cons.2 ⟨⟨ht, hsome⟩, hs⟩

theorem PutsFormed.image (hs : s.PutsFormed) (v : TypeVar) :
    (s.image v).IsFormed ∧ (s.image v).memberList ≠ [] := by
  rcases image_cases s v with ⟨entry, hentry, -, himage⟩ | ⟨-, himage⟩
  · rw [himage]
    exact hs entry hentry
  · rw [himage]
    exact ⟨.plain rfl, by simp [TypeExpr.memberList]⟩

theorem image_asArguments (s : Substitution) (v : TypeVar) :
    s.asArguments.image v = (s.image v).asArgument := by
  induction s with
  | nil => rfl
  | cons entry s ih =>
      obtain ⟨w, t⟩ := entry
      rw [asArguments, List.map_cons, image_cons, image_cons, ← asArguments, ih]
      split <;> rfl

theorem PutsFormed.asArguments (hs : s.PutsFormed) : s.asArguments.IsFormed :=
  List.forall_mem_map.2 fun entry hentry => (hs entry hentry).1.asArgument

end Substitution

namespace TypeExpr

variable {s r : Substitution} {t : TypeExpr}

/-- No variable of the type stands for the base of protocols. -/
def Admits (s : Substitution) (t : TypeExpr) : Prop :=
  ∀ v ∈ t.parameters, (s.image v).isProtocolBase = false

theorem substitute?_of_compound (hvar : ∀ v, t ≠ typeVar v) :
    t.substitute? s = if t.parameters.any fun v => (s.image v).isProtocolBase then .none
      else some (t.substitute s) := by
  cases t with
  | typeVar v => exact absurd rfl (hvar v)
  | _ => rfl

theorem substitute?_of_admits (h : t.Admits s) : t.substitute? s = some (t.substitute s) := by
  by_cases hvar : ∃ v, t = typeVar v
  · obtain ⟨v, rfl⟩ := hvar
    rfl
  · rw [substitute?_of_compound fun v hv => hvar ⟨v, hv⟩, if_neg]
    simpa [Admits] using h

theorem substitute?_eq_none (hvar : ∀ v, t ≠ typeVar v) (h : ¬ t.Admits s) : t.substitute? s = .none := by
  rw [substitute?_of_compound hvar, if_pos]
  simpa [Admits] using h

theorem admits_of_substitute? {x : TypeExpr} (hvar : ∀ v, t ≠ typeVar v) (h : t.substitute? s = some x) :
    t.Admits s := by
  by_contra hadmits
  rw [substitute?_eq_none hvar hadmits] at h
  cases h

theorem eq_substitute_of_substitute? {x : TypeExpr} (h : t.substitute? s = some x) :
    x = t.substitute s := by
  by_cases hvar : ∃ v, t = typeVar v
  · obtain ⟨v, rfl⟩ := hvar
    exact (Option.some.inj h).symm
  · rw [substitute?_of_admits (admits_of_substitute? (fun v hv => hvar ⟨v, hv⟩) h)] at h
    exact (Option.some.inj h).symm

theorem rebuild_asArguments (s : Substitution) (t : TypeExpr) : t.rebuild s.asArguments = t.rebuild s := by
  induction t using induct with
  | step t ih =>
      have hall : ∀ ts : List TypeExpr, (∀ p ∈ ts, p.rebuild s.asArguments = p.rebuild s) →
          rebuildAll s.asArguments ts = rebuildAll s ts := by
        intro ts hts
        rw [rebuildAll_eq_map, rebuildAll_eq_map, List.map_congr_left hts]
      cases t with
      | typeVar v => rw [rebuild, rebuild, Substitution.image_asArguments, asArgument_asArgument]
      | generic origin args => rw [rebuild, rebuild, hall args ih]
      | union style members => rw [rebuild, rebuild, hall members ih]
      | annotated inner metadata => rw [rebuild, rebuild, ih inner (by simp [parts])]
      | _ => rfl

theorem IsFormed.rebuild_of_puts (ht : t.IsFormed) (hs : s.PutsFormed) :
    (t.rebuild s).IsFormed ∧ (t.asArgument = t → (t.rebuild s).asArgument = t.rebuild s) := by
  rw [← rebuild_asArguments]
  exact ht.rebuild hs.asArguments

theorem IsFormed.substitute_of_compound (ht : t.IsFormed) (hvar : ∀ v, t ≠ typeVar v) :
    t.substitute s = t.rebuild s := by
  rw [TypeExpr.substitute_of_compound s hvar]
  split
  · next hfixes => exact (ht.rebuild_eq_self (List.all_eq_true.1 hfixes)).symm
  · rfl

theorem mem_parameters_of_same {a b : TypeExpr} (h : a.same b = true) {v : TypeVar}
    (hv : v ∈ a.parameters) : v ∈ b.parameters := by
  induction a using induct generalizing b with
  | step a ih =>
      have hform := (same_iff a b).1 h
      cases hform with
      | @generic origin as bs hargs =>
          rw [parameters, parametersOfAll_eq_flatMap] at hv ⊢
          obtain ⟨p, hp, hv⟩ := List.mem_flatMap.1 hv
          obtain ⟨q, hq, hpq⟩ := exists_of_mem_left hargs hp
          exact List.mem_flatMap.2 ⟨q, hq, ih p hp hpq hv⟩
      | @union style style' as bs hmembers =>
          rw [parameters, parametersOfAll_eq_flatMap] at hv ⊢
          obtain ⟨p, hp, hv⟩ := List.mem_flatMap.1 hv
          obtain ⟨q, hq, hpq⟩ := hmembers.1 p hp
          exact List.mem_flatMap.2 ⟨q, hq, ih p hp hpq hv⟩
      | @annotated inner inner' _ _ hinner hmetadata =>
          rw [parameters] at hv ⊢
          exact ih inner (by simp [parts]) hinner hv
      | typeVar w => exact hv
      | _ => cases hv

theorem exists_memberList_of_mem_parameters {v : TypeVar} (hv : v ∈ t.parameters) :
    ∃ m ∈ t.memberList, v ∈ m.parameters := by
  by_cases hunion : ∃ style members, t = .union style members
  · obtain ⟨style, members, rfl⟩ := hunion
    rw [parameters, parametersOfAll_eq_flatMap] at hv
    exact List.mem_flatMap.1 hv
  · rw [memberList_of_plain fun style members ht => hunion ⟨style, members, ht⟩]
    exact ⟨_, List.mem_singleton_self _, by rwa [parameters_asArgument]⟩

theorem parameters_unite_of_mem {style : UnionStyle} {ts : List TypeExpr} (ht : t ∈ ts) {v : TypeVar}
    (hv : v ∈ t.parameters) : v ∈ (unite style ts).parameters := by
  obtain ⟨m, hm, hv⟩ := exists_memberList_of_mem_parameters hv
  obtain ⟨d, hd, hmd⟩ := exists_withoutDuplicates (List.mem_flatMap.2 ⟨t, ht, hm⟩)
  have hv := mem_parameters_of_same hmd hv
  rw [unite]
  split
  · next other hother =>
      rw [hother] at hd
      rwa [← List.mem_singleton.1 hd]
  · rw [parameters, parametersOfAll_eq_flatMap]
    exact List.mem_flatMap.2 ⟨d, hd, hv⟩

theorem parameters_rebuild_of_image {v w : TypeVar} (hw : w ∈ t.parameters)
    (hv : v ∈ (s.image w).parameters) : v ∈ (t.rebuild s).parameters := by
  induction t using induct with
  | step t ih =>
      cases t with
      | typeVar x =>
          obtain rfl := List.mem_singleton.1 hw
          rwa [rebuild, parameters_asArgument]
      | generic origin args =>
          simp only [parameters, rebuild, rebuildAll_eq_map, parametersOfAll_eq_flatMap, List.mem_flatMap,
            List.mem_map] at hw ⊢
          obtain ⟨a, ha, hw⟩ := hw
          exact ⟨_, ⟨a, ha, rfl⟩, ih a ha hw⟩
      | union style members =>
          rw [parameters, parametersOfAll_eq_flatMap] at hw
          obtain ⟨m, hm, hw⟩ := List.mem_flatMap.1 hw
          rw [rebuild, rebuildAll_eq_map]
          exact parameters_unite_of_mem (List.mem_map_of_mem hm) (ih m hm hw)
      | annotated inner metadata =>
          rw [rebuild, parameters_annotate]
          exact ih inner (by simp [parts]) hw
      | _ => cases hw

theorem IsFormed.asArgument_of_memberList {c : TypeExpr} (ht : t.IsFormed) (hsome : t.memberList ≠ [])
    (h : ∀ m ∈ t.memberList, m = c) : t.asArgument = c := by
  by_cases hunion : ∃ style members, t = .union style members
  · obtain ⟨style, members, rfl⟩ := hunion
    cases ht with
    | plain hplain => cases hplain
    | union style hmembers hflat hdistinct hmany =>
        match members with
        | [] => exact absurd rfl hsome
        | [m] => exact absurd rfl (hmany m)
        | m :: n :: rest =>
            -- Two members that are one type are not distinct.
            have hm := h m (by simp [TypeExpr.memberList])
            have hn := h n (by simp [TypeExpr.memberList])
            have hne := (List.pairwise_cons.1 hdistinct).1 n (by simp)
            rw [hm, hn] at hne
            exact absurd (same_refl c) hne
  · rw [memberList_of_plain fun style members ht => hunion ⟨style, members, ht⟩] at h
    exact h _ (List.mem_singleton_self _)

theorem memberList_annotate_ne_nil (t : TypeExpr) (metadata : List Scalar) :
    (t.annotate metadata).memberList ≠ [] := by
  cases t <;> simp [annotate, memberList]

theorem ne_union_of_memberList (h : t.memberList = [t]) (style : UnionStyle) (members : List TypeExpr) :
    t ≠ .union style members := by
  rintro rfl
  have hsize := congrArg sizeOf h
  simp [memberList] at hsize
  omega

theorem memberList_rebuild_ne_nil (hs : s.PutsFormed) (ht : t.memberList = [t]) :
    (t.rebuild s).memberList ≠ [] := by
  cases t with
  | typeVar v =>
      rw [rebuild, memberList_asArgument]
      exact (hs.image v).2
  | union style members => exact absurd rfl (ne_union_of_memberList ht style members)
  | annotated inner metadata => exact memberList_annotate_ne_nil _ metadata
  | _ => simp [rebuild, memberList]

theorem IsFormed.rebuild_members {style : UnionStyle} {members : List TypeExpr} {c : TypeExpr}
    (ht : (TypeExpr.union style members).IsFormed) (hs : s.PutsFormed)
    (hc : c.memberList = [c]) (hequal : ∀ x : TypeExpr, x.same c = true → x = c)
    (h : (TypeExpr.union style members).rebuild s = c) :
    members ≠ [] ∧ ∀ m ∈ members, (m.rebuild s).asArgument = c := by
  cases ht with
  | plain hplain => cases hplain
  | union style hmembers hflat hdistinct hmany =>
      rw [TypeExpr.rebuild, rebuildAll_eq_map] at h
      have hrebuilt : ∀ m ∈ members, (m.rebuild s).IsFormed := fun m hm =>
        ((hmembers m hm).rebuild_of_puts hs).1
      have hunite := sameTypes_memberList_unite style (List.forall_mem_map.2 hrebuilt)
      rw [h, hc] at hunite
      constructor
      · rintro rfl
        obtain ⟨x, hx, -⟩ := hunite.1 c (List.mem_singleton_self c)
        cases hx
      · intro m hm
        refine (hrebuilt m hm).asArgument_of_memberList ?_ fun x hx => ?_
        · exact memberList_rebuild_ne_nil hs (hflat m hm)
        · obtain ⟨y, hy, hsame⟩ := hunite.2 x (List.mem_flatMap.2 ⟨_, List.mem_map_of_mem hm, hx⟩)
          rw [List.mem_singleton.1 hy] at hsame
          exact hequal x (same_symm hsame)

theorem IsFormed.admits_substitute (ht : t.IsFormed) (hvar : ∀ v, t ≠ typeVar v) :
    (t.substitute s).Admits r ↔ ∀ v ∈ t.parameters, (s.image v).Admits r := by
  rw [ht.substitute_of_compound hvar]
  constructor
  · exact fun h v hv w hw => h w (parameters_rebuild_of_image hv hw)
  · intro h w hw
    obtain ⟨v, hv, hw⟩ := mem_parameters_rebuild hw
    exact h v hv w hw

theorem isProtocolBase_iff : t.isProtocolBase = true ↔ t = cls .protocol := by
  cases t <;> simp [isProtocolBase]

theorem isProtocolBase_asArgument (t : TypeExpr) : t.asArgument.isProtocolBase = t.isProtocolBase := by
  cases t <;> rfl

theorem isProtocolBase_annotate (t : TypeExpr) (metadata : List Scalar) :
    (t.annotate metadata).isProtocolBase = false := by
  cases t <;> rfl

theorem eq_cls_of_same {c : ClassId} {x : TypeExpr} (h : x.same (cls c) = true) : x = cls c := by
  have hform := (same_iff x (cls c)).1 h
  cases hform
  rfl

theorem IsFormed.isProtocolBase_rebuild (ht : t.IsFormed) (hs : s.PutsFormed)
    (hbase : t.isProtocolBase = false) (hadmits : t.Admits s) :
    (t.rebuild s).isProtocolBase = false := by
  induction ht with
  | @plain t hplain =>
      cases t with
      | typeVar v =>
          rw [TypeExpr.rebuild, isProtocolBase_asArgument]
          exact hadmits v (List.mem_singleton_self v)
      | generic origin args => cases hplain
      | union style members => cases hplain
      | annotated inner metadata => cases hplain
      | _ => exact hbase
  | generic origin hargs hdeclared => rfl
  | @union style members hmembers hflat hdistinct hmany ih =>
      have hformed : (TypeExpr.union style members).IsFormed := .union style hmembers hflat hdistinct hmany
      by_contra hleft
      rw [Bool.not_eq_false, isProtocolBase_iff] at hleft
      obtain ⟨hsome, hrebuilt⟩ := hformed.rebuild_members hs rfl (fun _ => eq_cls_of_same) hleft
      have hall : ∀ m ∈ members, m = cls .protocol := by
        intro m hm
        have hmadmits : m.Admits s := by
          refine fun v hv => hadmits v ?_
          rw [parameters, parametersOfAll_eq_flatMap]
          exact List.mem_flatMap.2 ⟨m, hm, hv⟩
        by_contra hne
        have hrest := ih m hm (by rwa [← Bool.not_eq_true, isProtocolBase_iff]) hmadmits
        rw [← isProtocolBase_asArgument, hrebuilt m hm] at hrest
        cases hrest
      cases hformed.asArgument_of_memberList hsome hall
  | annotated metadata hinner hargument hplain => exact isProtocolBase_annotate _ metadata

theorem IsFormed.isProtocolBase_of_substitute? {x : TypeExpr} (ht : t.IsFormed) (hs : s.PutsFormed)
    (h : t.substitute? s = some x) :
    x.isProtocolBase = false ↔ t.isProtocolBase = false ∧ t.Admits s := by
  by_cases hvar : ∃ v, t = typeVar v
  · obtain ⟨v, rfl⟩ := hvar
    cases h
    simp [Admits, parameters, isProtocolBase]
  · have hcompound : ∀ v, t ≠ typeVar v := fun v hv => hvar ⟨v, hv⟩
    have hadmits := admits_of_substitute? hcompound h
    rw [eq_substitute_of_substitute? h, ht.substitute_of_compound hcompound]
    refine ⟨fun hx => ⟨?_, hadmits⟩, fun hbase => ht.isProtocolBase_rebuild hs hbase.1 hadmits⟩
    by_contra hbase
    rw [Bool.not_eq_false, isProtocolBase_iff] at hbase
    rw [hbase] at hx
    cases hx

end TypeExpr

end RecordBinding
