import Mathlib.Data.List.Pairwise
import RecordBinding.Proofs.TypeExpr.Composition

namespace RecordBinding.TypeExpr

mutual

/-- The classes that are named in a type. -/
def named : TypeExpr → List ClassId
  | cls c => [c]
  | typeVar v => [v.bound]
  | newtype _ base => named base
  | .alias _ target => named target
  | generic origin args => origin :: namedByAll args
  | union _ members => namedByAll members
  | annotated inner _ => named inner
  | _ => []

def namedByAll : List TypeExpr → List ClassId
  | [] => []
  | t :: ts => named t ++ namedByAll ts

end

theorem namedByAll_eq_flatMap (ts : List TypeExpr) : namedByAll ts = ts.flatMap named := by
  induction ts with
  | nil => rfl
  | cons t ts ih => rw [namedByAll, ih, List.flatMap_cons]

theorem erase_cases (t : TypeExpr) :
    t.erase = .object ∨ t.erase = .noneType ∨ t.erase ∈ t.named := by
  induction t using induct with
  | step t ih =>
      cases t with
      | none => exact .inr (.inl rfl)
      | cls c =>
          rw [erase, named]
          split
          · exact .inl rfl
          · exact .inr (.inr (List.mem_singleton_self c))
      | typeVar v => exact .inr (.inr (List.mem_singleton_self v.bound))
      | generic origin args => exact .inr (.inr List.mem_cons_self)
      | newtype name base => exact ih base (by simp [parts])
      | «alias» name target => exact ih target (by simp [parts])
      | annotated inner metadata => exact ih inner (by simp [parts])
      | union style members =>
          by_cases hsingle : ∃ m, present members = [m]
          · obtain ⟨m, hm⟩ := hsingle
            have hmem : m ∈ members := (mem_of_mem_present (hm ▸ List.mem_singleton_self m)).1
            rw [erase_union_of_single hm, named, namedByAll_eq_flatMap]
            exact (ih m hmem).imp_right fun h =>
              h.imp_right fun hnamed => List.mem_flatMap.2 ⟨m, hmem, hnamed⟩
          · exact .inl (erase_union_of_many fun m hm => hsingle ⟨m, hm⟩)
      | _ => exact .inl rfl

theorem bound_mem_named {t : TypeExpr} {v : TypeVar} (h : v ∈ t.parameters) : v.bound ∈ t.named := by
  have hparts : ∀ ts : List TypeExpr, (∀ p ∈ ts, v ∈ p.parameters → v.bound ∈ p.named) →
      v ∈ parametersOfAll ts → v.bound ∈ namedByAll ts := by
    intro ts hts hv
    rw [parametersOfAll_eq_flatMap] at hv
    rw [namedByAll_eq_flatMap]
    obtain ⟨p, hp, hv⟩ := List.mem_flatMap.1 hv
    exact List.mem_flatMap.2 ⟨p, hp, hts p hp hv⟩
  induction t using induct with
  | step t ih =>
      cases t with
      | typeVar w =>
          obtain rfl := List.mem_singleton.1 h
          exact List.mem_singleton_self v.bound
      | generic origin args => exact List.mem_cons_of_mem _ (hparts args ih h)
      | union style members => exact hparts members ih h
      | annotated inner metadata => exact ih inner (by simp [parts]) h
      | _ => cases h

theorem named_asArgument {t : TypeExpr} {c : ClassId} (h : c ∈ t.asArgument.named) :
    c ∈ t.named ∨ c = .noneType := by
  cases t with
  | none => exact .inr (List.mem_singleton.1 h)
  | unresolved source => cases h
  | _ => exact .inl h

theorem named_of_memberList {t m : TypeExpr} {c : ClassId} (hm : m ∈ t.memberList)
    (hc : c ∈ m.named) : c ∈ t.named ∨ c = .noneType := by
  cases t with
  | union style members =>
      rw [named, namedByAll_eq_flatMap]
      exact .inl (List.mem_flatMap.2 ⟨m, hm, hc⟩)
  | _ =>
      obtain rfl := List.mem_singleton.1 hm
      exact named_asArgument hc

theorem named_unite {style : UnionStyle} {ts : List TypeExpr} {c : ClassId}
    (h : c ∈ (unite style ts).named) : (∃ t ∈ ts, c ∈ t.named) ∨ c = .noneType := by
  have hmember : ∀ m ∈ withoutDuplicates (ts.flatMap memberList), c ∈ m.named →
      (∃ t ∈ ts, c ∈ t.named) ∨ c = .noneType := by
    intro m hm hc
    obtain ⟨t, ht, hm⟩ := List.mem_flatMap.1 (mem_of_mem_withoutDuplicates hm)
    exact (named_of_memberList hm hc).imp_left fun hc => ⟨t, ht, hc⟩
  rw [unite] at h
  split at h
  · next t ht => exact hmember t (by simp [ht]) h
  · rw [named, namedByAll_eq_flatMap] at h
    obtain ⟨m, hm, hc⟩ := List.mem_flatMap.1 h
    exact hmember m hm hc

theorem named_annotate {t : TypeExpr} {metadata : List Scalar} {c : ClassId}
    (h : c ∈ (t.annotate metadata).named) : c ∈ t.named ∨ c = .noneType := by
  cases t with
  | annotated inner first => exact .inl h
  | none => exact .inr (List.mem_singleton.1 h)
  | unresolved source => cases h
  | _ => exact .inl h

theorem named_rebuild {r : Substitution} {t : TypeExpr} {c : ClassId}
    (h : c ∈ (t.rebuild r).named) :
    c ∈ t.named ∨ c = .noneType ∨ ∃ v ∈ t.parameters, c ∈ (r.image v).named := by
  induction t using induct with
  | step t ih =>
      cases t with
      | typeVar v =>
          rcases named_asArgument h with h | h
          · exact .inr (.inr ⟨v, by simp [parameters], h⟩)
          · exact .inr (.inl h)
      | generic origin args =>
          simp only [rebuild, rebuildAll_eq_map, named, namedByAll_eq_flatMap, parameters,
            parametersOfAll_eq_flatMap, List.mem_cons, List.mem_flatMap] at h ⊢
          rcases h with h | ⟨_, hrebuilt, hc⟩
          · exact .inl (.inl h)
          · obtain ⟨a, ha, rfl⟩ := List.mem_map.1 hrebuilt
            rcases ih a ha hc with hc | hc | ⟨v, hv, hc⟩
            · exact .inl (.inr ⟨a, ha, hc⟩)
            · exact .inr (.inl hc)
            · exact .inr (.inr ⟨v, ⟨a, ha, hv⟩, hc⟩)
      | union style members =>
          rw [rebuild, rebuildAll_eq_map] at h
          rcases named_unite h with ⟨_, hrebuilt, hc⟩ | h
          · obtain ⟨m, hm, rfl⟩ := List.mem_map.1 hrebuilt
            simp only [named, namedByAll_eq_flatMap, parameters, parametersOfAll_eq_flatMap,
              List.mem_flatMap]
            rcases ih m hm hc with hc | hc | ⟨v, hv, hc⟩
            · exact .inl ⟨m, hm, hc⟩
            · exact .inr (.inl hc)
            · exact .inr (.inr ⟨v, ⟨m, hm, hv⟩, hc⟩)
          · exact .inr (.inl h)
      | annotated inner metadata =>
          rcases named_annotate h with h | h
          · exact ih inner (by simp [parts]) h
          · exact .inr (.inl h)
      | _ => exact .inl h

theorem erase_of_present_memberList {t q : TypeExpr} (h : present t.memberList = [q]) :
    t.erase = q.erase := by
  have hplain : present [t.asArgument] = [q] → t.erase = q.erase := by
    intro h
    obtain rfl := List.mem_singleton.1 (mem_of_mem_present (h ▸ List.mem_singleton_self q)).1
    exact (erase_asArgument t).symm
  cases t with
  | union style members => exact erase_union_of_single h
  | _ => exact hplain h

theorem present_singleton {t : TypeExpr} (h : t.isNoneType = false) : present [t] = [t] := by
  simp [present, h]

theorem present_memberList_of_erase_ne {t : TypeExpr} (h : t.erase ≠ .object) :
    (∃ q, present t.memberList = [q]) ∨ t.asArgument = noneType := by
  by_cases hunion : ∃ style members, t = .union style members
  · obtain ⟨style, members, rfl⟩ := hunion
    by_contra hmany
    exact h (erase_union_of_many fun q hq => hmany (.inl ⟨q, hq⟩))
  · rw [memberList_of_plain fun style members ht => hunion ⟨style, members, ht⟩]
    cases hnone : t.asArgument.isNoneType with
    | false => exact .inl ⟨_, present_singleton hnone⟩
    | true =>
        refine .inr ?_
        cases htarget : t.asArgument with
        | cls c =>
            rw [htarget] at hnone
            rw [noneType, of_decide_eq_true hnone]
        | _ =>
            rw [htarget] at hnone
            cases hnone

theorem sameTypes_present_flatMap {ts : List TypeExpr} {x : TypeExpr} (hx : x ∈ ts)
    (hrest : ∀ t ∈ ts, t ≠ x → t = noneType) :
    SameTypes (present x.memberList) (present (ts.flatMap memberList)) := by
  apply sameTypes_present
  · exact fun m hm _ => ⟨m, List.mem_flatMap.2 ⟨x, hx, hm⟩, same_refl m⟩
  · intro m hm hcounts
    obtain ⟨t, ht, hm⟩ := List.mem_flatMap.1 hm
    by_cases htx : t = x
    · exact ⟨m, htx ▸ hm, same_refl m⟩
    · obtain rfl := hrest t ht htx
      obtain rfl := List.mem_singleton.1 hm
      cases hcounts

theorem erase_of_sameTypes_noneType {t : TypeExpr} (ht : t.IsArgument)
    (h : SameTypes [noneType] t.memberList) : t.erase = .noneType := by
  have herase : t.same noneType = true → t.erase = .noneType := erase_congr
  by_cases hunion : ∃ style members, t = .union style members
  · obtain ⟨style, members, rfl⟩ := hunion
    cases ht.formed with
    | plain h => cases h
    | union style hmembers hflat hdistinct hmany =>
        obtain ⟨m, hm, -⟩ := eq_singleton_of_sameTypes hdistinct h
        exact absurd hm (hmany m)
  · rw [memberList_of_plain fun style members ht => hunion ⟨style, members, ht⟩, ht.fixed] at h
    obtain ⟨m, hm, hsame⟩ := h.1 noneType (List.mem_singleton_self _)
    obtain rfl := List.mem_singleton.1 hm
    exact herase (same_symm hsame)

theorem erase_unite {style : UnionStyle} {ts : List TypeExpr} {x : TypeExpr}
    (hts : ∀ t ∈ ts, t.IsFormed) (hx : x ∈ ts) (hrest : ∀ t ∈ ts, t ≠ x → t = noneType)
    (herase : x.erase ≠ .object) : (unite style ts).erase = x.erase := by
  have hmembers := (sameTypes_memberList_unite style hts).symm
  rcases present_memberList_of_erase_ne herase with ⟨q, hq⟩ | hnone
  · have hcount := (sameTypes_present_flatMap hx hrest).trans hmembers.present
    rw [hq] at hcount
    obtain ⟨q', hq', hsame⟩ := eq_singleton_of_sameTypes (distinct_present _) hcount
    rw [erase_of_present_memberList hq', erase_of_present_memberList hq, erase_congr hsame]
  · have hlist : ∀ t ∈ ts, t.memberList = [noneType] := by
      intro t ht
      by_cases htx : t = x
      · subst htx
        rw [← memberList_asArgument, hnone]
        rfl
      · rw [hrest t ht htx]
        rfl
    have hall : SameTypes [noneType] (ts.flatMap memberList) := by
      refine ⟨fun t ht => ⟨t, ?_, same_refl t⟩, fun m hm => ⟨m, ?_, same_refl m⟩⟩
      · exact List.mem_flatMap.2 ⟨x, hx, hlist x hx ▸ ht⟩
      · obtain ⟨t, ht, hm⟩ := List.mem_flatMap.1 hm
        exact hlist t ht ▸ hm
    have hxnone : x.erase = .noneType := by
      rw [← erase_asArgument, hnone]
      rfl
    rw [erase_of_sameTypes_noneType (isArgument_unite style hts) (hall.trans hmembers), hxnone]

theorem eq_noneType_of_present {style : UnionStyle} {members : List TypeExpr} {p m : TypeExpr}
    (h : (TypeExpr.union style members).IsFormed) (hp : present members = [p]) (hm : m ∈ members)
    (hne : m ≠ p) : m = noneType := by
  cases hnone : m.isNoneType with
  | true =>
      cases m with
      | cls c => rw [noneType, of_decide_eq_true hnone]
      | _ => cases hnone
  | false =>
      obtain ⟨p', hp', hsame⟩ := exists_present hm hnone
      rw [hp] at hp'
      obtain rfl := List.mem_singleton.1 hp'
      have hpm : p' ∈ members := (mem_of_mem_present (hp ▸ List.mem_singleton_self p')).1
      cases h with
      | plain h => cases h
      | union style hmembers hflat hdistinct hmany =>
          have : Std.Symm fun a b : TypeExpr => ¬ a.same b = true :=
            ⟨fun _ _ h h' => h (same_symm h')⟩
          exact absurd hsame (hdistinct.forall hm hpm hne)

section

variable {le : ClassId → ClassId → Prop} {r : Substitution}

/-- Forming a type anew leads down to a class below the one that it erases to, when what stands for a type
variable erases to a class below its bound. A union is the only type that may change its class: it erases
to the root class, or one of its members counts. -/
theorem erase_rebuild_le (hrefl : ∀ c, le c c) (htrans : ∀ {a b c}, le a b → le b c → le a c)
    (hnone : le .noneType .object) (hr : r.IsFormed) {t : TypeExpr} (ht : t.IsFormed)
    (hroot : ∀ c ∈ t.named, le c .object)
    (hbound : ∀ v ∈ t.parameters, le (r.image v).erase v.bound)
    (himage : ∀ v ∈ t.parameters, ∀ c ∈ (r.image v).named, le c .object) :
    le (t.rebuild r).erase t.erase := by
  induction ht with
  | @plain t hplain =>
      cases t with
      | typeVar v =>
          rw [rebuild, erase_asArgument]
          exact hbound v (by simp [parameters])
      | generic origin args => cases hplain
      | union style members => cases hplain
      | annotated inner metadata => cases hplain
      | _ => exact hrefl _
  | generic origin hargs hdeclared ih => exact hrefl origin
  | annotated metadata hinner hargument hplain ih =>
      rw [rebuild, erase_annotate]
      exact ih hroot hbound himage
  | @union style members hmembers hflat hdistinct hmany ih =>
      have hobject : le ((TypeExpr.union style members).rebuild r).erase .object := by
        rcases erase_cases ((TypeExpr.union style members).rebuild r) with h | h | h
        · exact h ▸ hrefl _
        · exact h ▸ hnone
        · rcases named_rebuild h with h | h | ⟨v, hv, h⟩
          · exact hroot _ h
          · exact h ▸ hnone
          · exact himage v hv _ h
      by_cases hsingle : ∃ p, present members = [p]
      · -- the one member that counts decides, before and after, unless it is lost in the root class
        obtain ⟨p, hp⟩ := hsingle
        have hmem : p ∈ members := (mem_of_mem_present (hp ▸ List.mem_singleton_self p)).1
        simp only [named, namedByAll_eq_flatMap, parameters, parametersOfAll_eq_flatMap,
          List.mem_flatMap] at hroot hbound himage
        have hmember := ih p hmem (fun c hc => hroot c ⟨p, hmem, hc⟩)
          (fun v hv => hbound v ⟨p, hmem, hv⟩) fun v hv => himage v ⟨p, hmem, hv⟩
        rw [erase_union_of_single hp]
        by_cases herase : (p.rebuild r).erase = .object
        · exact htrans hobject (herase ▸ hmember)
        · have hformed : ∀ t ∈ members.map (rebuild r), t.IsFormed :=
            List.forall_mem_map.2 fun m hm => ((hmembers m hm).rebuild hr).1
          have hrest : ∀ t ∈ members.map (rebuild r), t ≠ p.rebuild r → t = noneType := by
            refine List.forall_mem_map.2 fun m hm hne => ?_
            have hother : m ≠ p := fun h => hne (h ▸ rfl)
            rw [eq_noneType_of_present (.union style hmembers hflat hdistinct hmany) hp hm hother]
            rfl
          rw [rebuild, rebuildAll_eq_map,
            erase_unite hformed (List.mem_map_of_mem hmem) hrest herase]
          exact hmember
      · rwa [erase_union_of_many fun p hp => hsingle ⟨p, hp⟩]

end

end RecordBinding.TypeExpr
