import RecordBinding.Proofs.TypeExpr.Congruence

namespace RecordBinding

namespace TypeExpr

variable {s : Substitution}

/-- Whether a type is put together from others that substitution looks into. -/
def isCompound : TypeExpr → Bool
  | generic _ _ => true
  | union _ _ => true
  | annotated _ _ => true
  | _ => false

/-- A type such as the forming operations make it. Arguments of a declared class and what is annotated
are arguments; a union is flat, without duplicates and not of a single member; an annotated type does
not wrap another one. -/
inductive IsFormed : TypeExpr → Prop
  | plain {t : TypeExpr} (h : t.isCompound = false) : IsFormed t
  | generic (origin : ClassId) {args : List TypeExpr} (hargs : ∀ a ∈ args, IsFormed a)
      (hdeclared : ∀ name, origin = .declared name → ∀ a ∈ args, a.asArgument = a) :
      IsFormed (.generic origin args)
  | union (style : UnionStyle) {members : List TypeExpr} (hmembers : ∀ m ∈ members, IsFormed m)
      (hflat : ∀ m ∈ members, m.memberList = [m]) (hdistinct : Distinct members)
      (hmany : ∀ m, members ≠ [m]) : IsFormed (.union style members)
  | annotated {inner : TypeExpr} (metadata : List Scalar) (hinner : IsFormed inner)
      (hargument : inner.asArgument = inner) (hplain : ∀ i ms, inner ≠ .annotated i ms) :
      IsFormed (.annotated inner metadata)

/-- A formed type that can stand as an argument of another as it is. -/
structure IsArgument (t : TypeExpr) : Prop where
  formed : t.IsFormed
  fixed : t.asArgument = t

/-- A formed type whose type variables all satisfy a condition. -/
structure FormedOver (P : TypeVar → Prop) (t : TypeExpr) : Prop where
  formed : t.IsFormed
  parameters : ∀ v ∈ t.parameters, P v

theorem asArgument_asArgument (t : TypeExpr) : t.asArgument.asArgument = t.asArgument := by
  cases t <;> rfl

theorem parameters_asArgument (t : TypeExpr) : t.asArgument.parameters = t.parameters := by
  cases t <;> rfl

theorem IsFormed.asArgument {t : TypeExpr} (h : t.IsFormed) : t.asArgument.IsArgument := by
  refine ⟨?_, asArgument_asArgument t⟩
  cases t with
  | none => exact .plain rfl
  | unresolved source => exact .plain rfl
  | _ => exact h

theorem memberList_of_plain {t : TypeExpr} (h : ∀ style members, t ≠ .union style members) :
    t.memberList = [t.asArgument] := by
  cases t with
  | union style members => exact absurd rfl (h style members)
  | _ => rfl

theorem memberList_asArgument (t : TypeExpr) : t.asArgument.memberList = t.memberList := by
  cases t <;> rfl

theorem IsFormed.memberList {t m : TypeExpr} (h : t.IsFormed) (hm : m ∈ t.memberList) :
    m.IsArgument ∧ m.memberList = [m] := by
  by_cases hunion : ∃ style members, t = .union style members
  · obtain ⟨style, members, rfl⟩ := hunion
    cases h with
    | plain h => cases h
    | union style hmembers hflat =>
        refine ⟨⟨hmembers m hm, ?_⟩, hflat m hm⟩
        have hlist := hflat m hm
        cases m with
        | none => cases hlist
        | unresolved source => cases hlist
        | _ => rfl
  · have hplain : ∀ style members, t ≠ .union style members :=
      fun style members ht => hunion ⟨style, members, ht⟩
    rw [memberList_of_plain hplain] at hm
    obtain rfl := List.mem_singleton.1 hm
    exact ⟨h.asArgument, by rw [memberList_asArgument, memberList_of_plain hplain]⟩

theorem parametersOfAll_eq_flatMap (ts : List TypeExpr) :
    parametersOfAll ts = ts.flatMap parameters := by
  induction ts with
  | nil => rfl
  | cons t ts ih => rw [parametersOfAll, ih, List.flatMap_cons]

theorem mem_parameters_of_memberList {t m : TypeExpr} {v : TypeVar} (hm : m ∈ t.memberList)
    (hv : v ∈ m.parameters) : v ∈ t.parameters := by
  cases t with
  | union style members =>
      rw [parameters, parametersOfAll_eq_flatMap]
      exact List.mem_flatMap.2 ⟨m, hm, hv⟩
  | _ =>
      obtain rfl := List.mem_singleton.1 hm
      rwa [parameters_asArgument] at hv

theorem mem_parameters_unite {style : UnionStyle} {ts : List TypeExpr} {v : TypeVar}
    (hv : v ∈ (unite style ts).parameters) : ∃ t ∈ ts, v ∈ t.parameters := by
  have hmember : ∀ m ∈ withoutDuplicates (ts.flatMap TypeExpr.memberList), v ∈ m.parameters →
      ∃ t ∈ ts, v ∈ t.parameters := by
    intro m hm hv
    obtain ⟨t, ht, hm⟩ := List.mem_flatMap.1 (mem_of_mem_withoutDuplicates hm)
    exact ⟨t, ht, mem_parameters_of_memberList hm hv⟩
  rw [unite] at hv
  split at hv
  · next t ht => exact hmember t (by simp [ht]) hv
  · rw [parameters, parametersOfAll_eq_flatMap] at hv
    obtain ⟨m, hm, hv⟩ := List.mem_flatMap.1 hv
    exact hmember m hm hv

theorem parameters_annotate (t : TypeExpr) (metadata : List Scalar) :
    (t.annotate metadata).parameters = t.parameters := by
  cases t <;> rfl

theorem mem_parameters_rebuild {t : TypeExpr} {v : TypeVar} (hv : v ∈ (rebuild s t).parameters) :
    ∃ w ∈ t.parameters, v ∈ (s.image w).parameters := by
  induction t using induct with
  | step t ih =>
      cases t with
      | typeVar w =>
          rw [rebuild, parameters_asArgument] at hv
          exact ⟨w, by simp [parameters], hv⟩
      | generic origin args =>
          simp only [rebuild, parameters, rebuildAll_eq_map, parametersOfAll_eq_flatMap,
            List.mem_flatMap, List.mem_map] at hv ⊢
          obtain ⟨-, ⟨a, ha, rfl⟩, hv⟩ := hv
          obtain ⟨w, hw, hv⟩ := ih a ha hv
          exact ⟨w, ⟨a, ha, hw⟩, hv⟩
      | union style members =>
          rw [rebuild, rebuildAll_eq_map] at hv
          obtain ⟨t, ht, hv⟩ := mem_parameters_unite hv
          obtain ⟨m, hm, rfl⟩ := List.mem_map.1 ht
          obtain ⟨w, hw, hv⟩ := ih m hm hv
          rw [parameters, parametersOfAll_eq_flatMap]
          exact ⟨w, List.mem_flatMap.2 ⟨m, hm, hw⟩, hv⟩
      | annotated inner metadata =>
          rw [rebuild, parameters_annotate] at hv
          exact ih inner (by simp [parts]) hv
      | _ => simp [rebuild, parameters] at hv

theorem mem_parameters_substitute {t : TypeExpr} {v : TypeVar}
    (hv : v ∈ (t.substitute s).parameters) : ∃ w ∈ t.parameters, v ∈ (s.image w).parameters := by
  by_cases hvar : ∃ w, t = typeVar w
  · obtain ⟨w, rfl⟩ := hvar
    exact ⟨w, by simp [parameters], hv⟩
  · rw [substitute_of_compound s fun w hw => hvar ⟨w, hw⟩] at hv
    split at hv
    · next hfixes =>
        have himage := List.all_eq_true.1 hfixes v hv
        rw [Substitution.fixes, same_iff] at himage
        refine ⟨v, hv, ?_⟩
        generalize s.image v = image at himage
        cases himage with
        | typeVar => simp [parameters]
    · exact mem_parameters_rebuild hv

theorem withoutDuplicates_of_distinct {ts : List TypeExpr} (h : Distinct ts) :
    withoutDuplicates ts = ts := by
  induction ts with
  | nil => rfl
  | cons t ts ih =>
      rw [Distinct, List.pairwise_cons] at h
      rw [withoutDuplicates, ih h.2]
      congr 1
      refine List.filter_eq_self.2 fun u hu => ?_
      simpa using h.1 u hu

theorem flatMap_memberList_of_flat {ts : List TypeExpr} (h : ∀ t ∈ ts, t.memberList = [t]) :
    ts.flatMap TypeExpr.memberList = ts := by
  induction ts with
  | nil => rfl
  | cons t ts ih =>
      rw [List.flatMap_cons, h t List.mem_cons_self, List.singleton_append,
        ih fun u hu => h u (List.mem_cons_of_mem _ hu)]

theorem unite_of_formed {style : UnionStyle} {members : List TypeExpr}
    (h : (TypeExpr.union style members).IsFormed) : unite style members = .union style members := by
  cases h with
  | plain h => cases h
  | union style hmembers hflat hdistinct hmany =>
      rw [unite, flatMap_memberList_of_flat hflat, withoutDuplicates_of_distinct hdistinct]
      split
      · next t => exact absurd rfl (hmany t)
      · rfl

theorem annotate_of_plain {t : TypeExpr} (h : ∀ i ms, t ≠ .annotated i ms)
    (metadata : List Scalar) : t.annotate metadata = .annotated t.asArgument metadata := by
  cases t with
  | annotated i ms => exact absurd rfl (h i ms)
  | _ => rfl

theorem annotate_of_formed {inner : TypeExpr} {metadata : List Scalar}
    (h : (TypeExpr.annotated inner metadata).IsFormed) :
    inner.annotate metadata = .annotated inner metadata := by
  cases h with
  | plain h => cases h
  | annotated metadata hinner hargument hplain => rw [annotate_of_plain hplain, hargument]

theorem isArgument_unite (style : UnionStyle) {ts : List TypeExpr} (h : ∀ t ∈ ts, t.IsFormed) :
    (unite style ts).IsArgument := by
  have hmembers : ∀ m ∈ withoutDuplicates (ts.flatMap TypeExpr.memberList),
      m.IsArgument ∧ m.memberList = [m] := by
    intro m hm
    obtain ⟨t, ht, hm⟩ := List.mem_flatMap.1 (mem_of_mem_withoutDuplicates hm)
    exact (h t ht).memberList hm
  have hdistinct := distinct_withoutDuplicates (ts.flatMap TypeExpr.memberList)
  rw [unite]
  generalize withoutDuplicates (ts.flatMap TypeExpr.memberList) = members at *
  split
  · next t => exact (hmembers t (by simp)).1
  · next hmany =>
      exact ⟨.union style (fun m hm => (hmembers m hm).1.formed) (fun m hm => (hmembers m hm).2)
        hdistinct hmany, rfl⟩

theorem isArgument_annotate {t : TypeExpr} (h : t.IsFormed) (metadata : List Scalar) :
    (t.annotate metadata).IsArgument := by
  by_cases hannotated : ∃ i ms, t = .annotated i ms
  · obtain ⟨i, ms, rfl⟩ := hannotated
    cases h with
    | plain h => cases h
    | annotated ms hinner hargument hplain =>
        exact ⟨.annotated _ hinner hargument hplain, rfl⟩
  · have hplain : ∀ i ms, t ≠ .annotated i ms := fun i ms ht => hannotated ⟨i, ms, ht⟩
    have hargument := h.asArgument
    rw [annotate_of_plain hplain]
    refine ⟨.annotated metadata hargument.formed hargument.fixed fun i ms ht => ?_, rfl⟩
    cases t with
    | annotated i ms => exact absurd rfl (hplain i ms)
    | _ => cases ht

end TypeExpr

namespace Substitution

open TypeExpr

/-- Every type variable that is replaced stands for an argument. -/
def IsFormed (s : Substitution) : Prop :=
  ∀ entry ∈ s, entry.2.IsArgument

variable {s : Substitution}

theorem image_cases (s : Substitution) (v : TypeVar) :
    (∃ entry ∈ s, entry.1 = v ∧ s.image v = entry.2) ∨
      ((∀ entry ∈ s, entry.1 ≠ v) ∧ s.image v = .typeVar v) := by
  induction s with
  | nil => exact .inr ⟨by simp, rfl⟩
  | cons entry s ih =>
      by_cases hv : entry.1 = v
      · refine .inl ⟨entry, List.mem_cons_self, hv, ?_⟩
        simp [image, image?, TypeVar.same, hv]
      · have himage : image (entry :: s) v = image s v := by
          simp [image, image?, TypeVar.same, hv]
        rw [himage]
        rcases ih with ⟨other, hother, hkey, hvalue⟩ | ⟨hnone, hvalue⟩
        · exact .inl ⟨other, List.mem_cons_of_mem _ hother, hkey, hvalue⟩
        · exact .inr ⟨List.forall_mem_cons.2 ⟨hv, hnone⟩, hvalue⟩

theorem IsFormed.image (hs : s.IsFormed) (v : TypeVar) : (s.image v).IsArgument := by
  rcases image_cases s v with ⟨entry, hentry, -, himage⟩ | ⟨-, himage⟩
  · rw [himage]
    exact hs entry hentry
  · rw [himage]
    exact ⟨.plain rfl, rfl⟩

theorem IsFormed.ofArguments (params : List TypeVar) {args : List TypeExpr}
    (hargs : ∀ a ∈ args, a.IsArgument) : IsFormed (ofArguments params args) :=
  fun _ hentry => hargs _ (List.of_mem_zip hentry).2

theorem image_eq_of_fixes {v : TypeVar} (h : s.fixes v = true) : s.image v = .typeVar v := by
  rw [fixes, same_iff] at h
  generalize s.image v = image at h
  cases h with
  | typeVar => rfl

end Substitution

namespace TypeExpr

variable {s : Substitution} {t : TypeExpr}

theorem IsFormed.rebuild (ht : t.IsFormed) (hs : s.IsFormed) :
    (rebuild s t).IsFormed ∧ (t.asArgument = t → (t.rebuild s).asArgument = t.rebuild s) := by
  induction ht with
  | @plain t h =>
      cases t with
      | typeVar v =>
          have himage := (hs.image v).formed.asArgument
          exact ⟨himage.formed, fun _ => himage.fixed⟩
      | generic origin args => cases h
      | union style members => cases h
      | annotated inner metadata => cases h
      | _ => exact ⟨.plain rfl, id⟩
  | @generic origin args hargs hdeclared ih =>
      rw [TypeExpr.rebuild, rebuildAll_eq_map]
      refine ⟨.generic origin ?_ fun name hname => ?_, fun _ => rfl⟩
      · exact List.forall_mem_map.2 fun a ha => (ih a ha).1
      · exact List.forall_mem_map.2 fun a ha => (ih a ha).2 (hdeclared name hname a ha)
  | @union style members hmembers hflat hdistinct hmany ih =>
      rw [TypeExpr.rebuild, rebuildAll_eq_map]
      have hunited := isArgument_unite style (List.forall_mem_map.2 fun m hm => (ih m hm).1)
      exact ⟨hunited.formed, fun _ => hunited.fixed⟩
  | annotated metadata hinner hargument hplain ih =>
      have hannotated := isArgument_annotate ih.1 metadata
      exact ⟨hannotated.formed, fun _ => hannotated.fixed⟩

theorem IsFormed.rebuild_eq_self (ht : t.IsFormed)
    (h : ∀ v ∈ t.parameters, s.fixes v = true) : t.rebuild s = t := by
  have hall : ∀ ts : List TypeExpr, (∀ p ∈ ts, p.rebuild s = p) → rebuildAll s ts = ts := by
    intro ts hts
    rw [rebuildAll_eq_map, List.map_congr_left hts, List.map_id']
  induction ht with
  | @plain t hplain =>
      cases t with
      | typeVar v =>
          rw [TypeExpr.rebuild, Substitution.image_eq_of_fixes (h v (by simp [parameters]))]
          rfl
      | generic origin args => cases hplain
      | union style members => cases hplain
      | annotated inner metadata => cases hplain
      | _ => rfl
  | @generic origin args hargs hdeclared ih =>
      simp only [parameters, parametersOfAll_eq_flatMap, List.mem_flatMap] at h
      rw [TypeExpr.rebuild, hall args fun a ha => ih a ha fun v hv => h v ⟨a, ha, hv⟩]
  | @union style members hmembers hflat hdistinct hmany ih =>
      simp only [parameters, parametersOfAll_eq_flatMap, List.mem_flatMap] at h
      rw [TypeExpr.rebuild, hall members fun m hm => ih m hm fun v hv => h v ⟨m, hm, hv⟩]
      exact unite_of_formed (.union style hmembers hflat hdistinct hmany)
  | annotated metadata hinner hargument hplain ih =>
      rw [TypeExpr.rebuild, ih h]
      exact annotate_of_formed (.annotated metadata hinner hargument hplain)

/-- Where everything is formed, substitution is forming anew, also where it takes a shortcut. -/
theorem IsFormed.substitute_eq_rebuild (ht : t.IsFormed) (hs : s.IsFormed) :
    t.substitute s = t.rebuild s := by
  by_cases hvar : ∃ v, t = typeVar v
  · obtain ⟨v, rfl⟩ := hvar
    exact (hs.image v).fixed.symm
  · rw [substitute_of_compound s fun v hv => hvar ⟨v, hv⟩]
    split
    · next hfixes => exact (ht.rebuild_eq_self (List.all_eq_true.1 hfixes)).symm
    · rfl

theorem IsFormed.substitute (ht : t.IsFormed) (hs : s.IsFormed) : (t.substitute s).IsFormed := by
  rw [ht.substitute_eq_rebuild hs]
  exact (ht.rebuild hs).1

theorem IsArgument.substitute (ht : t.IsArgument) (hs : s.IsFormed) :
    (t.substitute s).IsArgument := by
  rw [ht.formed.substitute_eq_rebuild hs]
  exact ⟨(ht.formed.rebuild hs).1, (ht.formed.rebuild hs).2 ht.fixed⟩

end TypeExpr

end RecordBinding
