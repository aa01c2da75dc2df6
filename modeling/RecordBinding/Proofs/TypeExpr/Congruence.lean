import RecordBinding.Proofs.TypeExpr.Equality
import RecordBinding.Property.Discovery

namespace RecordBinding

namespace TypeExpr

theorem isNoneType_congr {a b : TypeExpr} (h : a.same b = true) : a.isNoneType = b.isNoneType := by
  rw [same_iff] at h
  cases h <;> rfl

theorem isUnresolved_congr {a b : TypeExpr} (h : a.same b = true) :
    a.isUnresolved = b.isUnresolved := by
  rw [same_iff] at h
  cases h <;> rfl

/-- No two types of a list are equal. -/
def Distinct (ts : List TypeExpr) : Prop :=
  ts.Pairwise fun a b => ¬ a.same b = true

abbrev SameTypes (as bs : List TypeExpr) : Prop :=
  SameMembers (fun a b => a.same b = true) as bs

theorem SameTypes.symm {as bs : List TypeExpr} (h : SameTypes as bs) : SameTypes bs as :=
  SameMembers.symm (fun _ _ _ => same_symm) h

theorem eq_singleton_of_sameTypes {t : TypeExpr} {ts : List TypeExpr} (hts : Distinct ts)
    (h : SameTypes [t] ts) : ∃ t', ts = [t'] ∧ t.same t' = true := by
  obtain ⟨t', ht', hsame⟩ := h.1 t (by simp)
  have hall : ∀ u ∈ ts, t.same u = true := by
    intro u hu
    obtain ⟨a, ha, hau⟩ := h.2 u hu
    obtain rfl := List.mem_singleton.1 ha
    exact hau
  cases ts with
  | nil => simp at ht'
  | cons u us =>
      cases us with
      | nil =>
          obtain rfl := List.mem_singleton.1 ht'
          exact ⟨t', rfl, hsame⟩
      | cons v vs =>
          have hu := hall u (by simp)
          have hv := hall v (by simp)
          rw [Distinct, List.pairwise_cons] at hts
          exact absurd (same_trans (same_symm hu) hv) (hts.1 v (by simp))

/-- The members of a union that count for its raw class. -/
def present : List TypeExpr → List TypeExpr
  | [] => []
  | t :: ts => if t.isNoneType || ts.any t.same then present ts else t :: present ts

theorem erasePresent_eq (ts : List TypeExpr) : erasePresent ts = (present ts).map erase := by
  induction ts with
  | nil => simp [erasePresent, present]
  | cons t ts ih =>
      rw [erasePresent, present, ih]
      split <;> simp

theorem mem_of_mem_present {t : TypeExpr} {ts : List TypeExpr} (h : t ∈ present ts) :
    t ∈ ts ∧ t.isNoneType = false := by
  induction ts with
  | nil => simp [present] at h
  | cons u us ih =>
      rw [present] at h
      split at h
      · exact ⟨List.mem_cons_of_mem _ (ih h).1, (ih h).2⟩
      · next hu =>
          rw [Bool.or_eq_true, not_or, Bool.not_eq_true] at hu
          rcases List.mem_cons.1 h with rfl | h
          · exact ⟨by simp, hu.1⟩
          · exact ⟨List.mem_cons_of_mem _ (ih h).1, (ih h).2⟩

theorem exists_present {t : TypeExpr} {ts : List TypeExpr} (ht : t ∈ ts)
    (hnone : t.isNoneType = false) : ∃ p ∈ present ts, t.same p = true := by
  induction ts generalizing t with
  | nil => simp at ht
  | cons u us ih =>
      rw [present]
      split
      · next hu =>
          rcases List.mem_cons.1 ht with rfl | ht
          · simp only [hnone, Bool.false_or, List.any_eq_true] at hu
            obtain ⟨v, hv, htv⟩ := hu
            obtain ⟨p, hp, hvp⟩ := ih hv (isNoneType_congr htv ▸ hnone)
            exact ⟨p, hp, same_trans htv hvp⟩
          · exact ih ht hnone
      · rcases List.mem_cons.1 ht with rfl | ht
        · exact ⟨t, by simp, same_refl t⟩
        · obtain ⟨p, hp, htp⟩ := ih ht hnone
          exact ⟨p, List.mem_cons_of_mem _ hp, htp⟩

theorem distinct_present (ts : List TypeExpr) : Distinct (present ts) := by
  induction ts with
  | nil => exact List.Pairwise.nil
  | cons t ts ih =>
      rw [present]
      split
      · exact ih
      · next ht =>
          simp only [Bool.or_eq_true, List.any_eq_true, not_or, not_exists, not_and] at ht
          exact List.Pairwise.cons (fun u hu => ht.2 u (mem_of_mem_present hu).1) ih

theorem sameTypes_present {as bs : List TypeExpr}
    (hab : ∀ a ∈ as, a.isNoneType = false → ∃ b ∈ bs, a.same b = true)
    (hba : ∀ b ∈ bs, b.isNoneType = false → ∃ a ∈ as, b.same a = true) :
    SameTypes (present as) (present bs) := by
  have half : ∀ {cs ds : List TypeExpr},
      (∀ c ∈ cs, c.isNoneType = false → ∃ d ∈ ds, c.same d = true) →
      ∀ c ∈ present cs, ∃ d ∈ present ds, c.same d = true := by
    intro cs ds hcd c hc
    obtain ⟨hmem, hnone⟩ := mem_of_mem_present hc
    obtain ⟨d, hd, hsame⟩ := hcd c hmem hnone
    obtain ⟨p, hp, hdp⟩ := exists_present hd (isNoneType_congr hsame ▸ hnone)
    exact ⟨p, hp, same_trans hsame hdp⟩
  refine ⟨half hab, fun b hb => ?_⟩
  obtain ⟨a, ha, hba⟩ := half hba b hb
  exact ⟨a, ha, same_symm hba⟩

theorem SameTypes.present {as bs : List TypeExpr} (h : SameTypes as bs) :
    SameTypes (present as) (present bs) :=
  sameTypes_present (fun a ha _ => h.1 a ha) fun b hb _ => h.symm.1 b hb

theorem erase_union_of_single {style : UnionStyle} {ts : List TypeExpr} {t : TypeExpr}
    (h : present ts = [t]) : (union style ts).erase = t.erase := by
  rw [erase, erasePresent_eq, h]
  rfl

theorem erase_union_of_many {style : UnionStyle} {ts : List TypeExpr}
    (h : ∀ t, present ts ≠ [t]) : (union style ts).erase = .object := by
  rw [erase, erasePresent_eq]
  split
  · next c hc =>
      obtain ⟨t, ht, -⟩ := List.map_eq_singleton_iff.1 hc
      exact absurd ht (h t)
  · rfl

theorem erase_congr {a b : TypeExpr} (h : a.same b = true) : a.erase = b.erase := by
  induction a using induct generalizing b with
  | step a ih =>
      rw [same_iff] at h
      cases h with
      | newtype name h => simpa [erase] using ih _ (by simp [parts]) h
      | synonym name h => simpa [erase] using ih _ (by simp [parts]) h
      | annotated h hmetadata => simpa [erase] using ih _ (by simp [parts]) h
      | union style style' h =>
          rename_i as bs
          have hpresent := SameTypes.present h
          by_cases hsingle : ∃ t, present as = [t]
          · obtain ⟨t, ht⟩ := hsingle
            rw [ht] at hpresent
            obtain ⟨t', ht', hsame⟩ := eq_singleton_of_sameTypes (distinct_present bs) hpresent
            have hmem : t ∈ as := (mem_of_mem_present (ht ▸ List.mem_singleton_self t)).1
            rw [erase_union_of_single ht, erase_union_of_single ht']
            exact ih t hmem hsame
          · have hmany : ∀ t, present bs ≠ [t] := by
              intro t ht
              rw [ht] at hpresent
              obtain ⟨t', ht', -⟩ :=
                eq_singleton_of_sameTypes (distinct_present as) hpresent.symm
              exact hsingle ⟨t', ht'⟩
            rw [erase_union_of_many fun t ht => hsingle ⟨t, ht⟩, erase_union_of_many hmany]
      | _ => rfl

theorem erase_asArgument (t : TypeExpr) : t.asArgument.erase = t.erase := by
  cases t <;> rfl

theorem erase_annotate (t : TypeExpr) (metadata : List Scalar) :
    (t.annotate metadata).erase = t.erase := by
  cases t with
  | annotated inner first => rfl
  | _ => exact erase_asArgument _

theorem asArgument_congr {a b : TypeExpr} (h : a.same b = true) :
    a.asArgument.same b.asArgument = true := by
  have hform := (same_iff a b).1 h
  cases hform with
  | none => exact same_refl _
  | unresolved source => exact same_refl _
  | _ => exact h

theorem memberList_congr {a b : TypeExpr} (h : a.same b = true) :
    SameTypes a.memberList b.memberList := by
  have hsingle : ∀ {c d : TypeExpr}, c.same d = true → SameTypes [c.asArgument] [d.asArgument] := by
    intro c d hcd
    have := asArgument_congr hcd
    exact ⟨by simpa using this, by simpa using this⟩
  have hform := (same_iff a b).1 h
  cases hform with
  | union style style' hmembers => exact hmembers
  | _ => exact hsingle h

theorem mem_of_mem_withoutDuplicates {t : TypeExpr} {ts : List TypeExpr}
    (h : t ∈ withoutDuplicates ts) : t ∈ ts := by
  induction ts with
  | nil => simp [withoutDuplicates] at h
  | cons u us ih =>
      rw [withoutDuplicates, List.mem_cons, List.mem_filter] at h
      rcases h with rfl | ⟨h, -⟩
      · simp
      · exact List.mem_cons_of_mem _ (ih h)

theorem exists_withoutDuplicates {t : TypeExpr} {ts : List TypeExpr} (ht : t ∈ ts) :
    ∃ d ∈ withoutDuplicates ts, t.same d = true := by
  induction ts with
  | nil => simp at ht
  | cons u us ih =>
      rw [withoutDuplicates]
      rcases List.mem_cons.1 ht with rfl | ht
      · exact ⟨t, by simp, same_refl t⟩
      · obtain ⟨d, hd, htd⟩ := ih ht
        by_cases hud : u.same d = true
        · exact ⟨u, by simp, same_trans htd (same_symm hud)⟩
        · exact ⟨d, List.mem_cons_of_mem _ (List.mem_filter.2 ⟨hd, by simpa using hud⟩), htd⟩

theorem distinct_withoutDuplicates (ts : List TypeExpr) : Distinct (withoutDuplicates ts) := by
  induction ts with
  | nil => exact List.Pairwise.nil
  | cons t ts ih =>
      refine List.Pairwise.cons (fun u hu => ?_) (ih.sublist List.filter_sublist)
      simpa using (List.mem_filter.1 hu).2

theorem sameTypes_withoutDuplicates (ts : List TypeExpr) :
    SameTypes ts (withoutDuplicates ts) :=
  ⟨fun _ ht => exists_withoutDuplicates ht,
    fun t ht => ⟨t, mem_of_mem_withoutDuplicates ht, same_refl t⟩⟩

theorem SameTypes.trans {as bs cs : List TypeExpr} (h : SameTypes as bs) (h' : SameTypes bs cs) :
    SameTypes as cs :=
  SameMembers.trans (fun _ _ _ _ => same_trans) h h'

theorem unite_congr_of_members (style style' : UnionStyle) {as bs : List TypeExpr}
    (h : SameTypes (as.flatMap memberList) (bs.flatMap memberList)) :
    (unite style as).same (unite style' bs) = true := by
  have hdistinct : SameTypes (withoutDuplicates (as.flatMap memberList))
      (withoutDuplicates (bs.flatMap memberList)) :=
    ((sameTypes_withoutDuplicates _).symm.trans h).trans (sameTypes_withoutDuplicates _)
  have hbs := distinct_withoutDuplicates (bs.flatMap memberList)
  have has := distinct_withoutDuplicates (as.flatMap memberList)
  rw [unite, unite]
  generalize withoutDuplicates (as.flatMap memberList) = as' at *
  generalize withoutDuplicates (bs.flatMap memberList) = bs' at *
  split
  · next t =>
      obtain ⟨t', rfl, hsame⟩ := eq_singleton_of_sameTypes hbs hdistinct
      exact hsame
  · next hmany =>
      split
      · next t =>
          obtain ⟨t', rfl, -⟩ := eq_singleton_of_sameTypes has hdistinct.symm
          exact absurd rfl (hmany t')
      · exact (same_iff _ _).2 (.union style style' hdistinct)

theorem sameTypes_flatMap_memberList {as bs : List TypeExpr}
    (h : List.Forall₂ (fun a b => a.same b = true) as bs) :
    SameTypes (as.flatMap memberList) (bs.flatMap memberList) := by
  induction h with
  | nil => exact .refl (by simp)
  | cons hab _ ih =>
      rw [List.flatMap_cons, List.flatMap_cons]
      exact (memberList_congr hab).append ih

theorem unite_congr (style : UnionStyle) {as bs : List TypeExpr}
    (h : List.Forall₂ (fun a b => a.same b = true) as bs) :
    (unite style as).same (unite style bs) = true :=
  unite_congr_of_members style style (sameTypes_flatMap_memberList h)

theorem annotate_congr {a b : TypeExpr} {metadata metadata' : List Scalar}
    (h : a.same b = true) (hmetadata : Scalar.sameList metadata metadata' = true) :
    (a.annotate metadata).same (b.annotate metadata') = true := by
  have hplain : ∀ {c d : TypeExpr}, c.same d = true →
      (annotated c.asArgument metadata).same (annotated d.asArgument metadata') = true :=
    fun hcd => (same_iff _ _).2 (.annotated (asArgument_congr hcd) hmetadata)
  have hform := (same_iff a b).1 h
  cases hform with
  | annotated hinner hfirst =>
      exact (same_iff _ _).2 (.annotated hinner (Scalar.sameList_append hfirst hmetadata))
  | _ => exact hplain h

theorem stripAnnotated_congr {a b : TypeExpr} (h : a.same b = true) :
    a.stripAnnotated.1.same b.stripAnnotated.1 = true ∧
      Scalar.sameList a.stripAnnotated.2 b.stripAnnotated.2 = true := by
  have hform := (same_iff a b).1 h
  cases hform with
  | annotated hinner hmetadata => exact ⟨hinner, hmetadata⟩
  | _ => exact ⟨h, rfl⟩

end TypeExpr

namespace Substitution

open TypeExpr

/-- Two substitutions replace the same type variables by equal types. -/
def Same (s s' : Substitution) : Prop :=
  List.Forall₂ (fun x y => x.1 = y.1 ∧ x.2.same y.2 = true) s s'

variable {s s' : Substitution}

theorem Same.refl (s : Substitution) : s.Same s :=
  List.forall₂_same.2 fun x _ => ⟨rfl, same_refl x.2⟩

theorem image_congr (h : s.Same s') (v : TypeVar) : (s.image v).same (s'.image v) = true := by
  induction h with
  | nil => exact same_refl _
  | @cons x y xs ys hxy _ ih =>
      rw [image, image, image?, image?, List.find?_cons, List.find?_cons, ← hxy.1]
      split
      · exact hxy.2
      · exact ih

theorem fixes_congr (h : s.Same s') (v : TypeVar) : s.fixes v = s'.fixes v := by
  have himage := image_congr h v
  rw [fixes, fixes, Bool.eq_iff_iff]
  exact ⟨same_trans (same_symm himage), same_trans himage⟩

theorem ofArguments_congr (params : List TypeVar) {as bs : List TypeExpr}
    (h : List.Forall₂ (fun a b => a.same b = true) as bs) :
    (ofArguments params as).Same (ofArguments params bs) := by
  induction h generalizing params with
  | nil => exact Same.refl _
  | cons hab _ ih =>
      cases params with
      | nil => exact Same.refl _
      | cons v params => exact .cons ⟨rfl, hab⟩ (ih params)

end Substitution

namespace TypeExpr

theorem rebuildAll_eq_map (s : Substitution) (ts : List TypeExpr) :
    rebuildAll s ts = ts.map (rebuild s) := by
  induction ts with
  | nil => rfl
  | cons t ts ih => rw [rebuildAll, ih, List.map_cons]

variable {s s' : Substitution}

theorem rebuild_congr (h : s.Same s') (t : TypeExpr) :
    (rebuild s t).same (rebuild s' t) = true := by
  induction t using induct with
  | step t ih =>
      have hall : ∀ ts : List TypeExpr, (∀ p ∈ ts, (rebuild s p).same (rebuild s' p) = true) →
          List.Forall₂ (fun a b => a.same b = true) (rebuildAll s ts) (rebuildAll s' ts) := by
        intro ts hts
        rw [rebuildAll_eq_map, rebuildAll_eq_map, List.forall₂_map_left_iff,
          List.forall₂_map_right_iff, List.forall₂_same]
        exact hts
      cases t with
      | typeVar v => exact asArgument_congr (Substitution.image_congr h v)
      | generic origin args => exact (same_iff _ _).2 (.generic origin (hall args ih))
      | union style members => exact unite_congr style (hall members ih)
      | annotated inner metadata =>
          exact annotate_congr (ih inner (by simp [parts])) ((Scalar.sameList_iff _ _).2 rfl)
      | _ => exact same_refl _

theorem substitute_of_compound (s : Substitution) {t : TypeExpr} (h : ∀ v, t ≠ typeVar v) :
    t.substitute s = if t.parameters.all s.fixes then t else rebuild s t := by
  cases t with
  | typeVar v => exact absurd rfl (h v)
  | _ => rfl

/-- Substitutions that agree up to equality give equal types. -/
theorem substitute_congr (h : s.Same s') (t : TypeExpr) :
    (t.substitute s).same (t.substitute s') = true := by
  by_cases hvar : ∃ v, t = typeVar v
  · obtain ⟨v, rfl⟩ := hvar
    exact Substitution.image_congr h v
  · have hcompound : ∀ v, t ≠ typeVar v := fun v hv => hvar ⟨v, hv⟩
    rw [substitute_of_compound s hcompound, substitute_of_compound s' hcompound,
      funext (Substitution.fixes_congr h)]
    split
    · exact same_refl t
    · exact rebuild_congr h t

end TypeExpr

end RecordBinding
