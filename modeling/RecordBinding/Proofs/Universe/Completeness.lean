import RecordBinding.Proofs.Universe.Commutation

namespace RecordBinding

/-- Whether a class can be listed as a base: it is declared, or needs no declaration. -/
def Classes.knows (classes : Classes) : ClassId → Bool
  | .declared name => (classes.find? (.declared name)).isSome
  | _ => true

/-- A class with a name of its own, whose bases are declared before it and get all their arguments,
with no type variables but the parameters of the class. -/
structure ClassInfo.FillsBases (earlier : Classes) (info : ClassInfo) : Prop where
  fresh : earlier.find? info.id = none
  known : ∀ base ∈ info.listedBases, ∀ b ∈ ClassDeclaration.baseClass? base, earlier.knows b = true
  filled : ∀ base ∈ info.listedBases, ∀ b ∈ ClassDeclaration.baseClass? base,
    (Classes.parameters earlier b).length ≤ (Classes.baseArguments base).length
  own : info.OwnsParameters

namespace Classes

/-- Classes that fill their bases, each looking among the classes before it. -/
def FillBases : Classes → Prop
  | [] => True
  | info :: earlier => info.FillsBases earlier ∧ FillBases earlier

instance (earlier : Classes) (info : ClassInfo) : Decidable (info.FillsBases earlier) :=
  decidable_of_iff
    (earlier.find? info.id = none ∧
      (∀ base ∈ info.listedBases, ∀ b ∈ ClassDeclaration.baseClass? base,
        earlier.knows b = true) ∧
      (∀ base ∈ info.listedBases, ∀ b ∈ ClassDeclaration.baseClass? base,
        (Classes.parameters earlier b).length ≤ (baseArguments base).length) ∧
      info.OwnsParameters)
    ⟨fun h => ⟨h.1, h.2.1, h.2.2.1, h.2.2.2⟩, fun h => ⟨h.fresh, h.known, h.filled, h.own⟩⟩

instance decidableFillBases : (classes : Classes) → Decidable classes.FillBases
  | [] => .isTrue trivial
  | info :: earlier =>
      have := decidableFillBases earlier
      inferInstanceAs (Decidable (info.FillsBases earlier ∧ FillBases earlier))

theorem ownsParameters_of_fillBases {classes : Classes} (h : classes.FillBases) :
    ∀ info ∈ classes, info.OwnsParameters := by
  induction classes with
  | nil => simp
  | cons info earlier ih => exact List.forall_mem_cons.2 ⟨h.1.own, ih h.2⟩

variable {full classes : Classes}

theorem find?_cons_of_ne {info : ClassInfo} {earlier : Classes} {b : ClassId} (h : info.id ≠ b) :
    find? (info :: earlier) b = find? earlier b := by
  simp [find?, h]

theorem find?_cons_self (info : ClassInfo) (earlier : Classes) :
    find? (info :: earlier) info.id = some info := by
  simp [find?]

theorem ancestors_congr {b : ClassId} (h : classes.find? b = full.find? b) :
    classes.ancestors b = full.ancestors b := by
  unfold ancestors
  rw [h]

theorem parameters_congr {b : ClassId} (h : classes.find? b = full.find? b) :
    Classes.parameters classes b = Classes.parameters full b := by
  rw [Classes.parameters, Classes.parameters, h]

theorem isUniversal_of_mem_ancestors {b a : ClassId} (h : b.isUniversal = true)
    (ha : a ∈ classes.ancestors b) : a.isUniversal = true := by
  cases b with
  | builtin x => cases x <;> simp_all [ClassId.isUniversal, ancestors, ClassId.object]
  | protocol =>
      simp only [ancestors, List.mem_cons, List.not_mem_nil, or_false] at ha
      rcases ha with rfl | rfl | rfl <;> rfl
  | generic =>
      simp only [ancestors, List.mem_cons, List.not_mem_nil, or_false] at ha
      rcases ha with rfl | rfl <;> rfl
  | abc =>
      simp only [ancestors, List.mem_cons, List.not_mem_nil, or_false] at ha
      rcases ha with rfl | rfl <;> rfl
  | _ => cases h

theorem visitedBase?_of_baseClass? {base : TypeExpr} {b : ClassId}
    (h : ClassDeclaration.baseClass? base = some b) (hb : b.isUniversal = false) :
    visitedBase? base = some b := by
  simp [visitedBase?, h, hb]

theorem baseClass?_of_visitedBase? {base : TypeExpr} {b : ClassId}
    (h : visitedBase? base = some b) : ClassDeclaration.baseClass? base = some b := by
  unfold visitedBase? at h
  split at h
  · next hclass =>
      split at h
      · cases h
      · cases h
        exact hclass
  · cases h

end Classes

/-- What the type variables of a class stand for holds no type variable itself. -/
def Substitution.Closes (s : Substitution) (params : List TypeVar) : Prop :=
  ∀ v ∈ params, (s.image v).parameters = []

theorem Substitution.Closes.substitute {s : Substitution} {params : List TypeVar}
    (hs : s.Closes params) {t : TypeExpr} (ht : ∀ v ∈ t.parameters, v ∈ params) :
    (t.substitute s).parameters = [] := by
  refine List.eq_nil_iff_forall_not_mem.2 fun v hv => ?_
  obtain ⟨w, hw, hv⟩ := TypeExpr.mem_parameters_substitute hv
  rw [hs w (ht w hw)] at hv
  cases hv

theorem Substitution.closes_ofArguments {params : List TypeVar} {args : List TypeExpr}
    (hlength : params.length ≤ args.length) (hargs : ∀ a ∈ args, a.parameters = []) :
    (ofArguments params args).Closes params := by
  intro v hv
  rcases image_cases (ofArguments params args) v with ⟨entry, hentry, -, himage⟩ | ⟨hnone, -⟩
  · rw [himage]
    exact hargs _ (List.of_mem_zip hentry).2
  · have hkeys : (ofArguments params args).map (·.1) = params := List.map_fst_zip hlength
    rw [← hkeys] at hv
    obtain ⟨entry, hentry, rfl⟩ := List.mem_map.1 hv
    exact absurd rfl (hnone entry hentry)

namespace Instantiation

variable {full classes : Classes} {walk extra : Instantiation}

/-- A walk that is complete as far as some classes go: it holds the ancestors of all of them that it
holds, and closes the parameters of every class. The classes whose bases are still being walked are not
among those of the first part. -/
structure Complete (full classes : Classes) (walk : Instantiation) : Prop where
  ancestors : ∀ d, classes.find? d = full.find? d → walk.has d = true →
    ∀ a ∈ full.ancestors d, a.isUniversal = false → walk.has a = true
  closes : ∀ entry ∈ walk, entry.2.Closes (Classes.parameters full entry.1)

theorem has_append (walk extra : Instantiation) (d : ClassId) :
    has (walk ++ extra) d = (walk.has d || extra.has d) := by
  simp [has]

theorem has_singleton (c d : ClassId) (s : Substitution) : has [(c, s)] d = decide (c = d) := by
  simp [has]

theorem closes_entry (h : ∀ entry ∈ walk, entry.2.Closes (Classes.parameters full entry.1))
    {d : ClassId} (hd : walk.has d = true) :
    (Instantiation.entry walk d).Closes (Classes.parameters full d) := by
  obtain ⟨found, hfound, hkey⟩ := List.mem_map.1 ((has_iff _ _).1 hd)
  rw [Instantiation.entry]
  cases hfind : walk.find? fun entry => entry.1 = d with
  | none =>
      rw [List.find?_eq_none] at hfind
      exact absurd hkey (by simpa using hfind found hfound)
  | some entry =>
      have hentry : entry.1 = d := by simpa using List.find?_some hfind
      rw [← hentry]
      exact h entry (List.mem_of_find?_eq_some hfind)

theorem Complete.append (h : Complete full classes walk)
    (hancestors : ∀ entry ∈ extra, classes.find? entry.1 = full.find? entry.1 →
      ∀ a ∈ full.ancestors entry.1, a.isUniversal = false → has (walk ++ extra) a = true)
    (hcloses : ∀ entry ∈ extra, entry.2.Closes (Classes.parameters full entry.1)) :
    Complete full classes (walk ++ extra) := by
  constructor
  · intro d hd hhas a ha huniversal
    rw [has_append, Bool.or_eq_true] at hhas
    rcases hhas with hhas | hhas
    · rw [has_append, h.ancestors d hd hhas a ha huniversal, Bool.true_or]
    · obtain ⟨entry, hentry, rfl⟩ := List.mem_map.1 ((has_iff _ _).1 hhas)
      exact hancestors entry hentry hd a ha huniversal
  · intro entry hentry
    exact (List.mem_append.1 hentry).elim (h.closes entry) (hcloses entry)

end Instantiation

namespace Classes

open Instantiation

variable {full classes earlier : Classes} {c : ClassId} {s : Substitution}
  {walk result : Instantiation}

/-- What a walk becomes that stays complete: nothing is lost, and what is new are classes that are found
in the same place. -/
structure Extends (full classes : Classes) (walk result : Instantiation) : Prop where
  complete : Complete full classes result
  mono : ∀ d, walk.has d = true → result.has d = true
  known : ∀ d, result.has d = true → walk.has d = true ∨ classes.find? d = full.find? d

theorem Extends.refl (h : Complete full classes walk) : Extends full classes walk walk :=
  ⟨h, fun _ => id, fun _ => .inl⟩

theorem Extends.trans {next : Instantiation} (h : Extends full classes walk result)
    (h' : Extends full classes result next) : Extends full classes walk next := by
  refine ⟨h'.complete, fun d hd => h'.mono d (h.mono d hd), fun d hd => ?_⟩
  exact (h'.known d hd).elim (h.known d) .inr

theorem mem_ancestors_of_find?_eq_none {d a : ClassId} (hd : full.find? d = none)
    (ha : a ∈ full.ancestors d) (huniversal : a.isUniversal = false) :
    a = d ∨ d = .builtin .bool ∧ a = .builtin .int := by
  unfold ancestors at ha
  split at ha
  · simpa [hd] using ha
  · simp only [List.mem_singleton] at ha
    exact .inl (by rw [ha, ClassId.object])
  · simp only [List.mem_cons, List.not_mem_nil, or_false] at ha
    rcases ha with rfl | rfl | rfl
    · exact .inl rfl
    · exact .inr ⟨rfl, rfl⟩
    · cases huniversal
  · simp only [List.mem_cons, List.not_mem_nil, or_false] at ha
    rcases ha with rfl | rfl | rfl
    · exact .inl rfl
    · cases huniversal
    · cases huniversal
  · simp only [List.mem_cons, List.not_mem_nil, or_false] at ha
    rcases ha with rfl | rfl
    · exact .inl rfl
    · cases huniversal

theorem visit_nil_extends (hc : full.find? c = none) (hwalk : Complete full [] walk) :
    Extends full [] walk (visit [] c s walk) ∧ (visit [] c s walk).has c = true := by
  have hcloses : ∀ d s, full.find? d = none →
      Substitution.Closes s (Classes.parameters full d) := by
    intro d s hd
    rw [Classes.parameters, hd]
    exact List.forall_mem_nil _
  have happend : ∀ extra : Instantiation, (∀ entry ∈ extra, full.find? entry.1 = none) →
      (∀ entry ∈ extra, ∀ a ∈ full.ancestors entry.1, a.isUniversal = false →
        has (walk ++ extra) a = true) → Extends full [] walk (walk ++ extra) := by
    intro extra hnone hancestors
    refine ⟨hwalk.append (fun entry hentry _ => hancestors entry hentry)
      fun entry hentry => hcloses _ _ (hnone entry hentry), fun d hd => ?_, fun d hd => ?_⟩
    · rw [has_append, hd, Bool.true_or]
    · rw [has_append, Bool.or_eq_true] at hd
      refine hd.imp_right fun hd => ?_
      obtain ⟨entry, hentry, rfl⟩ := List.mem_map.1 ((has_iff _ _).1 hd)
      exact (hnone entry hentry).symm
  by_cases hhas : walk.has c = true
  · have hvisit : visit [] c s walk = walk := by
      simp only [visit]
      split
      · rw [if_pos hhas]
      · rw [visitLeaf, if_pos hhas]
    rw [hvisit]
    exact ⟨.refl hwalk, hhas⟩
  · by_cases hbool : c = .builtin .bool ∧ walk.has (.builtin .int) = false
    · obtain ⟨rfl, hint⟩ := hbool
      have hvisit : visit [] (.builtin .bool) s walk =
          walk ++ [(.builtin .bool, s), (.builtin .int, [])] := by
        have hfirst : has (walk ++ [(.builtin .bool, s)]) (.builtin .int) = false := by
          rw [has_append, hint, has_singleton]
          rfl
        simp only [visit]
        rw [if_neg hhas, visitLeaf, visitLeaf, if_neg hhas, hfirst, if_neg Bool.false_ne_true,
          List.append_assoc]
        rfl
      have hinteger : full.find? (.builtin .int) = none :=
        find?_eq_none_of_not_declared full (by simp)
      rw [hvisit]
      refine ⟨happend _ (by simp [hc, hinteger]) ?_, by simp [has]⟩
      simp only [List.mem_cons, List.not_mem_nil, or_false]
      rintro entry (rfl | rfl) a ha huniversal
      · rcases mem_ancestors_of_find?_eq_none hc ha huniversal with rfl | ⟨-, rfl⟩ <;> simp [has]
      · rcases mem_ancestors_of_find?_eq_none hinteger ha huniversal with rfl | ⟨hne, -⟩
        · simp [has]
        · cases hne
    · have hvisit : visit [] c s walk = walk ++ [(c, s)] := by
        simp only [visit]
        split
        · have hint : walk.has (.builtin .int) = true := by
            simpa using fun h => hbool ⟨rfl, h⟩
          have hfirst : has (walk ++ [(.builtin .bool, s)]) (.builtin .int) = true := by
            rw [has_append, hint, Bool.true_or]
          rw [if_neg hhas, visitLeaf, visitLeaf, if_neg hhas, hfirst, if_pos rfl]
        · rw [visitLeaf, if_neg hhas]
      rw [hvisit]
      refine ⟨happend _ (by simpa using hc) ?_, by simp [has]⟩
      simp only [List.mem_singleton]
      rintro entry rfl a ha huniversal
      rw [has_append, Bool.or_eq_true]
      rcases mem_ancestors_of_find?_eq_none hc ha huniversal with rfl | ⟨rfl, rfl⟩
      · exact .inr (by simp [has])
      · exact .inl (by simpa using fun h => hbool ⟨rfl, h⟩)

theorem enterBases_extends {bases : List TypeExpr}
    (hvisit : ∀ b s walk, earlier.find? b = full.find? b →
      Substitution.Closes s (Classes.parameters full b) → Complete full earlier walk →
      Extends full earlier walk (visit earlier b s walk) ∧ (visit earlier b s walk).has b = true)
    (hbases : ∀ base ∈ bases, ∀ b, visitedBase? base = some b →
      earlier.find? b = full.find? b ∧
        (baseSubstitution earlier s base b).Closes (Classes.parameters full b))
    (hwalk : Complete full earlier walk) :
    Extends full earlier walk (bases.foldl (enterBase earlier s) walk) ∧
      ∀ base ∈ bases, ∀ b, visitedBase? base = some b →
        (bases.foldl (enterBase earlier s) walk).has b = true := by
  induction bases generalizing walk with
  | nil => exact ⟨.refl hwalk, List.forall_mem_nil _⟩
  | cons base bases ih =>
      obtain ⟨hbase, hbases⟩ := List.forall_mem_cons.1 hbases
      rw [List.foldl_cons]
      have hfirst : Extends full earlier walk (enterBase earlier s walk base) ∧
          ∀ b, visitedBase? base = some b → (enterBase earlier s walk base).has b = true := by
        unfold enterBase
        cases hb : visitedBase? base with
        | none => exact ⟨.refl hwalk, by simp⟩
        | some b =>
            obtain ⟨hfind, hcloses⟩ := hbase b hb
            obtain ⟨hextends, hhas⟩ := hvisit b _ walk hfind hcloses hwalk
            exact ⟨hextends, by simpa using hhas⟩
      obtain ⟨hrest, hall⟩ := ih hbases hfirst.1.complete
      refine ⟨hfirst.1.trans hrest, List.forall_mem_cons.2 ⟨fun b hb => ?_, hall⟩⟩
      exact hrest.mono b (hfirst.2 b hb)

theorem closes_of_fillsBases {info : ClassInfo} (hinfo : info.FillsBases earlier)
    (hstable : ∀ b i, earlier.find? b = some i → full.find? b = some i)
    (hs : s.Closes info.typeParameters) {base : TypeExpr} (hbase : base ∈ info.listedBases)
    {b : ClassId} (hb : visitedBase? base = some b) :
    earlier.find? b = full.find? b ∧
      (baseSubstitution earlier s base b).Closes (Classes.parameters full b) := by
  have hclass := baseClass?_of_visitedBase? hb
  have hfind : earlier.find? b = full.find? b := by
    by_cases hdeclared : ∃ name, b = .declared name
    · obtain ⟨name, rfl⟩ := hdeclared
      obtain ⟨i, hi⟩ := Option.isSome_iff_exists.1 (hinfo.known base hbase _ hclass)
      rw [hi, hstable _ i hi]
    · have hne : ∀ name, b ≠ .declared name := fun name hname => hdeclared ⟨name, hname⟩
      rw [find?_eq_none_of_not_declared earlier hne, find?_eq_none_of_not_declared full hne]
  refine ⟨hfind, ?_⟩
  rw [baseSubstitution, parameters_congr hfind]
  apply Substitution.closes_ofArguments
  · rw [← parameters_congr hfind, List.length_map]
    exact hinfo.filled base hbase b hclass
  · refine List.forall_mem_map.2 fun a ha => hs.substitute fun v hv => hinfo.own base hbase v ?_
    cases base with
    | generic origin args =>
        rw [TypeExpr.parameters, TypeExpr.parametersOfAll_eq_flatMap]
        exact List.mem_flatMap.2 ⟨a, ha, hv⟩
    | _ => cases ha

theorem ancestor_cases {info : ClassInfo} (hinfo : info.IsDeclared earlier) {a : ClassId}
    (ha : a ∈ info.ancestors) (huniversal : a.isUniversal = false) :
    a = info.id ∨ ∃ base ∈ info.listedBases, ∃ b, visitedBase? base = some b ∧
      (a = b ∨ a ∈ earlier.ancestors b) := by
  rcases hinfo.ancestors a ha with rfl | ⟨b, hb, ha⟩
  · exact .inl rfl
  · have hbuniversal : b.isUniversal = false := by
      rw [← Bool.not_eq_true] at huniversal ⊢
      intro hb
      rcases ha with rfl | ha
      · exact huniversal hb
      · exact huniversal (isUniversal_of_mem_ancestors hb ha)
    obtain hb | ⟨base, hbase, hclass⟩ := hinfo.bases b hb
    · rw [hb] at hbuniversal
      cases hbuniversal
    · exact .inr ⟨base, hbase, b, visitedBase?_of_baseClass? hclass hbuniversal, ha⟩

section

variable {info : ClassInfo} (hfresh : earlier.find? info.id = none)
  (hself : full.find? info.id = some info)

include hfresh hself

theorem ne_of_find?_eq {d : ClassId} (hd : earlier.find? d = full.find? d) : info.id ≠ d := by
  rintro rfl
  rw [hfresh, hself] at hd
  cases hd

theorem find?_cons_of_find?_eq {d : ClassId} (hd : earlier.find? d = full.find? d) :
    find? (info :: earlier) d = full.find? d := by
  rwa [find?_cons_of_ne (ne_of_find?_eq hfresh hself hd)]

theorem complete_tail (h : Complete full (info :: earlier) walk) : Complete full earlier walk :=
  ⟨fun d hd => h.ancestors d (find?_cons_of_find?_eq hfresh hself hd), h.closes⟩

theorem extends_past (hwalk : Complete full (info :: earlier) walk)
    (h : Extends full earlier walk result) : Extends full (info :: earlier) walk result := by
  refine ⟨⟨?_, h.complete.closes⟩, h.mono, fun d hd => ?_⟩
  · intro d hd hhas a ha huniversal
    by_cases hid : info.id = d
    · subst hid
      have hold := (h.known _ hhas).resolve_right fun heq => ne_of_find?_eq hfresh hself heq rfl
      exact h.mono a (hwalk.ancestors _ hd hold a ha huniversal)
    · rw [find?_cons_of_ne hid] at hd
      exact h.complete.ancestors d hd hhas a ha huniversal
  · exact (h.known d hd).imp_right (find?_cons_of_find?_eq hfresh hself)

theorem extends_entered
    (hancestors : ∀ a ∈ full.ancestors info.id, a.isUniversal = false → result.has a = true)
    (h : Extends full earlier (walk ++ [(info.id, s)]) result) :
    Extends full (info :: earlier) walk result := by
  refine ⟨⟨?_, h.complete.closes⟩, fun d hd => h.mono d ?_, fun d hd => ?_⟩
  · intro d hd hhas a ha huniversal
    by_cases hid : info.id = d
    · subst hid
      exact hancestors a ha huniversal
    · rw [find?_cons_of_ne hid] at hd
      exact h.complete.ancestors d hd hhas a ha huniversal
  · rw [has_append, hd, Bool.true_or]
  · rcases h.known d hd with hd | hd
    · rw [has_append, has_singleton, Bool.or_eq_true, decide_eq_true_iff] at hd
      rcases hd with hd | rfl
      · exact .inl hd
      · exact .inr (by rw [find?_cons_self, hself])
    · exact .inr (find?_cons_of_find?_eq hfresh hself hd)

end

/-- A visit keeps a walk complete, since the bases of a class that is new are entered before the class
itself counts. -/
theorem visit_extends (hdeclared : classes.AreDeclared) (hfill : FillBases classes)
    (hstable : ∀ b i, classes.find? b = some i → full.find? b = some i)
    (hc : classes.find? c = full.find? c) (hs : s.Closes (Classes.parameters full c))
    (hwalk : Complete full classes walk) :
    Extends full classes walk (visit classes c s walk) ∧ (visit classes c s walk).has c = true := by
  induction hdeclared generalizing c s walk with
  | nil => exact visit_nil_extends hc.symm hwalk
  | @cons info earlier hinfo hearlier ih =>
      obtain ⟨⟨hfresh, hknown, hfilled, hown⟩, hfill⟩ := hfill
      have hself : full.find? info.id = some info := hstable _ _ (find?_cons_self info earlier)
      have hstable' : ∀ b i, earlier.find? b = some i → full.find? b = some i := by
        intro b i hb
        have hid : info.id ≠ b := by
          rintro rfl
          rw [hfresh] at hb
          cases hb
        exact hstable b i (by rwa [find?_cons_of_ne hid])
      have htail := complete_tail hfresh hself hwalk
      rw [visit_cons]
      split
      · next hid =>
          subst hid
          split
          · next hhas => exact ⟨.refl hwalk, hhas⟩
          · have hpush : Complete full earlier (walk ++ [(info.id, s)]) := by
              refine htail.append ?_ (by simpa using hs)
              simp only [List.mem_singleton]
              rintro entry rfl hfind
              exact absurd rfl (ne_of_find?_eq hfresh hself hfind)
            have hparams : Classes.parameters full info.id = info.typeParameters := by
              rw [Classes.parameters, hself]
              exact hinfo.parameters hown
            rw [hparams] at hs
            have hbases : ∀ base ∈ info.listedBases, ∀ b, visitedBase? base = some b → _ :=
              fun base hbase b hb =>
                closes_of_fillsBases ⟨hfresh, hknown, hfilled, hown⟩ hstable' hs hbase hb
            obtain ⟨hextends, hentered⟩ := enterBases_extends
              (fun b s walk hb hs hwalk => ih hfill hstable' hb hs hwalk) hbases hpush
            generalize info.listedBases.foldl (enterBase earlier s) _ = result at *
            have hroot : result.has info.id = true :=
              hextends.mono _ (by rw [has_append, has_singleton]; simp)
            refine ⟨extends_entered hfresh hself (fun a ha huniversal => ?_) hextends, hroot⟩
            rw [ancestors_of_find? hself] at ha
            rcases ancestor_cases hinfo ha huniversal with rfl | ⟨base, hbase, b, hb, rfl | ha⟩
            · exact hroot
            · exact hentered base hbase a hb
            · have hfind := (hbases base hbase b hb).1
              rw [ancestors_congr hfind] at ha
              exact hextends.complete.ancestors b hfind (hentered base hbase b hb) a ha huniversal
      · next hid =>
          rw [find?_cons_of_ne hid] at hc
          obtain ⟨hextends, hhas⟩ := ih hfill hstable' hc hs htail
          exact ⟨extends_past hfresh hself hwalk hextends, hhas⟩

theorem visit_complete (hdeclared : full.AreDeclared) (hfill : FillBases full)
    (hs : s.Closes (Classes.parameters full c)) :
    Complete full full (visit full c s []) ∧ (visit full c s []).has c = true := by
  have hempty : Complete full full [] := ⟨by simp [has], List.forall_mem_nil _⟩
  obtain ⟨hextends, hhas⟩ := visit_extends hdeclared hfill (fun _ _ => id) rfl hs hempty
  exact ⟨hextends.complete, hhas⟩

end Classes

namespace Universe

variable {u : Universe}

/-- The annotations of the readers of a class mention no type variables but its own parameters. -/
def HintsOwned (u : Universe) (info : ClassInfo) : Prop :=
  ∀ member ∈ info.members, ∀ f isAttribute, member.reader? = some (f, isAttribute) →
    ∀ hint, u.returnHint f info.id = .ok hint → ∀ v ∈ hint.type.parameters, v ∈ info.typeParameters

theorem parameters_stripAnnotated {t : TypeExpr} (h : t.parameters = []) :
    t.stripAnnotated.1.parameters = [] := by
  cases t <;> exact h

theorem declareAll_closed {walk : Instantiation} {members : List (ClassId × Member)}
    {declared : List DeclaredProperty}
    (hmembers : ∀ entry ∈ members, ∀ f isAttribute, entry.2.reader? = some (f, isAttribute) →
      ∀ hint, u.returnHint f entry.1 = .ok hint → (walk.resolve entry.1 hint.type).parameters = [])
    (h : u.declareAll walk members = .ok declared) : ∀ p ∈ declared, p.type.parameters = [] := by
  induction members generalizing declared with
  | nil =>
      cases h
      simp
  | cons entry rest ih =>
      obtain ⟨c, member⟩ := entry
      obtain ⟨hmember, hrest⟩ := List.forall_mem_cons.1 hmembers
      obtain ⟨first, hfirst, h⟩ := bind_ok h
      obtain ⟨others, hothers, h⟩ := bind_ok h
      cases h
      intro p hp
      rcases List.mem_append.1 hp with hp | hp
      · unfold declare at hfirst
        split at hfirst
        · cases hfirst
          cases hp
        · next f isAttribute hreader =>
            obtain ⟨hint, hhint, hfirst⟩ := bind_ok hfirst
            cases hfirst
            obtain rfl := List.mem_singleton.1 hp
            exact parameters_stripAnnotated (hmember f isAttribute hreader hint hhint)
      · exact ih hrest hothers p hp

end Universe

namespace ModuleDeclaration

/-- From a class with all its arguments, none of them with a type variable, the whole hierarchy is
walked, and no property of an ancestor has a type with a type variable. -/
theorem discover_closed (m : ModuleDeclaration) (hfill : Classes.FillBases m.toUniverse.classes)
    (hhints : ∀ info ∈ m.toUniverse.classes, m.toUniverse.HintsOwned info) {resolved : TypeExpr}
    (hclass : resolved.IsClassType) (hclosed : resolved.parameters = [])
    (hfull : (Classes.parameters m.toUniverse.classes resolved.erase).length ≤
      resolved.arguments.length) {d : ClassId}
    (hd : d ∈ m.toUniverse.classes.ancestors resolved.erase) :
    let u := m.toUniverse
    (∀ c ∈ u.classes.ancestors resolved.erase, c.isUniversal = false →
      (u.instantiation resolved).has c = true) ∧
    ∀ declared, u.discover resolved (.cls d) = .ok declared →
      ∀ p ∈ declared, p.type.parameters = [] := by
  intro u
  have hargs : ∀ a ∈ resolved.arguments, a.parameters = [] := by
    cases hclass with
    | cls c => simp [TypeExpr.arguments]
    | generic origin args =>
        rw [TypeExpr.parameters, TypeExpr.parametersOfAll_eq_flatMap] at hclosed
        exact List.flatMap_eq_nil_iff.1 hclosed
  have hwalk : Instantiation.Complete u.classes u.classes (u.instantiation resolved) ∧
      (u.instantiation resolved).has resolved.erase = true :=
    Classes.visit_complete m.areDeclared_toUniverse hfill
      (Substitution.closes_ofArguments hfull hargs)
  obtain ⟨⟨hancestors, hcloses⟩, hroot⟩ := hwalk
  have hall := hancestors resolved.erase rfl hroot
  refine ⟨hall, fun declared hdiscover => ?_⟩
  have hmembers : u.declareAll (u.discoveryInstantiation resolved (.cls d))
      (u.classes.publicMembers (u.classes.ancestors d)) = .ok declared := by
    simpa [Universe.discover, TypeExpr.isKey, Universe.definitionAncestors?] using hdiscover
  refine Universe.declareAll_closed ?_ hmembers
  intro entry hentry f isAttribute hreader hint hhint
  obtain ⟨hancestor, huniversal, hown⟩ := Classes.mem_publicMembers hentry
  obtain ⟨info, hfind, hmember⟩ := Classes.exists_of_reader? hown (by simp [hreader])
  have hdwalk : (u.instantiation resolved).has d = true := by
    refine hall d hd ?_
    rw [← Bool.not_eq_true] at huniversal ⊢
    exact fun h => huniversal (Classes.isUniversal_of_mem_ancestors h hancestor)
  have hwalk : u.discoveryInstantiation resolved (.cls d) = u.instantiation resolved := by
    simp [Universe.discoveryInstantiation, hdwalk]
  obtain ⟨hinfo, hid⟩ := Classes.mem_of_find? hfind
  have hparams : Classes.parameters u.classes entry.1 = info.typeParameters := by
    obtain ⟨earlier, hdeclared⟩ := m.areDeclared_toUniverse.exists_of_mem hinfo
    rw [Classes.parameters, hfind]
    exact hdeclared.parameters (Classes.ownsParameters_of_fillBases hfill info hinfo)
  have hentered := hancestors d rfl hdwalk entry.1 hancestor huniversal
  have hentry := Instantiation.closes_entry hcloses hentered
  rw [hparams] at hentry
  rw [hwalk, Instantiation.resolve]
  refine hentry.substitute (hhints info hinfo entry.2 hmember f isAttribute hreader hint ?_)
  rwa [hid]

/-- A hierarchy in which one class is reached in two ways, with different arguments. -/
def diamond : ModuleDeclaration where
  name := "diamond"
  types := []
  classes :=
    [⟨"Root", .concrete, [⟨"V", none⟩], [],
        [⟨"items", .method ⟨"Root.items", "items", [⟨"self", .positional, false, none⟩],
          some (.apply "list" [.name "V"]), .nothing⟩, false⟩], []⟩,
      ⟨"Left", .concrete, [⟨"A", none⟩], [.apply "Root" [.name "A"]], [], []⟩,
      ⟨"Right", .concrete, [⟨"B", none⟩], [.apply "Root" [.apply "list" [.name "B"]]], [], []⟩,
      ⟨"Leaf", .concrete, [⟨"X", none⟩], [.apply "Left" [.name "X"], .apply "Right" [.name "X"]],
        [], []⟩]
  functions := []
  values := []

theorem discover_closed_diamond :
    let u := diamond.toUniverse
    let leaf : TypeExpr := .generic (.declared "Leaf") [.ofBuiltin .int]
    let root : ClassId := .declared "Root"
    Classes.FillBases u.classes ∧ (∀ info ∈ u.classes, u.HintsOwned info) ∧ leaf.IsClassType ∧
      leaf.parameters = [] ∧
      (Classes.parameters u.classes leaf.erase).length ≤ leaf.arguments.length ∧
      root ∈ u.classes.ancestors leaf.erase ∧ (u.instantiation leaf).has root = true ∧
      ∃ declared, u.discover leaf (.cls root) = .ok declared ∧
        declared.map (fun p => (p.name, p.type)) =
          [("items", .generic (.builtin .list) [.ofBuiltin .int])] ∧
        ∀ p ∈ declared, p.type.parameters = [] := by
  intro u leaf root
  have hfill : Classes.FillBases u.classes := by decide +kernel
  have hhints : ∀ info ∈ u.classes, u.HintsOwned info := by
    intro info hinfo member hmember f isAttribute hreader hint hhint
    rcases hinfo with _ | ⟨_, _ | ⟨_, _ | ⟨_, _ | ⟨_, hinfo⟩⟩⟩⟩
    · cases hmember
    · cases hmember
    · cases hmember
    · rcases hmember with _ | ⟨_, hmember⟩
      · cases hreader
        cases hhint
        decide +kernel
      · cases hmember
    · cases hinfo
  have hclass : leaf.IsClassType := .generic _ _
  have hfull : (Classes.parameters u.classes leaf.erase).length ≤ leaf.arguments.length := by
    decide +kernel
  have hroot : root ∈ u.classes.ancestors leaf.erase := by decide +kernel
  obtain ⟨hwalked, hclosed⟩ := discover_closed diamond hfill hhints hclass rfl hfull hroot
  exact ⟨hfill, hhints, hclass, rfl, hfull, hroot, hwalked root hroot rfl, _, rfl, rfl,
    hclosed _ rfl⟩

end ModuleDeclaration

end RecordBinding
