import Mathlib.Algebra.Order.Field.Rat
import Mathlib.Data.List.Forall2
import Mathlib.Tactic.FieldSimp
import RecordBinding.Registry.Basic

namespace RecordBinding

namespace Number

/-- The place of a number on the extended line: nowhere, at one of the two ends, or at a fraction. -/
def Exact.value : Exact → Option (Bool ⊕ ℚ)
  | .notANumber => none
  | .minusInfinity => some (.inl false)
  | .plusInfinity => some (.inl true)
  | .fraction n d => some (.inr (n / d))

theorem exact_denominator_pos (a : Number) {n : Int} {d : Nat} (h : a.exact = .fraction n d) :
    0 < d := by
  cases a with
  | int i =>
      obtain ⟨-, rfl⟩ := Exact.fraction.inj h
      exact Nat.one_pos
  | float x =>
      simp only [exact, exactFloat] at h
      split at h
      · cases h
      · split at h <;> cases h
      · obtain ⟨-, rfl⟩ := Exact.fraction.inj h
        exact Nat.one_pos
      · obtain ⟨-, rfl⟩ := Exact.fraction.inj h
        rw [Nat.one_shiftLeft]
        exact Nat.two_pow_pos _

theorem fraction_eq_iff {n m : Int} {d e : Nat} (hd : 0 < d) (he : 0 < e) :
    (n / d : ℚ) = m / e ↔ n * (e : Int) = m * (d : Int) := by
  have hd' : (d : ℚ) ≠ 0 := by exact_mod_cast hd.ne'
  have he' : (e : ℚ) ≠ 0 := by exact_mod_cast he.ne'
  rw [div_eq_div_iff hd' he']
  exact_mod_cast Iff.rfl

/-- Numbers are one exactly when they have one place on the extended line. -/
theorem same_iff (a b : Number) : a.same b = true ↔ a.exact.value = b.exact.value := by
  have ha := @exact_denominator_pos a
  have hb := @exact_denominator_pos b
  unfold same
  cases hx : a.exact <;> cases hy : b.exact <;> simp [Exact.compare?, Exact.value]
  case fraction.fraction n d m e =>
    exact (fraction_eq_iff (ha hx) (hb hy)).symm

end Number

namespace Scalar

/-- What equality looks at in a scalar: a text, or a place on the extended line. -/
def key : Scalar → Option (String ⊕ Option (Bool ⊕ ℚ))
  | null => none
  | str s => some (.inl s)
  | a => a.number?.map fun x => .inr x.exact.value

theorem same_iff (a b : Scalar) : a.same b = true ↔ a.key = b.key := by
  cases a <;> cases b <;> simp [same, number?, key, Number.same_iff]

theorem sameKind_iff (a b : Scalar) : a.sameKind b = true ↔ Value.scalarClass a = Value.scalarClass b := by
  cases a <;> cases b <;> simp [sameKind, Value.scalarClass, ClassId.noneType]

theorem identical_iff (a b : Scalar) :
    a.identical b = true ↔ Value.scalarClass a = Value.scalarClass b ∧ a.key = b.key := by
  rw [identical, Bool.and_eq_true, sameKind_iff, same_iff]

theorem sameList_iff (as bs : List Scalar) :
    sameList as bs = true ↔ as.map key = bs.map key := by
  induction as generalizing bs with
  | nil => cases bs <;> simp [sameList]
  | cons a as ih => cases bs <;> simp [sameList, same_iff, ih]

theorem sameList_append {as bs as' bs' : List Scalar} (h : sameList as bs = true)
    (h' : sameList as' bs' = true) : sameList (as ++ as') (bs ++ bs') = true := by
  rw [sameList_iff] at *
  rw [List.map_append, List.map_append, h, h']

end Scalar

theorem forall₂_symm_of_mem {α : Type*} {r : α → α → Prop} {as bs : List α}
    (hsymm : ∀ a ∈ as, ∀ b, r a b → r b a) (h : List.Forall₂ r as bs) : List.Forall₂ r bs as := by
  induction h with
  | nil => exact .nil
  | cons hab _ ih =>
      exact .cons (hsymm _ List.mem_cons_self _ hab)
        (ih fun a ha => hsymm a (List.mem_cons_of_mem _ ha))

theorem forall₂_trans_of_mem {α : Type*} {r : α → α → Prop} {as bs cs : List α}
    (htrans : ∀ a ∈ as, ∀ b c, r a b → r b c → r a c) (h : List.Forall₂ r as bs)
    (h' : List.Forall₂ r bs cs) : List.Forall₂ r as cs := by
  induction h generalizing cs with
  | nil => exact h'
  | cons hab _ ih =>
      cases h' with
      | cons hbc h' =>
          exact .cons (htrans _ List.mem_cons_self _ _ hab hbc)
            (ih (fun a ha => htrans a (List.mem_cons_of_mem _ ha)) h')

/-- Two lists agree as sets, up to a relation between their items. -/
def SameMembers {α : Type*} (r : α → α → Prop) (as bs : List α) : Prop :=
  (∀ a ∈ as, ∃ b ∈ bs, r a b) ∧ ∀ b ∈ bs, ∃ a ∈ as, r a b

namespace SameMembers

variable {α : Type*} {r : α → α → Prop} {as bs cs : List α}

theorem refl (h : ∀ a ∈ as, r a a) : SameMembers r as as :=
  ⟨fun a ha => ⟨a, ha, h a ha⟩, fun a ha => ⟨a, ha, h a ha⟩⟩

theorem symm (hsymm : ∀ a ∈ as, ∀ b, r a b → r b a) (h : SameMembers r as bs) :
    SameMembers r bs as := by
  constructor
  · intro b hb
    obtain ⟨a, ha, hab⟩ := h.2 b hb
    exact ⟨a, ha, hsymm a ha b hab⟩
  · intro a ha
    obtain ⟨b, hb, hab⟩ := h.1 a ha
    exact ⟨b, hb, hsymm a ha b hab⟩

theorem trans (htrans : ∀ a ∈ as, ∀ b c, r a b → r b c → r a c) (hab : SameMembers r as bs)
    (hbc : SameMembers r bs cs) : SameMembers r as cs := by
  constructor
  · intro a ha
    obtain ⟨b, hb, h⟩ := hab.1 a ha
    obtain ⟨c, hc, h'⟩ := hbc.1 b hb
    exact ⟨c, hc, htrans a ha b c h h'⟩
  · intro c hc
    obtain ⟨b, hb, h'⟩ := hbc.2 c hc
    obtain ⟨a, ha, h⟩ := hab.2 b hb
    exact ⟨a, ha, htrans a ha b c h h'⟩

theorem append {as' bs' : List α} (h : SameMembers r as bs) (h' : SameMembers r as' bs') :
    SameMembers r (as ++ as') (bs ++ bs') := by
  constructor
  · intro a ha
    rcases List.mem_append.1 ha with ha | ha
    · obtain ⟨b, hb, hab⟩ := h.1 a ha
      exact ⟨b, List.mem_append_left _ hb, hab⟩
    · obtain ⟨b, hb, hab⟩ := h'.1 a ha
      exact ⟨b, List.mem_append_right _ hb, hab⟩
  · intro b hb
    rcases List.mem_append.1 hb with hb | hb
    · obtain ⟨a, ha, hab⟩ := h.2 b hb
      exact ⟨a, List.mem_append_left _ ha, hab⟩
    · obtain ⟨a, ha, hab⟩ := h'.2 b hb
      exact ⟨a, List.mem_append_right _ ha, hab⟩

end SameMembers

namespace Scalar

theorem sameSet_iff (as bs : List Scalar) :
    sameSet as bs = true ↔ SameMembers (fun a b => a.identical b = true) as bs := by
  have hsymm : ∀ a b : Scalar, b.identical a = a.identical b := fun a b => by
    rw [Bool.eq_iff_iff, identical_iff, identical_iff, eq_comm, @eq_comm _ b.key]
  simp only [sameSet, Bool.and_eq_true, List.all_eq_true, List.any_eq_true, SameMembers, hsymm]

end Scalar

namespace Datum

/-- The plain values that a plain value is made of. -/
def parts : Datum → List Datum
  | list items => items
  | map entries => entries.flatMap fun entry => [entry.1, entry.2]
  | method _ receiver => [receiver]
  | _ => []

theorem sizeOf_lt_of_mem_parts {p d : Datum} (h : p ∈ d.parts) : sizeOf p < sizeOf d := by
  cases d <;> simp only [parts, List.mem_flatMap, List.mem_cons, List.not_mem_nil, or_false] at h
  case list items =>
    have := List.sizeOf_lt_of_mem h
    simp only [list.sizeOf_spec]
    omega
  case map entries =>
    obtain ⟨entry, hentry, rfl | rfl⟩ := h <;>
    · have := List.sizeOf_lt_of_mem hentry
      obtain ⟨key, value⟩ := entry
      simp only [map.sizeOf_spec, Prod.mk.sizeOf_spec] at this ⊢
      omega
  case method name receiver =>
    subst h
    simp only [method.sizeOf_spec]
    omega

theorem induct {motive : Datum → Prop} (step : ∀ d, (∀ p ∈ d.parts, motive p) → motive d)
    (d : Datum) : motive d :=
  step d fun p _ => induct step p
termination_by sizeOf d
decreasing_by exact sizeOf_lt_of_mem_parts ‹_›

theorem sameList_iff (as bs : List Datum) :
    sameList as bs = true ↔ List.Forall₂ (fun a b => a.same b = true) as bs := by
  induction as generalizing bs with
  | nil => cases bs <;> simp [sameList]
  | cons a as ih => cases bs <;> simp [sameList, ih]

theorem entriesIn_iff (as bs : List (Datum × Datum)) :
    entriesIn as bs = true ↔
      ∀ x ∈ as, ∃ y ∈ bs, x.1.same y.1 = true ∧ x.2.same y.2 = true := by
  induction as with
  | nil => simp [entriesIn]
  | cons x as ih =>
      rw [entriesIn, Bool.and_eq_true, ih, List.forall_mem_cons, List.any_eq_true]
      simp only [Bool.and_eq_true]

theorem someEntry_iff (as : List (Datum × Datum)) (y : Datum × Datum) :
    someEntry as y = true ↔ ∃ x ∈ as, x.1.same y.1 = true ∧ x.2.same y.2 = true := by
  induction as with
  | nil => simp [someEntry]
  | cons x as ih =>
      rw [someEntry, Bool.or_eq_true, ih, Bool.and_eq_true, List.exists_mem_cons_iff]

/-- One layer of equality: the forms agree, and their parts are related. -/
inductive SameForm (r : Datum → Datum → Prop) : Datum → Datum → Prop
  | scalar {a b : Scalar} (h : a.key = b.key) : SameForm r (.scalar a) (.scalar b)
  | bytes (value : List UInt8) : SameForm r (.bytes value) (.bytes value)
  | list {as bs : List Datum} (h : List.Forall₂ r as bs) : SameForm r (.list as) (.list bs)
  | map {as bs : List (Datum × Datum)} (hlength : as.length = bs.length)
      (h : SameMembers (fun x y => r x.1 y.1 ∧ r x.2 y.2) as bs) : SameForm r (.map as) (.map bs)
  | cls (c : ClassId) : SameForm r (.cls c) (.cls c)
  | function (name : String) : SameForm r (.function name) (.function name)
  | method (name : String) {a b : Datum} (h : r a b) :
      SameForm r (.method name a) (.method name b)
  | individual (c c' : ClassId) (id : Nat) : SameForm r (.individual c id) (.individual c' id)
  | other (kind text : String) : SameForm r (.other kind text) (.other kind text)

theorem same_iff (d e : Datum) : d.same e = true ↔ SameForm (fun a b => a.same b = true) d e := by
  constructor
  · intro h
    unfold same at h
    split at h
    · exact .scalar ((Scalar.same_iff _ _).1 h)
    · obtain rfl := eq_of_beq h
      exact .bytes _
    · exact .list ((sameList_iff _ _).1 h)
    · simp only [Bool.and_eq_true, beq_iff_eq, entriesIn_iff, List.all_eq_true, someEntry_iff] at h
      exact .map h.1.1 ⟨h.1.2, h.2⟩
    · obtain rfl := of_decide_eq_true h
      exact .cls _
    · obtain rfl := eq_of_beq h
      exact .function _
    · rw [Bool.and_eq_true, beq_iff_eq] at h
      obtain ⟨rfl, h⟩ := h
      exact .method _ h
    · obtain rfl := eq_of_beq h
      exact .individual _ _ _
    · simp only [Bool.and_eq_true, beq_iff_eq] at h
      obtain ⟨rfl, rfl⟩ := h
      exact .other _ _
    · cases h
  · intro h
    cases h with
    | scalar h => rwa [same, Scalar.same_iff]
    | list h => rwa [same, sameList_iff]
    | map hlength h =>
        simp only [same, Bool.and_eq_true, beq_iff_eq, entriesIn_iff, List.all_eq_true,
          someEntry_iff]
        exact ⟨⟨hlength, h.1⟩, h.2⟩
    | method name h => simpa [same] using h
    | _ => simp [same]

theorem mem_parts_of_mem_entries {entries : List (Datum × Datum)} {x : Datum × Datum}
    (hx : x ∈ entries) : x.1 ∈ (map entries).parts ∧ x.2 ∈ (map entries).parts :=
  ⟨List.mem_flatMap.2 ⟨x, hx, by simp⟩, List.mem_flatMap.2 ⟨x, hx, by simp⟩⟩

theorem same_refl (d : Datum) : d.same d = true := by
  induction d using induct with
  | step d ih =>
      rw [same_iff]
      cases d with
      | list items => exact .list (List.forall₂_same.2 ih)
      | map entries =>
          exact .map rfl <| .refl fun x hx =>
            ⟨ih _ (mem_parts_of_mem_entries hx).1, ih _ (mem_parts_of_mem_entries hx).2⟩
      | method name receiver => exact .method name (ih receiver (by simp [parts]))
      | scalar a => exact .scalar rfl
      | _ => constructor

theorem same_symm {d e : Datum} (h : d.same e = true) : e.same d = true := by
  induction d using induct generalizing e with
  | step d ih =>
      rw [same_iff] at h ⊢
      cases h with
      | scalar h => exact .scalar h.symm
      | list h => exact .list (forall₂_symm_of_mem (fun a ha b hab => ih a ha hab) h)
      | map hlength h =>
          exact .map hlength.symm <| h.symm fun x hx y hxy =>
            ⟨ih _ (mem_parts_of_mem_entries hx).1 hxy.1,
              ih _ (mem_parts_of_mem_entries hx).2 hxy.2⟩
      | method name h => exact .method name (ih _ (by simp [parts]) h)
      | _ => constructor

theorem same_trans {d e f : Datum} (h : d.same e = true) (h' : e.same f = true) :
    d.same f = true := by
  induction d using induct generalizing e f with
  | step d ih =>
      rw [same_iff] at h h' ⊢
      cases h with
      | scalar h =>
          cases h' with
          | scalar h' => exact .scalar (h.trans h')
      | list h =>
          cases h' with
          | list h' =>
              exact .list (forall₂_trans_of_mem (fun a ha b c hab hbc => ih a ha hab hbc) h h')
      | map hlength h =>
          cases h' with
          | map hlength' h' =>
              exact .map (hlength.trans hlength') <| h.trans (fun x hx y z hxy hyz =>
                ⟨ih _ (mem_parts_of_mem_entries hx).1 hxy.1 hyz.1,
                  ih _ (mem_parts_of_mem_entries hx).2 hxy.2 hyz.2⟩) h'
      | method name h =>
          cases h' with
          | method name h' => exact .method name (ih _ (by simp [parts]) h h')
      | individual c c' id =>
          cases h' with
          | individual c' c'' id => exact .individual c c'' id
      | _ => exact h'

end Datum

namespace TypeExpr

/-- The types that equality looks at in a type. -/
def parts : TypeExpr → List TypeExpr
  | newtype _ base => [base]
  | .alias _ target => [target]
  | generic _ args => args
  | union _ members => members
  | annotated inner _ => [inner]
  | _ => []

theorem sizeOf_lt_of_mem_parts {p t : TypeExpr} (h : p ∈ t.parts) : sizeOf p < sizeOf t := by
  cases t <;> simp only [parts, List.mem_cons, List.not_mem_nil, or_false] at h
  case generic origin args =>
    have := List.sizeOf_lt_of_mem h
    simp only [generic.sizeOf_spec]
    omega
  case union style members =>
    have := List.sizeOf_lt_of_mem h
    simp only [union.sizeOf_spec]
    omega
  all_goals
    subst h
    simp only [newtype.sizeOf_spec, alias.sizeOf_spec, annotated.sizeOf_spec]
    omega

theorem induct {motive : TypeExpr → Prop} (step : ∀ t, (∀ p ∈ t.parts, motive p) → motive t)
    (t : TypeExpr) : motive t :=
  step t fun p _ => induct step p
termination_by sizeOf t
decreasing_by exact sizeOf_lt_of_mem_parts ‹_›

theorem sameList_iff (as bs : List TypeExpr) :
    sameList as bs = true ↔ List.Forall₂ (fun a b => a.same b = true) as bs := by
  induction as generalizing bs with
  | nil => cases bs <;> simp [sameList]
  | cons a as ih => cases bs <;> simp [sameList, ih]

theorem eachIn_iff (as bs : List TypeExpr) :
    eachIn as bs = true ↔ ∀ a ∈ as, ∃ b ∈ bs, a.same b = true := by
  induction as with
  | nil => simp [eachIn]
  | cons a as ih => rw [eachIn, Bool.and_eq_true, ih, List.forall_mem_cons, List.any_eq_true]

theorem someSame_iff (as : List TypeExpr) (b : TypeExpr) :
    someSame as b = true ↔ ∃ a ∈ as, a.same b = true := by
  induction as with
  | nil => simp [someSame]
  | cons a as ih => rw [someSame, Bool.or_eq_true, ih, List.exists_mem_cons_iff]

/-- One layer of equality: the forms agree, and their parts are related. -/
inductive SameForm (r : TypeExpr → TypeExpr → Prop) : TypeExpr → TypeExpr → Prop
  | none : SameForm r .none .none
  | cls (c : ClassId) : SameForm r (.cls c) (.cls c)
  | selfType : SameForm r .selfType .selfType
  | typeVar (v : TypeVar) : SameForm r (.typeVar v) (.typeVar v)
  | newtype (name : String) {a b : TypeExpr} (h : r a b) :
      SameForm r (.newtype name a) (.newtype name b)
  | synonym (name : String) {a b : TypeExpr} (h : r a b) :
      SameForm r (.alias name a) (.alias name b)
  | generic (origin : ClassId) {as bs : List TypeExpr} (h : List.Forall₂ r as bs) :
      SameForm r (.generic origin as) (.generic origin bs)
  | union (style style' : UnionStyle) {as bs : List TypeExpr} (h : SameMembers r as bs) :
      SameForm r (.union style as) (.union style' bs)
  | annotated {a b : TypeExpr} {ms ms' : List Scalar} (h : r a b)
      (hmetadata : Scalar.sameList ms ms' = true) : SameForm r (.annotated a ms) (.annotated b ms')
  | literal {as bs : List Scalar} (h : SameMembers (fun a b => a.identical b = true) as bs) :
      SameForm r (.literal as) (.literal bs)
  | unresolved (source : String) : SameForm r (.unresolved source) (.unresolved source)
  | forward (source : String) : SameForm r (.forward source) (.forward source)
  | datum {d e : Datum} (h : d.same e = true) : SameForm r (.datum d) (.datum e)

theorem same_iff (a b : TypeExpr) :
    a.same b = true ↔ SameForm (fun a b => a.same b = true) a b := by
  constructor
  · intro h
    unfold same at h
    split at h
    · exact .none
    · obtain rfl := of_decide_eq_true h
      exact .cls _
    · exact .selfType
    · obtain rfl := of_decide_eq_true h
      exact .typeVar _
    · rw [Bool.and_eq_true, beq_iff_eq] at h
      obtain ⟨rfl, h⟩ := h
      exact .newtype _ h
    · rw [Bool.and_eq_true, beq_iff_eq] at h
      obtain ⟨rfl, h⟩ := h
      exact .synonym _ h
    · rw [Bool.and_eq_true, decide_eq_true_iff, sameList_iff] at h
      obtain ⟨rfl, h⟩ := h
      exact .generic _ h
    · simp only [Bool.and_eq_true, eachIn_iff, List.all_eq_true, someSame_iff] at h
      exact .union _ _ h
    · rw [Bool.and_eq_true] at h
      exact .annotated h.1 h.2
    · exact .literal ((Scalar.sameSet_iff _ _).1 h)
    · obtain rfl := eq_of_beq h
      exact .unresolved _
    · obtain rfl := eq_of_beq h
      exact .forward _
    · exact .datum h
    · cases h
  · intro h
    cases h with
    | newtype name h => simpa [same] using h
    | synonym name h => simpa [same] using h
    | generic origin h => simpa [same, sameList_iff] using h
    | union style style' h =>
        simp only [same, Bool.and_eq_true, eachIn_iff, List.all_eq_true, someSame_iff]
        exact h
    | annotated h hmetadata => simp [same, h, hmetadata]
    | literal h => rwa [same, Scalar.sameSet_iff]
    | datum h => rwa [same]
    | _ => simp [same, TypeVar.same]

theorem same_refl (t : TypeExpr) : t.same t = true := by
  induction t using induct with
  | step t ih =>
      rw [same_iff]
      cases t with
      | newtype name base => exact .newtype name (ih base (by simp [parts]))
      | «alias» name target => exact .synonym name (ih target (by simp [parts]))
      | generic origin args => exact .generic origin (List.forall₂_same.2 ih)
      | union style members => exact .union style style (.refl ih)
      | annotated inner metadata =>
          exact .annotated (ih inner (by simp [parts])) (Scalar.sameList_iff _ _ |>.2 rfl)
      | literal items => exact .literal (.refl fun a _ => (Scalar.identical_iff a a).2 ⟨rfl, rfl⟩)
      | datum d => exact .datum d.same_refl
      | _ => constructor

theorem same_symm {a b : TypeExpr} (h : a.same b = true) : b.same a = true := by
  induction a using induct generalizing b with
  | step a ih =>
      rw [same_iff] at h ⊢
      cases h with
      | newtype name h => exact .newtype name (ih _ (by simp [parts]) h)
      | synonym name h => exact .synonym name (ih _ (by simp [parts]) h)
      | generic origin h => exact .generic origin (forall₂_symm_of_mem (fun a ha b => ih a ha) h)
      | union style style' h => exact .union style' style (h.symm fun a ha b => ih a ha)
      | annotated h hmetadata =>
          rw [Scalar.sameList_iff] at hmetadata
          exact .annotated (ih _ (by simp [parts]) h) ((Scalar.sameList_iff _ _).2 hmetadata.symm)
      | literal h =>
          refine .literal (h.symm fun a _ b hab => ?_)
          rw [Scalar.identical_iff] at hab ⊢
          exact ⟨hab.1.symm, hab.2.symm⟩
      | datum h => exact .datum (Datum.same_symm h)
      | _ => constructor

theorem same_trans {a b c : TypeExpr} (h : a.same b = true) (h' : b.same c = true) :
    a.same c = true := by
  induction a using induct generalizing b c with
  | step a ih =>
      rw [same_iff] at h h' ⊢
      cases h with
      | newtype name h =>
          cases h' with
          | newtype name h' => exact .newtype name (ih _ (by simp [parts]) h h')
      | synonym name h =>
          cases h' with
          | synonym name h' => exact .synonym name (ih _ (by simp [parts]) h h')
      | generic origin h =>
          cases h' with
          | generic origin h' =>
              exact .generic origin (forall₂_trans_of_mem (fun a ha b c => ih a ha) h h')
      | union style style' h =>
          cases h' with
          | union style' style'' h' => exact .union style style'' (h.trans (fun a ha b c => ih a ha) h')
      | annotated h hmetadata =>
          cases h' with
          | annotated h' hmetadata' =>
              rw [Scalar.sameList_iff] at hmetadata hmetadata'
              exact .annotated (ih _ (by simp [parts]) h h')
                ((Scalar.sameList_iff _ _).2 (hmetadata.trans hmetadata'))
      | literal h =>
          cases h' with
          | literal h' =>
              refine .literal (h.trans (fun a _ b c hab hbc => ?_) h')
              rw [Scalar.identical_iff] at hab hbc ⊢
              exact ⟨hab.1.trans hbc.1, hab.2.trans hbc.2⟩
      | datum h =>
          cases h' with
          | datum h' => exact .datum (Datum.same_trans h h')
      | _ => exact h'

/-- Equality of type expressions is an equivalence, as keys of a cache need it. -/
instance : EquivBEq TypeExpr where
  rfl := same_refl _
  symm := same_symm
  trans := same_trans

end TypeExpr

end RecordBinding
