import Mathlib.Data.List.Flatten
import Mathlib.Data.List.Nodup
import RecordBinding.Proofs.Registrations.Reference

namespace RecordBinding

open Toml (Document Table)

/-- A document of the TOML format: nothing in it is null, and no table has a key twice. -/
inductive Toml.Document.IsToml : Document → Prop
  | bool (value : Bool) : IsToml (.bool value)
  | int (value : Int) : IsToml (.int value)
  | float (value : Float) : IsToml (.float value)
  | str (value : String) : IsToml (.str value)
  | moment (written : String) : IsToml (.moment written)
  | array {items : List Document} (hitems : ∀ item ∈ items, IsToml item) : IsToml (.array items)
  | table {t : Table} (distinct : (t.map Prod.fst).Nodup) (hentries : ∀ entry ∈ t, IsToml entry.2) :
      IsToml (.table t)

/-- The text under a key. -/
def Toml.Table.text? (t : Table) (key : String) : Option String :=
  match t.get? key with
  | some (.str given) => some given
  | _ => none

namespace RegistrationEntry

def requiredKeys : List String :=
  ["definition", "immutable"]

/-- The reference that a registration has under a key. -/
def reference? (entry : RegistrationEntry) : String → Option String
  | "definition" => some entry.definition
  | "immutable" => some entry.immutable
  | "modifiable" => entry.modifiable
  | "builder" => entry.builder
  | "create" => entry.create
  | _ => none

/-- What is written under a key of a registration. What the registration leaves open is null, or missing. -/
def written? (nulls : Bool) (entry : RegistrationEntry) (key : String) : Option Document :=
  match entry.reference? key with
  | some reference => some (.str reference)
  | none => if nulls then some .null else none

def toTable (nulls : Bool) (entry : RegistrationEntry) : Table :=
  keys.filterMap fun key => (entry.written? nulls key).map fun d => (key, d)

/-- What a table can have wrong at a key of a registration. -/
inductive Flaw (t : Table) (key : String) : ViolationKind → Prop
  | missing (hrequired : key ∈ requiredKeys) (habsent : ∀ entry ∈ t, entry.1 ≠ key) : Flaw t key .missing
  | notAText {d : Document} (hmem : (key, d) ∈ t) (htext : ∀ given, d ≠ .str given) :
      Flaw t key .notAText
  | malformed {given : String} (hmem : (key, .str given) ∈ t) (hreference : ¬ IsReferenceText given) :
      Flaw t key (.malformedReference given)

/-- The violations of the grammar in a value that should be a registration. -/
inductive Violates : Document → Violation → Prop
  | notATable {d : Document} (h : ∀ t, d ≠ .table t) : Violates d ⟨[], .notATable⟩
  | flaw {t : Table} {key : String} {kind : ViolationKind} (hkey : key ∈ keys) (h : Flaw t key kind) :
      Violates (.table t) ⟨[.key key], kind⟩
  | unknownKey {t : Table} {entry : String × Document} (hmem : entry ∈ t) (hkey : entry.1 ∉ keys) :
      Violates (.table t) ⟨[.key entry.1], .unknownKey⟩

end RegistrationEntry

/-- The table of a registration: it has the required keys, none that is not known, and a reference under
each. -/
structure Toml.Table.IsRegistration (t : Table) : Prop where
  required : ∀ key ∈ RegistrationEntry.requiredKeys, ∃ entry ∈ t, entry.1 = key
  references : ∀ entry ∈ t, entry.1 ∈ RegistrationEntry.keys ∧
    ∃ given, entry.2 = .str given ∧ IsReferenceText given

section Tables

variable {t : Table} {key : String} {d : Document}

theorem Toml.Table.get?_eq_none_iff : t.get? key = none ↔ ∀ entry ∈ t, entry.1 ≠ key := by
  simp only [Toml.Table.get?, List.lookup_eq_none_iff, ne_eq, bne_iff_ne]
  exact forall₂_congr fun _ _ => ne_comm

theorem Toml.Table.get?_eq_some_iff (h : (t.map Prod.fst).Nodup) :
    t.get? key = some d ↔ (key, d) ∈ t := by
  induction t with
  | nil => simp [Toml.Table.get?]
  | cons entry t ih =>
      obtain ⟨hentry, ht⟩ := List.nodup_cons.1 h
      rw [Toml.Table.get?, List.lookup_cons]
      by_cases hkey : key = entry.1
      · subst hkey
        have hnew : (entry.1, d) ∉ t := fun hmem => hentry (List.mem_map.2 ⟨_, hmem, rfl⟩)
        simp [hnew, Prod.ext_iff, eq_comm]
      · have hother : (key, d) ≠ entry := fun heq => hkey (congrArg Prod.fst heq)
        rw [beq_false_of_ne hkey, List.mem_cons, or_iff_right hother]
        exact ih ht

end Tables

/-- What a reading found wrong. -/
def reported {α : Type} : Except (List Violation) α → List Violation
  | .ok _ => []
  | .error violations => violations

namespace RegistrationEntry

section Reading

variable {t : Table} {key : String} {v : Violation}

theorem readReference_eq_ok_iff {d : Document} {reference : String} :
    readReference d = .ok reference ↔
      ∃ given, d = .str given ∧ IsReferenceText given ∧ reference = Text.trim given := by
  cases d with
  | str given =>
      by_cases h : isReference given.toList = true
      · rw [readReference, if_pos h, Except.ok.injEq]
        constructor
        · rintro rfl
          exact ⟨given, rfl, (isReference_iff given).1 h, rfl⟩
        · rintro ⟨_, ⟨⟩, -, rfl⟩
          rfl
      · rw [readReference, if_neg h]
        refine ⟨nofun, ?_⟩
        rintro ⟨_, ⟨⟩, htext, -⟩
        exact absurd ((isReference_iff given).2 htext) h
  | _ => simp [readReference]

theorem readReference_eq_error_iff {d : Document} {kind : ViolationKind} :
    readReference d = .error kind ↔
      (∃ given, d = .str given ∧ ¬ IsReferenceText given ∧ kind = .malformedReference given) ∨
        (∀ given, d ≠ .str given) ∧ kind = .notAText := by
  cases d with
  | str given =>
      rw [or_iff_left fun h => h.1 given rfl]
      by_cases h : isReference given.toList = true
      · rw [readReference, if_pos h]
        refine ⟨nofun, ?_⟩
        rintro ⟨_, ⟨⟩, htext, -⟩
        exact absurd ((isReference_iff given).1 h) htext
      · rw [readReference, if_neg h, Except.error.injEq]
        constructor
        · rintro rfl
          exact ⟨given, rfl, fun htext => h ((isReference_iff given).2 htext), rfl⟩
        · rintro ⟨_, ⟨⟩, -, rfl⟩
          rfl
  | _ => simp [readReference, eq_comm]

theorem mem_violationOf {α : Type} {read : Except ViolationKind α} :
    v ∈ violationOf key read ↔ v.place = [.key key] ∧ read = .error v.kind := by
  obtain ⟨place, kind⟩ := v
  cases read with
  | ok value => simp [violationOf]
  | error other => simp [violationOf, eq_comm]

/-- What is reported of a key of a registration. -/
def flaws (t : Table) (key : String) : List Violation :=
  if key ∈ requiredKeys then violationOf key (readRequired t key)
  else violationOf key (readOptional t key)

theorem flaws_of_none (h : t.get? key = none) :
    flaws t key = if key ∈ requiredKeys then [⟨[.key key], .missing⟩] else [] := by
  rw [flaws, readRequired, readOptional, h]
  rfl

theorem flaws_of_some {d : Document} (h : t.get? key = some d) (hnull : d ≠ .null) :
    flaws t key = violationOf key (readReference d) := by
  have hoptional : violationOf key (readOptional t key) = violationOf key (readReference d) := by
    unfold readOptional
    rw [h]
    cases d with
    | null => exact absurd rfl hnull
    | _ =>
        dsimp only
        cases readReference _ <;> rfl
  rw [flaws, hoptional, readRequired, h, ite_self]

theorem flaws_sublist (t : Table) (key : String) :
    ((flaws t key).map Violation.place).Sublist [[.key key]] := by
  have hone : ∀ {α : Type} (read : Except ViolationKind α),
      ((violationOf key read).map Violation.place).Sublist [[.key key]] := by
    intro α read
    cases read with
    | ok value => exact List.nil_sublist _
    | error kind => exact .refl _
  unfold flaws
  split <;> exact hone _

theorem flaw_iff_of_none {kind : ViolationKind} (h : t.get? key = none) :
    Flaw t key kind ↔ key ∈ requiredKeys ∧ kind = .missing := by
  have habsent := Toml.Table.get?_eq_none_iff.1 h
  constructor
  · rintro (⟨hrequired, -⟩ | ⟨hmem, -⟩ | ⟨hmem, -⟩)
    · exact ⟨hrequired, rfl⟩
    · exact absurd rfl (habsent _ hmem)
    · exact absurd rfl (habsent _ hmem)
  · rintro ⟨hrequired, rfl⟩
    exact .missing hrequired habsent

theorem flaw_iff_of_some {d : Document} {kind : ViolationKind} (hdistinct : (t.map Prod.fst).Nodup)
    (h : t.get? key = some d) : Flaw t key kind ↔ readReference d = .error kind := by
  have hmem := (Toml.Table.get?_eq_some_iff hdistinct).1 h
  have hunique : ∀ other, (key, other) ∈ t → other = d := fun other hother =>
    Option.some.inj (((Toml.Table.get?_eq_some_iff hdistinct).2 hother).symm.trans h)
  rw [readReference_eq_error_iff]
  constructor
  · rintro (⟨-, habsent⟩ | ⟨hother, htext⟩ | ⟨hother, htext⟩)
    · exact absurd rfl (habsent _ hmem)
    · exact .inr ⟨hunique _ hother ▸ htext, rfl⟩
    · exact .inl ⟨_, (hunique _ hother).symm, htext, rfl⟩
  · rintro (⟨given, rfl, htext, rfl⟩ | ⟨htext, rfl⟩)
    · exact .malformed hmem htext
    · exact .notAText hmem htext

/-- What is reported of a key is what is wrong there. -/
theorem mem_flaws_iff (hdistinct : (t.map Prod.fst).Nodup) (hnull : ∀ entry ∈ t, entry.2 ≠ .null) :
    v ∈ flaws t key ↔ v.place = [.key key] ∧ Flaw t key v.kind := by
  cases hget : t.get? key with
  | none =>
      obtain ⟨place, kind⟩ := v
      rw [flaws_of_none hget, flaw_iff_of_none hget]
      split <;> simp_all
  | some d =>
      have hmem := (Toml.Table.get?_eq_some_iff hdistinct).1 hget
      rw [flaws_of_some hget (hnull _ hmem), mem_violationOf, flaw_iff_of_some hdistinct hget]

theorem exists_ok_of_violationOf {α : Type} {read : Except ViolationKind α}
    (h : violationOf key read = []) : ∃ value, read = .ok value := by
  cases read with
  | ok value => exact ⟨value, rfl⟩
  | error kind => cases h

theorem mem_unknownKeys {known : List String} :
    v ∈ unknownKeys known t ↔ ∃ entry ∈ t, entry.1 ∉ known ∧ v = ⟨[.key entry.1], .unknownKey⟩ := by
  simp only [unknownKeys, List.mem_map, List.mem_filter, Bool.not_eq_true', List.contains_eq_mem,
    decide_eq_false_iff_not, and_assoc]
  exact exists_congr fun _ => and_congr_right' (and_congr_right' eq_comm)

theorem places_unknownKeys (known : List String) (t : Table) :
    (unknownKeys known t).map Violation.place =
      ((t.map Prod.fst).filter fun key => !known.contains key).map fun key => [.key key] := by
  simp [unknownKeys, List.filter_map, Function.comp_def]

end Reading

/-- A registration is read from a table, key by key. -/
structure ReadFrom (t : Table) (entry : RegistrationEntry) : Prop where
  definition : readRequired t "definition" = .ok entry.definition
  immutable : readRequired t "immutable" = .ok entry.immutable
  modifiable : readOptional t "modifiable" = .ok entry.modifiable
  builder : readOptional t "builder" = .ok entry.builder
  create : readOptional t "create" = .ok entry.create
  known : unknownKeys keys t = []

section Entry

variable {t : Table} {entry : RegistrationEntry} {d : Document} {v : Violation}

theorem ofTable_eq_ok_iff : ofTable t = .ok entry ↔ ReadFrom t entry := by
  constructor
  · intro h
    unfold ofTable at h
    dsimp only at h
    split at h
    · next hdefinition himmutable hmodifiable hbuilder hcreate hknown =>
        cases h
        exact ⟨hdefinition, himmutable, hmodifiable, hbuilder, hcreate, hknown⟩
    · cases h
  · rintro ⟨hdefinition, himmutable, hmodifiable, hbuilder, hcreate, hknown⟩
    simp only [ofTable, hdefinition, himmutable, hmodifiable, hbuilder, hcreate, hknown]

theorem ofTable_eq_error {violations : List Violation} (h : ofTable t = .error violations) :
    violations = keys.flatMap (flaws t) ++ unknownKeys keys t ∧ violations ≠ [] := by
  unfold ofTable at h
  dsimp only at h
  split at h
  · cases h
  · next hfails =>
      cases h
      refine ⟨by simp [keys, flaws, requiredKeys], fun hnone => ?_⟩
      simp only [List.append_eq_nil_iff] at hnone
      obtain ⟨⟨⟨⟨⟨hdefinition, himmutable⟩, hmodifiable⟩, hbuilder⟩, hcreate⟩, hknown⟩ := hnone
      obtain ⟨_, hdefinition⟩ := exists_ok_of_violationOf hdefinition
      obtain ⟨_, himmutable⟩ := exists_ok_of_violationOf himmutable
      obtain ⟨_, hmodifiable⟩ := exists_ok_of_violationOf hmodifiable
      obtain ⟨_, hbuilder⟩ := exists_ok_of_violationOf hbuilder
      obtain ⟨_, hcreate⟩ := exists_ok_of_violationOf hcreate
      exact hfails _ _ _ _ _ hdefinition himmutable hmodifiable hbuilder hcreate hknown

theorem reported_ofTable (t : Table) :
    reported (ofTable t) = keys.flatMap (flaws t) ++ unknownKeys keys t := by
  cases h : ofTable t with
  | ok entry =>
      obtain ⟨hdefinition, himmutable, hmodifiable, hbuilder, hcreate, hknown⟩ := ofTable_eq_ok_iff.1 h
      simp [reported, keys, flaws, requiredKeys, violationOf, hdefinition, himmutable, hmodifiable,
        hbuilder, hcreate, ← hknown]
  | error violations => exact (ofTable_eq_error h).1

theorem mem_reported_ofTable (hdistinct : (t.map Prod.fst).Nodup)
    (hnull : ∀ entry ∈ t, entry.2 ≠ .null) : v ∈ reported (ofTable t) ↔ Violates (.table t) v := by
  rw [reported_ofTable, List.mem_append, List.mem_flatMap, mem_unknownKeys]
  constructor
  · rintro (⟨key, hkey, hv⟩ | ⟨entry, hmem, hkey, rfl⟩)
    · obtain ⟨hplace, hflaw⟩ := (mem_flaws_iff hdistinct hnull).1 hv
      obtain ⟨place, kind⟩ := v
      cases hplace
      exact .flaw hkey hflaw
    · exact .unknownKey hmem hkey
  · rintro (h | ⟨hkey, hflaw⟩ | ⟨hmem, hkey⟩)
    · exact absurd rfl (h t)
    · exact .inl ⟨_, hkey, (mem_flaws_iff hdistinct hnull).2 ⟨rfl, hflaw⟩⟩
    · exact .inr ⟨_, hmem, hkey, rfl⟩

theorem nodup_places_ofTable (hdistinct : (t.map Prod.fst).Nodup) :
    ((reported (ofTable t)).map Violation.place).Nodup := by
  have hkeys : ((keys.flatMap (flaws t)).map Violation.place).Sublist
      (keys.map fun key => [PathStep.key key]) := by
    rw [List.map_flatMap, List.map_eq_flatMap]
    exact List.Sublist.flatMap_right keys fun key _ => flaws_sublist t key
  rw [reported_ofTable, List.map_append, places_unknownKeys]
  refine List.Nodup.sublist (hkeys.append_right _) ?_
  rw [← List.map_append]
  refine List.Nodup.map (fun a b hab => by simpa using hab) ?_
  refine List.nodup_append.2 ⟨by decide, hdistinct.filter _, ?_⟩
  intro key hkey other hother heq
  subst heq
  simpa [hkey] using (List.mem_filter.1 hother).2

theorem exists_ofDocument_eq_ok (h : reported (ofDocument d) = []) :
    ∃ entry, ofDocument d = .ok entry := by
  cases hread : ofDocument d with
  | ok entry => exact ⟨entry, rfl⟩
  | error violations =>
      rw [hread] at h
      cases h
      cases d with
      | table t => exact absurd rfl (ofTable_eq_error hread).2
      | _ => cases hread

theorem mem_reported_ofDocument (hd : d.IsToml) : v ∈ reported (ofDocument d) ↔ Violates d v := by
  have hother : (∀ t, d ≠ .table t) → (v ∈ [⟨[], .notATable⟩] ↔ Violates d v) := by
    intro htable
    rw [List.mem_singleton]
    constructor
    · rintro rfl
      exact .notATable htable
    · rintro (_ | _ | _)
      · rfl
      · exact absurd rfl (htable _)
      · exact absurd rfl (htable _)
  cases hd with
  | table hdistinct hentries =>
      refine mem_reported_ofTable hdistinct fun entry hmem hnull => ?_
      have hentry := hentries entry hmem
      rw [hnull] at hentry
      cases hentry
  | _ => exact hother nofun

theorem nodup_places_ofDocument (hd : d.IsToml) :
    ((reported (ofDocument d)).map Violation.place).Nodup := by
  cases hd with
  | table hdistinct _ => exact nodup_places_ofTable hdistinct
  | _ => exact List.nodup_singleton _

theorem text?_of_readRequired {key reference : String} (h : readRequired t key = .ok reference) :
    ∃ given, t.text? key = some given ∧ IsReferenceText given ∧ reference = Text.trim given := by
  unfold readRequired at h
  split at h
  · next d hget =>
      obtain ⟨given, rfl, htext, rfl⟩ := readReference_eq_ok_iff.1 h
      exact ⟨given, by rw [Toml.Table.text?, hget], htext, rfl⟩
  · cases h

theorem text?_of_readOptional {key : String} {reference : Option String}
    (h : readOptional t key = .ok reference) :
    reference = (t.text? key).map Text.trim ∧ ∀ given, t.text? key = some given → IsReferenceText given := by
  unfold readOptional at h
  rw [Toml.Table.text?]
  split at h
  · next hget =>
      cases h
      rw [hget]
      exact ⟨rfl, nofun⟩
  · next d hnull hget =>
      cases hread : readReference d with
      | error kind =>
          rw [hread] at h
          cases h
      | ok value =>
          rw [hread] at h
          cases h
          obtain ⟨given, rfl, htext, rfl⟩ := readReference_eq_ok_iff.1 hread
          rw [hget]
          exact ⟨rfl, by rintro _ ⟨⟩; exact htext⟩
  · next hget =>
      cases h
      rw [hget]
      exact ⟨rfl, nofun⟩

theorem ReadFrom.reference? (h : ReadFrom t entry) {key : String} (hkey : key ∈ keys) :
    entry.reference? key = (t.text? key).map Text.trim ∧
      ∀ given, t.text? key = some given → IsReferenceText given := by
  obtain ⟨hdefinition, himmutable, hmodifiable, hbuilder, hcreate, -⟩ := h
  have hrequired : ∀ {key reference}, readRequired t key = .ok reference →
      some reference = (t.text? key).map Text.trim ∧
        ∀ given, t.text? key = some given → IsReferenceText given := by
    intro key reference hread
    obtain ⟨given, htext, hgiven, rfl⟩ := text?_of_readRequired hread
    rw [htext]
    exact ⟨rfl, by rintro _ ⟨⟩; exact hgiven⟩
  simp only [keys, List.mem_cons, List.not_mem_nil, or_false] at hkey
  rcases hkey with rfl | rfl | rfl | rfl | rfl
  · exact hrequired hdefinition
  · exact hrequired himmutable
  · exact text?_of_readOptional hmodifiable
  · exact text?_of_readOptional hbuilder
  · exact text?_of_readOptional hcreate

/-- The references of a registration are such as reading leaves them. -/
def IsTrimmed (entry : RegistrationEntry) : Prop :=
  ∀ key ∈ keys, ∀ reference, entry.reference? key = some reference →
    IsReferenceText reference ∧ Text.trim reference = reference

theorem ReadFrom.isTrimmed (h : ReadFrom t entry) : entry.IsTrimmed := by
  intro key hkey reference hreference
  obtain ⟨htext, hgiven⟩ := h.reference? hkey
  obtain ⟨given, hfound, rfl⟩ := Option.map_eq_some_iff.1 (htext.symm.trans hreference)
  exact (hgiven given hfound).trim

end Entry

section Rereading

variable {entry : RegistrationEntry} {key : String} (nulls : Bool)

theorem get?_filterMap (f : String → Option Document) (names : List String) (key : String) :
    Toml.Table.get? (names.filterMap fun name => (f name).map fun d => (name, d)) key =
      if key ∈ names then f key else none := by
  induction names with
  | nil => rfl
  | cons name names ih =>
      cases hname : f name with
      | none =>
          rw [List.filterMap_cons_none (by rw [hname]; rfl), ih]
          by_cases hkey : key = name
          · subst hkey
            simp [hname]
          · simp [hkey]
      | some d =>
          rw [List.filterMap_cons_some (by rw [hname]; rfl), Toml.Table.get?, List.lookup_cons]
          by_cases hkey : key = name
          · subst hkey
            simp [hname]
          · rw [beq_false_of_ne hkey]
            exact ih.trans (by simp [hkey])

theorem get?_toTable (hkey : key ∈ keys) : (entry.toTable nulls).get? key = entry.written? nulls key := by
  rw [toTable, get?_filterMap, if_pos hkey]

theorem readOptional_toTable (h : entry.IsTrimmed) (hkey : key ∈ keys) :
    readOptional (entry.toTable nulls) key = .ok (entry.reference? key) := by
  rw [readOptional, get?_toTable nulls hkey, written?]
  cases hreference : entry.reference? key with
  | none => cases nulls <;> rfl
  | some reference =>
      obtain ⟨htext, htrim⟩ := h key hkey reference hreference
      have hread := readReference_eq_ok_iff.2 ⟨reference, rfl, htext, rfl⟩
      dsimp only
      rw [hread, htrim]
      rfl

theorem readRequired_toTable (h : entry.IsTrimmed) (hkey : key ∈ keys) {reference : String}
    (hreference : entry.reference? key = some reference) :
    readRequired (entry.toTable nulls) key = .ok reference := by
  obtain ⟨htext, htrim⟩ := h key hkey reference hreference
  rw [readRequired, get?_toTable nulls hkey, written?, hreference]
  dsimp only
  rw [readReference_eq_ok_iff.2 ⟨reference, rfl, htext, rfl⟩, htrim]

theorem unknownKeys_toTable : unknownKeys keys (entry.toTable nulls) = [] := by
  rw [List.eq_nil_iff_forall_not_mem]
  intro v hv
  obtain ⟨stored, hmem, hkey, -⟩ := mem_unknownKeys.1 hv
  obtain ⟨key, hknown, hwritten⟩ := List.mem_filterMap.1 hmem
  obtain ⟨d, -, rfl⟩ := Option.map_eq_some_iff.1 hwritten
  exact hkey hknown

theorem ofTable_toTable (h : entry.IsTrimmed) : ofTable (entry.toTable nulls) = .ok entry :=
  ofTable_eq_ok_iff.2
    { definition := readRequired_toTable nulls h (by decide) rfl
      immutable := readRequired_toTable nulls h (by decide) rfl
      modifiable := readOptional_toTable nulls h (by decide)
      builder := readOptional_toTable nulls h (by decide)
      create := readOptional_toTable nulls h (by decide)
      known := unknownKeys_toTable nulls }

end Rereading

theorem isRegistration_iff {t : Table} : t.IsRegistration ↔ ∀ v, ¬ Violates (.table t) v := by
  constructor
  · rintro ⟨hrequired, hreferences⟩ v (h | ⟨-, hflaw⟩ | ⟨hmem, hkey⟩)
    · exact h t rfl
    · cases hflaw with
      | missing hkey habsent =>
          obtain ⟨entry, hmem, hentry⟩ := hrequired _ hkey
          exact habsent entry hmem hentry
      | notAText hmem htext =>
          obtain ⟨-, given, rfl, -⟩ := hreferences _ hmem
          exact htext given rfl
      | malformed hmem hreference =>
          obtain ⟨-, given, heq, hgiven⟩ := hreferences _ hmem
          cases heq
          exact hreference hgiven
    · exact hkey (hreferences _ hmem).1
  · intro h
    refine ⟨fun key hkey => ?_, fun entry hmem => ?_⟩
    · by_contra habsent
      have hknown : key ∈ keys := (by decide : requiredKeys ⊆ keys) hkey
      exact h _ (.flaw hknown (.missing hkey fun entry hmem heq => habsent ⟨entry, hmem, heq⟩))
    · have hkey : entry.1 ∈ keys := by
        by_contra hunknown
        exact h _ (.unknownKey hmem hunknown)
      refine ⟨hkey, ?_⟩
      by_contra hreference
      by_cases htext : ∃ given, entry.2 = .str given
      · obtain ⟨given, hgiven⟩ := htext
        have hmalformed : ¬ IsReferenceText given := fun hgood => hreference ⟨given, hgiven, hgood⟩
        exact h _ (.flaw hkey (.malformed (hgiven ▸ hmem) hmalformed))
      · exact h _ (.flaw hkey (.notAText hmem fun given heq => htext ⟨given, heq⟩))

end RegistrationEntry

end RecordBinding
