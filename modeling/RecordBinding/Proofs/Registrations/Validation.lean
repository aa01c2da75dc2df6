import Mathlib.Data.List.Perm.Basic
import RecordBinding.Proofs.Registrations.Grammar

namespace RecordBinding

open Toml (Document Table)

/-- How a value of a document is read: what it becomes, or all that is wrong with it. -/
abbrev Reader := Document → Except (List Violation) Document

/-- A declared field of a table. A field without a default must be there. -/
structure Field where
  name : String
  default : Option Document
  read : Reader

/-- What a field gets from a table, with its violations placed under its key. -/
def Field.take (field : Field) (t : Table) : Except (List Violation) Document :=
  match t.get? field.name with
  | some d => (field.read d).mapError fun violations => violations.map (Violation.below (.key field.name))
  | none =>
      match field.default with
      | some d => .ok d
      | none => .error [⟨[.key field.name], .missing⟩]

/-- A validator makes readers from declarations: of texts, of what may be null, of what is checked once it is
read, of arrays, and of tables that have the declared fields and no others. -/
structure Validator where
  text : Reader
  nullable : Reader → Reader
  checked : Reader → (Document → Except ViolationKind Document) → Reader
  array : Reader → Reader
  table : List Field → Reader

namespace Validator

/-- What is documented of a validator. All that is wrong is reported, in no order that is promised. -/
structure IsDocumented (v : Validator) : Prop where
  text : ∀ given, v.text (.str given) = .ok (.str given)
  notAText : ∀ d, (∀ given, d ≠ .str given) → v.text d = .error [⟨[], .notAText⟩]
  null : ∀ read, v.nullable read .null = .ok .null
  nonNull : ∀ read d, d ≠ .null → v.nullable read d = read d
  checked : ∀ read check d, v.checked read check d =
    (read d).bind fun value => (check value).mapError fun kind => [⟨[], kind⟩]
  array : ∀ read items value, v.array read (.array items) = .ok value ↔
    ∃ values, value = .array values ∧ List.Forall₂ (fun item value => read item = .ok value) items values
  arrayViolations : ∀ read items violations, v.array read (.array items) = .error violations →
    violations.Perm (items.zipIdx.flatMap fun entry =>
      (reported (read entry.1)).map (Violation.below (.index entry.2)))
  notAnArray : ∀ read d, (∀ items, d ≠ .array items) → v.array read d = .error [⟨[], .notAnArray⟩]
  table : ∀ fields t value, v.table fields (.table t) = .ok value ↔
    ∃ values, value = .table values ∧
      List.Forall₂ (fun (field : Field) entry => entry.1 = field.name ∧ field.take t = .ok entry.2)
        fields values ∧
      RegistrationEntry.unknownKeys (fields.map Field.name) t = []
  tableViolations : ∀ fields t violations, v.table fields (.table t) = .error violations →
    violations.Perm ((fields.flatMap fun field => reported (field.take t)) ++
      RegistrationEntry.unknownKeys (fields.map Field.name) t)
  notATable : ∀ fields d, (∀ t, d ≠ .table t) → v.table fields d = .error [⟨[], .notATable⟩]

/-- The check of a reference once it is known to be a text or null. -/
def checkReference : Document → Except ViolationKind Document
  | .str given =>
      if isReference given.toList then .ok (.str (Text.trim given)) else .error (.malformedReference given)
  | d => .ok d

section Declarations

variable (v : Validator)

def required (key : String) : Field :=
  ⟨key, none, v.checked v.text checkReference⟩

def optional (key : String) : Field :=
  ⟨key, some .null, v.checked (v.nullable v.text) checkReference⟩

def registration : Reader :=
  v.table [v.required "definition", v.required "immutable", v.optional "modifiable", v.optional "builder",
    v.optional "create"]

/-- A document of registrations as it is declared: under one key, a list of registrations that is empty by
default. -/
def registrations : Reader :=
  v.table [⟨"registrations", some (.array []), v.array v.registration⟩]

end Declarations

end Validator

section Reading

variable {α β : Type}

theorem reported_mapError (x : Except (List Violation) α) (step : PathStep) :
    reported (x.mapError fun violations => violations.map (Violation.below step)) =
      (reported x).map (Violation.below step) := by
  cases x <;> rfl

theorem reported_at (x : Except ViolationKind α) (f : α → β) (key : String) :
    reported ((x.map f).mapError fun kind => [⟨[.key key], kind⟩]) =
      RegistrationEntry.violationOf key x := by
  cases x <;> rfl

theorem mapError_eq_ok_iff {ε ε' : Type} {x : Except ε α} {g : ε → ε'} {a : α} :
    x.mapError g = .ok a ↔ x = .ok a := by
  cases x <;> simp [Except.mapError]

theorem map_eq_ok_iff {ε : Type} {x : Except ε α} {f : α → β} {b : β} :
    x.map f = .ok b ↔ ∃ a, x = .ok a ∧ b = f a := by
  cases x <;> simp [Except.map, eq_comm]

theorem map_mapError_eq_ok_iff {ε ε' : Type} {x : Except ε α} {f : α → β} {g : ε → ε'} {b : β} :
    (x.map f).mapError g = .ok b ↔ ∃ a, x = .ok a ∧ b = f a := by
  rw [mapError_eq_ok_iff, map_eq_ok_iff]

theorem forall₂_iff_exists_map {γ : Type} {r : α → γ → Prop} {q : α → β → Prop} {f : β → γ}
    (h : ∀ a c, r a c ↔ ∃ b, q a b ∧ c = f b) {as : List α} {cs : List γ} :
    List.Forall₂ r as cs ↔ ∃ bs, List.Forall₂ q as bs ∧ cs = bs.map f := by
  constructor
  · intro hr
    induction hr with
    | nil => exact ⟨[], .nil, rfl⟩
    | cons hac _ ih =>
        obtain ⟨b, hab, rfl⟩ := (h _ _).1 hac
        obtain ⟨bs, hbs, rfl⟩ := ih
        exact ⟨b :: bs, .cons hab hbs, rfl⟩
  · rintro ⟨bs, hq, rfl⟩
    exact List.forall₂_map_right_iff.2 (hq.imp fun a b hab => (h a _).2 ⟨b, hab, rfl⟩)

end Reading

namespace RegistrationEntry

/-- What stands for an optional reference in a document that shows what is left open. -/
def writeOptional (reference : Option String) : Document :=
  reference.elim .null .str

theorem toTable_true (entry : RegistrationEntry) :
    entry.toTable true = keys.map fun key => (key, writeOptional (entry.reference? key)) := by
  have hwritten : ∀ key, entry.written? true key = some (writeOptional (entry.reference? key)) := by
    intro key
    unfold written?
    cases entry.reference? key <;> rfl
  unfold toTable
  rw [← List.filterMap_eq_map]
  exact congrArg (List.filterMap · keys) (funext fun key => by rw [hwritten]; rfl)

theorem reported_ofItems (n : Nat) (items : List Document) :
    reported (ofItems n items) = (items.zipIdx n).flatMap fun entry =>
      (reported (ofDocument entry.1)).map (Violation.below (.index entry.2)) := by
  induction items generalizing n with
  | nil => rfl
  | cons item items ih => rw [reported_ofItems_cons, ih, List.zipIdx_cons, List.flatMap_cons]

end RegistrationEntry

namespace Validator.IsDocumented

open RegistrationEntry

variable {v : Validator} (h : v.IsDocumented)

include h

theorem reported_array (read : Reader) (items : List Document) :
    (reported (v.array read (.array items))).Perm
      (items.zipIdx.flatMap fun entry =>
        (reported (read entry.1)).map (Violation.below (.index entry.2))) := by
  cases hread : v.array read (.array items) with
  | error violations => exact h.arrayViolations read items violations hread
  | ok value =>
      obtain ⟨values, -, hitems⟩ := (h.array read items value).1 hread
      refine List.Perm.of_eq (List.flatMap_eq_nil_iff.2 ?_).symm
      rintro ⟨item, n⟩ hmem
      obtain ⟨value, -, hvalue⟩ := exists_of_mem_right hitems.flip (List.fst_mem_of_mem_zipIdx hmem)
      rw [hvalue]
      rfl

theorem reported_table (fields : List Field) (t : Table) :
    (reported (v.table fields (.table t))).Perm
      ((fields.flatMap fun field => reported (field.take t)) ++ unknownKeys (fields.map Field.name) t) := by
  cases hread : v.table fields (.table t) with
  | error violations => exact h.tableViolations fields t violations hread
  | ok value =>
      obtain ⟨values, -, hfields, hknown⟩ := (h.table fields t value).1 hread
      rw [hknown, List.append_nil]
      refine List.Perm.of_eq (List.flatMap_eq_nil_iff.2 fun field hfield => ?_).symm
      obtain ⟨entry, -, -, htake⟩ := exists_of_mem_right hfields.flip hfield
      rw [htake]
      rfl

theorem checked_text (d : Document) :
    v.checked v.text checkReference d =
      ((readReference d).map Document.str).mapError fun kind => [⟨[], kind⟩] := by
  rw [h.checked]
  cases d with
  | str given =>
      rw [h.text]
      simp only [Except.bind, checkReference, readReference]
      split <;> rfl
  | _ =>
      rw [h.notAText _ (by simp)]
      rfl

theorem checked_nullable (d : Document) (hd : d ≠ .null) :
    v.checked (v.nullable v.text) checkReference d = v.checked v.text checkReference d := by
  rw [h.checked, h.checked, h.nonNull v.text d hd]

theorem take_required (key : String) (t : Table) :
    (v.required key).take t =
      ((readRequired t key).map Document.str).mapError fun kind => [⟨[.key key], kind⟩] := by
  unfold Field.take required readRequired
  cases t.get? key with
  | none => rfl
  | some d =>
      dsimp only
      rw [h.checked_text]
      cases readReference d <;> rfl

theorem take_optional (key : String) (t : Table) :
    (v.optional key).take t =
      ((readOptional t key).map writeOptional).mapError fun kind => [⟨[.key key], kind⟩] := by
  unfold Field.take optional readOptional
  cases t.get? key with
  | none => rfl
  | some d =>
      dsimp only
      by_cases hnull : d = .null
      · subst hnull
        rw [h.checked, h.null]
        rfl
      · rw [h.checked_nullable d hnull, h.checked_text]
        cases d with
        | null => exact absurd rfl hnull
        | _ =>
            dsimp only
            cases readReference _ <;> rfl

theorem take_required_eq_ok_iff {key : String} {t : Table} {d : Document} :
    (v.required key).take t = .ok d ↔ ∃ reference, readRequired t key = .ok reference ∧ d = .str reference := by
  rw [h.take_required, map_mapError_eq_ok_iff]

theorem take_optional_eq_ok_iff {key : String} {t : Table} {d : Document} :
    (v.optional key).take t = .ok d ↔
      ∃ reference, readOptional t key = .ok reference ∧ d = writeOptional reference := by
  rw [h.take_optional, map_mapError_eq_ok_iff]

theorem registration_eq_ok_iff {d value : Document} :
    v.registration d = .ok value ↔
      ∃ entry, ofDocument d = .ok entry ∧ value = .table (entry.toTable true) := by
  by_cases htable : ∃ t, d = .table t
  · obtain ⟨t, rfl⟩ := htable
    change _ ↔ ∃ entry, ofTable t = .ok entry ∧ _
    rw [registration, h.table]
    simp only [ofTable_eq_ok_iff, toTable_true]
    constructor
    · rintro ⟨values, rfl, hfields, hknown⟩
      obtain _ | @⟨_, ⟨_, _⟩, _, _, ⟨rfl, definitionTaken⟩, hfields⟩ := hfields
      obtain _ | @⟨_, ⟨_, _⟩, _, _, ⟨rfl, immutableTaken⟩, hfields⟩ := hfields
      obtain _ | @⟨_, ⟨_, _⟩, _, _, ⟨rfl, modifiableTaken⟩, hfields⟩ := hfields
      obtain _ | @⟨_, ⟨_, _⟩, _, _, ⟨rfl, builderTaken⟩, hfields⟩ := hfields
      obtain _ | @⟨_, ⟨_, _⟩, _, _, ⟨rfl, createTaken⟩, hfields⟩ := hfields
      cases hfields
      obtain ⟨definition, hdefinition, rfl⟩ := h.take_required_eq_ok_iff.1 definitionTaken
      obtain ⟨immutable, himmutable, rfl⟩ := h.take_required_eq_ok_iff.1 immutableTaken
      obtain ⟨modifiable, hmodifiable, rfl⟩ := h.take_optional_eq_ok_iff.1 modifiableTaken
      obtain ⟨builder, hbuilder, rfl⟩ := h.take_optional_eq_ok_iff.1 builderTaken
      obtain ⟨create, hcreate, rfl⟩ := h.take_optional_eq_ok_iff.1 createTaken
      exact ⟨⟨definition, immutable, modifiable, builder, create⟩,
        ⟨hdefinition, himmutable, hmodifiable, hbuilder, hcreate, hknown⟩, rfl⟩
    · rintro ⟨entry, hread, rfl⟩
      refine ⟨_, rfl, ?_, hread.known⟩
      exact .cons ⟨rfl, h.take_required_eq_ok_iff.2 ⟨_, hread.definition, rfl⟩⟩
        (.cons ⟨rfl, h.take_required_eq_ok_iff.2 ⟨_, hread.immutable, rfl⟩⟩
          (.cons ⟨rfl, h.take_optional_eq_ok_iff.2 ⟨_, hread.modifiable, rfl⟩⟩
            (.cons ⟨rfl, h.take_optional_eq_ok_iff.2 ⟨_, hread.builder, rfl⟩⟩
              (.cons ⟨rfl, h.take_optional_eq_ok_iff.2 ⟨_, hread.create, rfl⟩⟩ .nil))))
  · have hother : ∀ t, d ≠ .table t := fun t hd => htable ⟨t, hd⟩
    have hread : ∀ entry, ofDocument d ≠ .ok entry := by
      intro entry hentry
      cases d with
      | table t => exact hother t rfl
      | _ => cases hentry
    rw [registration, h.notATable _ d hother]
    simp [hread]

theorem reported_registration (d : Document) :
    (reported (v.registration d)).Perm (reported (ofDocument d)) := by
  by_cases htable : ∃ t, d = .table t
  · obtain ⟨t, rfl⟩ := htable
    change (reported (v.registration (.table t))).Perm (reported (ofTable t))
    refine (h.reported_table _ t).trans (List.Perm.of_eq ?_)
    rw [reported_ofTable]
    simp only [List.flatMap_cons, List.flatMap_nil, h.take_required, h.take_optional, reported_at, keys,
      flaws, requiredKeys]
    rfl
  · have hother : ∀ t, d ≠ .table t := fun t hd => htable ⟨t, hd⟩
    rw [registration, h.notATable _ d hother]
    cases d with
    | table t => exact absurd rfl (hother t)
    | _ => exact .refl _

theorem take_registrations_eq_ok_iff {t : Table} {value : Document} :
    Field.take ⟨"registrations", some (.array []), v.array v.registration⟩ t = .ok value ↔
      ∃ entries, listedIn t = .ok entries ∧
        value = .array (entries.map fun entry => .table (entry.toTable true)) := by
  unfold Field.take listedIn
  dsimp only
  cases t.get? "registrations" with
  | none => simp [eq_comm]
  | some d =>
      dsimp only
      rw [mapError_eq_ok_iff]
      by_cases harray : ∃ items, d = .array items
      · obtain ⟨items, rfl⟩ := harray
        have hitems : ∀ values,
            List.Forall₂ (fun item value => v.registration item = .ok value) items values ↔
              ∃ entries, List.Forall₂ (fun item entry => ofDocument item = .ok entry) items entries ∧
                values = entries.map fun entry => .table (entry.toTable true) := fun _ =>
          forall₂_iff_exists_map (r := fun item value => v.registration item = .ok value)
            (q := fun item entry => ofDocument item = .ok entry) fun _ _ => h.registration_eq_ok_iff
        simp only [h.array, hitems, ofItems_eq_ok_iff]
        constructor
        · rintro ⟨_, rfl, entries, hentries, rfl⟩
          exact ⟨entries, hentries, rfl⟩
        · rintro ⟨entries, hentries, rfl⟩
          exact ⟨_, rfl, entries, hentries, rfl⟩
      · have hother : ∀ items, d ≠ .array items := fun items hd => harray ⟨items, hd⟩
        rw [h.notAnArray _ d hother]
        cases d with
        | array items => exact absurd rfl (hother items)
        | _ => simp

theorem reported_take_registrations (t : Table) :
    (reported (Field.take ⟨"registrations", some (.array []), v.array v.registration⟩ t)).Perm
      ((reported (listedIn t)).map (Violation.below (.key "registrations"))) := by
  unfold Field.take listedIn
  dsimp only
  cases t.get? "registrations" with
  | none => exact .refl _
  | some d =>
      dsimp only
      rw [reported_mapError]
      refine List.Perm.map _ ?_
      by_cases harray : ∃ items, d = .array items
      · obtain ⟨items, rfl⟩ := harray
        dsimp only
        rw [reported_ofItems]
        refine (h.reported_array _ items).trans (List.Perm.flatMap_left _ fun entry _ => ?_)
        exact (h.reported_registration entry.1).map _
      · have hother : ∀ items, d ≠ .array items := fun items hd => harray ⟨items, hd⟩
        rw [h.notAnArray _ d hother]
        cases d with
        | array items => exact absurd rfl (hother items)
        | _ => exact .refl _

/-- A documented validator accepts what reading a document accepts, and gives its registrations with what they
leave open. -/
theorem registrations_eq_ok_iff {d value : Document} :
    v.registrations d = .ok value ↔
      ∃ entries, readRegistrationsDocument d = .ok entries ∧ value = toDocument true entries := by
  by_cases htable : ∃ t, d = .table t
  · obtain ⟨t, rfl⟩ := htable
    change _ ↔ ∃ entries, readRegistrations t = .ok entries ∧ _
    rw [registrations, h.table]
    simp only [readRegistrations_eq_ok_iff]
    constructor
    · rintro ⟨values, rfl, hfields, hknown⟩
      obtain _ | @⟨_, ⟨_, _⟩, _, _, ⟨rfl, hlisted⟩, hfields⟩ := hfields
      cases hfields
      obtain ⟨entries, hentries, rfl⟩ := h.take_registrations_eq_ok_iff.1 hlisted
      exact ⟨entries, ⟨hentries, hknown⟩, rfl⟩
    · rintro ⟨entries, ⟨hentries, hknown⟩, rfl⟩
      exact ⟨_, rfl, .cons ⟨rfl, h.take_registrations_eq_ok_iff.2 ⟨entries, hentries, rfl⟩⟩ .nil, hknown⟩
  · have hother : ∀ t, d ≠ .table t := fun t hd => htable ⟨t, hd⟩
    rw [registrations, h.notATable _ d hother]
    cases d with
    | table t => exact absurd rfl (hother t)
    | _ => simp [readRegistrationsDocument]

theorem reported_registrations (d : Document) :
    (reported (v.registrations d)).Perm (reported (readRegistrationsDocument d)) := by
  by_cases htable : ∃ t, d = .table t
  · obtain ⟨t, rfl⟩ := htable
    change (reported (v.registrations (.table t))).Perm (reported (readRegistrations t))
    refine (h.reported_table _ t).trans ?_
    rw [reported_readRegistrations, List.flatMap_singleton]
    exact (h.reported_take_registrations t).append_right _
  · have hother : ∀ t, d ≠ .table t := fun t hd => htable ⟨t, hd⟩
    rw [registrations, h.notATable _ d hother]
    cases d with
    | table t => exact absurd rfl (hother t)
    | _ => exact .refl _

end Validator.IsDocumented

/-- Validation as it is declared accepts the grammar and nothing else. What it accepts it gives in order and
trimmed, as reading the document does, and accepts again unchanged. Of what it refuses it reports each
violation once, at its place, and reading the document reports the same. -/
theorem Validator.registrations_grammar {v : Validator} (hv : v.IsDocumented) {d : Document} (hd : d.IsToml) :
    ((∃ value, v.registrations d = .ok value) ↔ d.IsRegistrations) ∧
      (∀ value, v.registrations d = .ok value → ∃ entries,
        readRegistrationsDocument d = .ok entries ∧ d.Gives entries ∧
          value = RegistrationEntry.toDocument true entries ∧
            ∀ nulls, v.registrations (RegistrationEntry.toDocument nulls entries) = .ok value) ∧
      ∀ violations, v.registrations d = .error violations →
        (violations.map Violation.place).Nodup ∧ (∀ w, w ∈ violations ↔ d.Violates w) ∧
          ∃ found, readRegistrationsDocument d = .error found ∧ violations.Perm found := by
  obtain ⟨haccepts, hgives, hreports⟩ := readRegistrationsDocument_iff hd
  refine ⟨?_, fun value hvalue => ?_, fun violations hviolations => ?_⟩
  · rw [← haccepts]
    constructor
    · rintro ⟨value, hvalue⟩
      obtain ⟨entries, hread, -⟩ := hv.registrations_eq_ok_iff.1 hvalue
      exact ⟨entries, hread⟩
    · rintro ⟨entries, hread⟩
      exact ⟨_, hv.registrations_eq_ok_iff.2 ⟨entries, hread, rfl⟩⟩
  · obtain ⟨entries, hread, rfl⟩ := hv.registrations_eq_ok_iff.1 hvalue
    obtain ⟨hentries, hagain⟩ := hgives entries hread
    exact ⟨entries, hread, hentries, rfl, fun nulls =>
      hv.registrations_eq_ok_iff.2 ⟨entries, hagain nulls, rfl⟩⟩
  · cases hread : readRegistrationsDocument d with
    | ok entries =>
        have hvalue := hv.registrations_eq_ok_iff.2 ⟨entries, hread, rfl⟩
        rw [hviolations] at hvalue
        cases hvalue
    | error found =>
        have hperm := hv.reported_registrations d
        rw [hviolations, hread] at hperm
        obtain ⟨hplaces, hfound⟩ := hreports found hread
        refine ⟨(hperm.map Violation.place).nodup_iff.2 hplaces, fun w => ?_, found, rfl, hperm⟩
        rw [← hfound w]
        exact hperm.mem_iff

namespace Validator

def join {α : Type} (first : Except (List Violation) α) (rest : Except (List Violation) (List α)) :
    Except (List Violation) (List α) :=
  match first, rest with
  | .ok value, .ok values => .ok (value :: values)
  | first, rest => .error (reported first ++ reported rest)

/-- The outcomes of several readings as one: all values, or all violations in order. -/
def collect {α : Type} : List (Except (List Violation) α) → Except (List Violation) (List α)
  | [] => .ok []
  | first :: rest => join first (collect rest)

/-- A validator that reports in order: what it finds in an array item by item, and in a table field by field
before the keys that are not declared. -/
def inOrder : Validator where
  text
    | .str given => .ok (.str given)
    | _ => .error [⟨[], .notAText⟩]
  nullable read
    | .null => .ok .null
    | d => read d
  checked read check d := (read d).bind fun value => (check value).mapError fun kind => [⟨[], kind⟩]
  array read
    | .array items =>
        (collect (items.zipIdx.map fun entry => (read entry.1).mapError fun violations =>
          violations.map (Violation.below (.index entry.2)))).map .array
    | _ => .error [⟨[], .notAnArray⟩]
  table fields
    | .table t =>
        let taken := collect (fields.map fun field => (field.take t).map fun d => (field.name, d))
        match taken, RegistrationEntry.unknownKeys (fields.map Field.name) t with
        | .ok values, [] => .ok (.table values)
        | taken, unknown => .error (reported taken ++ unknown)
    | _ => .error [⟨[], .notATable⟩]

theorem join_eq_ok_iff {α : Type} {first : Except (List Violation) α}
    {rest : Except (List Violation) (List α)} {values : List α} :
    join first rest = .ok values ↔
      ∃ value others, first = .ok value ∧ rest = .ok others ∧ values = value :: others := by
  cases first <;> cases rest <;> simp [join, eq_comm]

theorem collect_map_eq_ok_iff {α β : Type} {f : α → Except (List Violation) β} {as : List α}
    {values : List β} :
    collect (as.map f) = .ok values ↔ List.Forall₂ (fun a value => f a = .ok value) as values := by
  induction as generalizing values with
  | nil =>
      rw [List.forall₂_nil_left_iff, List.map_nil, collect, Except.ok.injEq]
      exact eq_comm
  | cons a as ih =>
      rw [List.forall₂_cons_left_iff, List.map_cons, collect, join_eq_ok_iff]
      simp only [ih]

theorem reported_collect {α : Type} (outcomes : List (Except (List Violation) α)) :
    reported (collect outcomes) = outcomes.flatMap reported := by
  have hjoin : ∀ (first : Except (List Violation) α) rest,
      reported (join first rest) = reported first ++ reported rest := by
    intro first rest
    cases first <;> cases rest <;> rfl
  induction outcomes with
  | nil => rfl
  | cons first rest ih => rw [collect, hjoin, ih, List.flatMap_cons]

theorem reported_map {α β : Type} (f : α → β) (x : Except (List Violation) α) :
    reported (x.map f) = reported x := by
  cases x <;> rfl

section InOrder

variable (read : Reader) (items : List Document) (fields : List Field) (t : Table)

theorem inOrder_array_eq_ok_iff (value : Document) :
    inOrder.array read (.array items) = .ok value ↔
      ∃ values, value = .array values ∧
        List.Forall₂ (fun item value => read item = .ok value) items values := by
  have hitems : ∀ values, List.Forall₂ (fun (entry : Document × Nat) value => read entry.1 = .ok value)
      items.zipIdx values ↔ List.Forall₂ (fun item value => read item = .ok value) items values := by
    intro values
    have hfirst := @List.forall₂_map_left_iff _ _ _ (fun item value => read item = .ok value) Prod.fst
      items.zipIdx values
    rw [← hfirst, List.zipIdx_map_fst]
  change (collect (items.zipIdx.map _)).map Document.array = .ok value ↔ _
  simp only [map_eq_ok_iff, collect_map_eq_ok_iff, mapError_eq_ok_iff, hitems]
  exact exists_congr fun _ => and_comm

theorem reported_inOrder_array :
    reported (inOrder.array read (.array items)) = items.zipIdx.flatMap fun entry =>
      (reported (read entry.1)).map (Violation.below (.index entry.2)) := by
  change reported ((collect (items.zipIdx.map _)).map Document.array) = _
  rw [reported_map, reported_collect, List.flatMap_map]
  simp only [reported_mapError]

theorem collect_take_eq_ok_iff (values : List (String × Document)) :
    collect (fields.map fun field => (field.take t).map fun d => (field.name, d)) = .ok values ↔
      List.Forall₂ (fun (field : Field) entry => entry.1 = field.name ∧ field.take t = .ok entry.2)
        fields values := by
  rw [collect_map_eq_ok_iff]
  refine Iff.of_eq (congrArg (List.Forall₂ · fields values) (funext₂ fun field entry => propext ?_))
  rw [map_eq_ok_iff]
  constructor
  · rintro ⟨d, hd, rfl⟩
    exact ⟨rfl, hd⟩
  · rintro ⟨hname, hd⟩
    exact ⟨entry.2, hd, Prod.ext hname rfl⟩

theorem inOrder_table_eq_ok_iff (value : Document) :
    inOrder.table fields (.table t) = .ok value ↔
      ∃ values, value = .table values ∧
        List.Forall₂ (fun (field : Field) entry => entry.1 = field.name ∧ field.take t = .ok entry.2)
          fields values ∧
        RegistrationEntry.unknownKeys (fields.map Field.name) t = [] := by
  simp only [← collect_take_eq_ok_iff, inOrder]
  cases collect (fields.map fun field => (field.take t).map fun d => (field.name, d)) <;>
    cases RegistrationEntry.unknownKeys (fields.map Field.name) t <;> simp [eq_comm]

theorem reported_inOrder_table :
    reported (inOrder.table fields (.table t)) =
      (fields.flatMap fun field => reported (field.take t)) ++
        RegistrationEntry.unknownKeys (fields.map Field.name) t := by
  have hjoined : reported (inOrder.table fields (.table t)) =
      reported (collect (fields.map fun field => (field.take t).map fun d => (field.name, d))) ++
        RegistrationEntry.unknownKeys (fields.map Field.name) t := by
    simp only [inOrder]
    cases collect (fields.map fun field => (field.take t).map fun d => (field.name, d)) <;>
      cases RegistrationEntry.unknownKeys (fields.map Field.name) t <;> simp [reported]
  rw [hjoined, reported_collect, List.flatMap_map]
  simp only [reported_map]

end InOrder

theorem inOrder_isDocumented : inOrder.IsDocumented where
  text _ := rfl
  notAText d hd := by
    cases d with
    | str given => exact absurd rfl (hd given)
    | _ => rfl
  null _ := rfl
  nonNull read d hd := by
    cases d with
    | null => exact absurd rfl hd
    | _ => rfl
  checked _ _ _ := rfl
  array := inOrder_array_eq_ok_iff
  arrayViolations read items violations hread := by
    rw [← reported_inOrder_array, hread]
    exact .refl _
  notAnArray read d hd := by
    cases d with
    | array items => exact absurd rfl (hd items)
    | _ => rfl
  table := inOrder_table_eq_ok_iff
  tableViolations fields t violations hread := by
    rw [← reported_inOrder_table, hread]
    exact .refl _
  notATable fields d hd := by
    cases d with
    | table t => exact absurd rfl (hd t)
    | _ => rfl

def blankOrders : Document :=
  .table [("registrations", .array [.table
    [("immutable", .str "shop:Fixed"), ("definition", .str " shop : a:Order\n")]])]

def flawedOrders : Document :=
  .table [("registrations", .array [.table
    [("definition", .int 3), ("create", .str " : make"), ("owner", .bool true)], .str "shop:Order"]),
    ("version", .int 2)]

def orderFlaws : List Violation :=
  [⟨[.key "registrations", .index 0, .key "definition"], .notAText⟩,
    ⟨[.key "registrations", .index 0, .key "immutable"], .missing⟩,
    ⟨[.key "registrations", .index 0, .key "create"], .malformedReference " : make"⟩,
    ⟨[.key "registrations", .index 0, .key "owner"], .unknownKey⟩,
    ⟨[.key "registrations", .index 1], .notATable⟩, ⟨[.key "version"], .unknownKey⟩]

theorem registrations_grammar_orders :
    inOrder.IsDocumented ∧ blankOrders.IsToml ∧ flawedOrders.IsToml ∧ blankOrders.IsRegistrations ∧
      ¬ flawedOrders.IsRegistrations ∧
      (∀ nulls, inOrder.registrations (RegistrationEntry.toDocument nulls
        [⟨"shop : a:Order", "shop:Fixed", none, none, none⟩]) =
          .ok (RegistrationEntry.toDocument true [⟨"shop : a:Order", "shop:Fixed", none, none, none⟩])) ∧
      ∀ w, flawedOrders.Violates w ↔ w ∈ orderFlaws := by
  have hblank : blankOrders.IsToml := by
    refine .table (by decide) (List.forall_mem_singleton.2 (.array (List.forall_mem_singleton.2 ?_)))
    exact .table (by decide) (List.forall_mem_cons.2 ⟨.str _, List.forall_mem_singleton.2 (.str _)⟩)
  have hitem : (Document.table [("definition", .int 3), ("create", .str " : make"),
      ("owner", .bool true)]).IsToml := by
    refine .table (by decide) (List.forall_mem_cons.2 ⟨.int 3, ?_⟩)
    exact List.forall_mem_cons.2 ⟨.str _, List.forall_mem_singleton.2 (.bool true)⟩
  have hflawed : flawedOrders.IsToml := by
    refine .table (by decide) (List.forall_mem_cons.2 ⟨.array ?_, List.forall_mem_singleton.2 (.int 2)⟩)
    exact List.forall_mem_cons.2 ⟨hitem, List.forall_mem_singleton.2 (.str _)⟩
  have hvalue : inOrder.registrations blankOrders =
      .ok (RegistrationEntry.toDocument true [⟨"shop : a:Order", "shop:Fixed", none, none, none⟩]) := rfl
  have hreported : reported (inOrder.registrations flawedOrders) = orderFlaws := by decide +kernel
  obtain ⟨haccepts, hgives, -⟩ := registrations_grammar inOrder_isDocumented hblank
  obtain ⟨hrefuses, -, hreports⟩ := registrations_grammar inOrder_isDocumented hflawed
  have hviolations : inOrder.registrations flawedOrders = .error orderFlaws := by
    cases hread : inOrder.registrations flawedOrders with
    | ok value =>
        rw [hread] at hreported
        cases hreported
    | error violations =>
        rw [hread] at hreported
        exact congrArg Except.error hreported
  refine ⟨inOrder_isDocumented, hblank, hflawed, haccepts.1 ⟨_, hvalue⟩, fun hgrammar => ?_, ?_, fun w => ?_⟩
  · obtain ⟨value, haccepted⟩ := hrefuses.2 hgrammar
    rw [hviolations] at haccepted
    cases haccepted
  · obtain ⟨entries, hread, -, -, hagain⟩ := hgives _ hvalue
    cases hread
    exact hagain
  · exact ((hreports _ hviolations).2.1 w).symm

end Validator

end RecordBinding
