import Mathlib.Data.List.Forall2
import RecordBinding.Proofs.Registrations.Entry

namespace RecordBinding

open Toml (Document Table)

/-- Registrations as a document. -/
def RegistrationEntry.toDocument (nulls : Bool) (entries : List RegistrationEntry) : Document :=
  .table [("registrations", .array (entries.map fun entry => .table (entry.toTable nulls)))]

namespace Toml.Document

/-- The grammar: a table with no other key than `registrations`, and under that key, if it is there, an array
of tables of registrations. -/
def IsRegistrations (d : Document) : Prop :=
  ∃ t : Table, d = .table t ∧ ∀ entry ∈ t, entry.1 = "registrations" ∧
    ∃ items, entry.2 = .array items ∧ ∀ item ∈ items, ∃ inner : Table, item = .table inner ∧
      inner.IsRegistration

/-- The violations of the grammar in a document, each at its place. -/
inductive Violates : Document → Violation → Prop
  | notATable {d : Document} (h : ∀ t, d ≠ .table t) : Violates d ⟨[], .notATable⟩
  | notAnArray {t : Table} {d : Document} (hmem : ("registrations", d) ∈ t)
      (harray : ∀ items, d ≠ .array items) : Violates (.table t) ⟨[.key "registrations"], .notAnArray⟩
  | item {t : Table} {items : List Document} {n : Nat} {item : Document} {v : Violation}
      (hmem : ("registrations", .array items) ∈ t) (hitem : items[n]? = some item)
      (h : RegistrationEntry.Violates item v) :
      Violates (.table t) ⟨.key "registrations" :: .index n :: v.place, v.kind⟩
  | unknownKey {t : Table} {entry : String × Document} (hmem : entry ∈ t)
      (hkey : entry.1 ≠ "registrations") : Violates (.table t) ⟨[.key entry.1], .unknownKey⟩

/-- The registrations of a document in its order: each has, trimmed, the texts of its table and no others. -/
def Gives (d : Document) (entries : List RegistrationEntry) : Prop :=
  ∃ t : Table, d = .table t ∧ (t.get? "registrations" = none ∧ entries = [] ∨
    ∃ items, t.get? "registrations" = some (.array items) ∧
      List.Forall₂ (fun item entry => ∃ inner : Table, item = .table inner ∧
        ∀ key ∈ RegistrationEntry.keys, entry.reference? key = (inner.text? key).map Text.trim)
        items entries)

end Toml.Document

namespace RegistrationEntry

section Items

variable {n : Nat} {items : List Document} {entries : List RegistrationEntry} {v : Violation}

theorem ofItems_eq_ok_iff :
    ofItems n items = .ok entries ↔
      List.Forall₂ (fun item entry => ofDocument item = .ok entry) items entries := by
  induction items generalizing n entries with
  | nil =>
      rw [ofItems, List.forall₂_nil_left_iff, Except.ok.injEq]
      exact eq_comm
  | cons item items ih =>
      rw [List.forall₂_cons_left_iff, ofItems]
      constructor
      · intro h
        split at h
        · next entry others hentry hothers =>
            cases h
            exact ⟨entry, others, hentry, ih.1 hothers, rfl⟩
        · cases h
        · cases h
        · cases h
      · rintro ⟨entry, others, hentry, hothers, rfl⟩
        rw [hentry, ih.2 hothers]

theorem reported_ofItems_cons (item : Document) :
    reported (ofItems n (item :: items)) =
      (reported (ofDocument item)).map (Violation.below (.index n)) ++
        reported (ofItems (n + 1) items) := by
  rw [ofItems]
  cases ofDocument item <;> cases ofItems (n + 1) items <;> simp [reported]

theorem exists_ofItems_eq_ok (h : reported (ofItems n items) = []) :
    ∃ entries, ofItems n items = .ok entries := by
  induction items generalizing n with
  | nil => exact ⟨[], rfl⟩
  | cons item items ih =>
      rw [reported_ofItems_cons, List.append_eq_nil_iff, List.map_eq_nil_iff] at h
      obtain ⟨entry, hentry⟩ := exists_ofDocument_eq_ok h.1
      obtain ⟨entries, hentries⟩ := ih h.2
      exact ⟨entry :: entries, ofItems_eq_ok_iff.2 (.cons hentry (ofItems_eq_ok_iff.1 hentries))⟩

theorem mem_reported_ofItems :
    v ∈ reported (ofItems n items) ↔ ∃ i item w, items[i]? = some item ∧
      w ∈ reported (ofDocument item) ∧ v = w.below (.index (n + i)) := by
  induction items generalizing n with
  | nil => simp [ofItems, reported]
  | cons item items ih =>
      rw [reported_ofItems_cons, List.mem_append, List.mem_map, ih]
      constructor
      · rintro (⟨w, hw, rfl⟩ | ⟨i, item, w, hitem, hw, rfl⟩)
        · exact ⟨0, item, w, rfl, hw, rfl⟩
        · exact ⟨i + 1, item, w, hitem, hw, by rw [Nat.add_right_comm, Nat.add_assoc]⟩
      · rintro ⟨i, item, w, hitem, hw, rfl⟩
        cases i with
        | zero =>
            cases hitem
            exact .inl ⟨w, hw, rfl⟩
        | succ i => exact .inr ⟨i, item, w, hitem, hw, by rw [Nat.add_right_comm, Nat.add_assoc]⟩

theorem nodup_places_ofItems (hitems : ∀ item ∈ items, item.IsToml) :
    ((reported (ofItems n items)).map Violation.place).Nodup := by
  induction items generalizing n with
  | nil => exact List.nodup_nil
  | cons item items ih =>
      have hbelow : ∀ violations : List Violation, (violations.map (Violation.below (.index n))).map
          Violation.place = (violations.map Violation.place).map (.index n :: ·) := by
        intro violations
        simp [Violation.below, Function.comp_def]
      rw [reported_ofItems_cons, List.map_append, hbelow]
      refine List.nodup_append.2 ⟨?_, ih fun other hother => hitems other (List.mem_cons_of_mem _ hother), ?_⟩
      · refine List.Nodup.map (fun a b hab => by simpa using hab) ?_
        exact nodup_places_ofDocument (hitems item List.mem_cons_self)
      · -- The places of the later items begin with a later index.
        intro place hplace other hother heq
        subst heq
        obtain ⟨inner, -, rfl⟩ := List.mem_map.1 hplace
        obtain ⟨v, hv, hplace⟩ := List.mem_map.1 hother
        obtain ⟨i, item, w, -, -, rfl⟩ := mem_reported_ofItems.1 hv
        simp only [Violation.below, List.cons.injEq, PathStep.index.injEq] at hplace
        omega

end Items

end RegistrationEntry

section Documents

open RegistrationEntry

variable {t : Table} {d : Document} {entries : List RegistrationEntry} {v : Violation}

/-- The registrations under the key for them. -/
def listedIn (t : Table) : Except (List Violation) (List RegistrationEntry) :=
  match t.get? "registrations" with
  | none => .ok []
  | some (.array items) => ofItems 0 items
  | some _ => .error [⟨[], .notAnArray⟩]

theorem readRegistrations_eq (t : Table) :
    readRegistrations t = match listedIn t, unknownKeys ["registrations"] t with
      | .ok entries, [] => .ok entries
      | .ok _, unknown => .error unknown
      | .error violations, unknown =>
          .error (violations.map (Violation.below (.key "registrations")) ++ unknown) :=
  rfl

theorem readRegistrations_eq_ok_iff :
    readRegistrations t = .ok entries ↔
      listedIn t = .ok entries ∧ unknownKeys ["registrations"] t = [] := by
  rw [readRegistrations_eq]
  cases listedIn t <;> cases unknownKeys ["registrations"] t <;> simp

theorem reported_readRegistrations (t : Table) :
    reported (readRegistrations t) =
      (reported (listedIn t)).map (Violation.below (.key "registrations")) ++
        unknownKeys ["registrations"] t := by
  rw [readRegistrations_eq]
  cases listedIn t <;> cases unknownKeys ["registrations"] t <;> simp [reported]

theorem exists_listedIn_eq_ok (h : reported (listedIn t) = []) : ∃ entries, listedIn t = .ok entries := by
  unfold listedIn at h ⊢
  split at h
  · exact ⟨[], rfl⟩
  · exact exists_ofItems_eq_ok h
  · cases h

theorem exists_readRegistrationsDocument_eq_ok (h : reported (readRegistrationsDocument d) = []) :
    ∃ entries, readRegistrationsDocument d = .ok entries := by
  cases d with
  | table t =>
      change reported (readRegistrations t) = [] at h
      rw [reported_readRegistrations, List.append_eq_nil_iff, List.map_eq_nil_iff] at h
      obtain ⟨entries, hentries⟩ := exists_listedIn_eq_ok h.1
      exact ⟨entries, readRegistrations_eq_ok_iff.2 ⟨hentries, h.2⟩⟩
  | _ => cases h

theorem mem_reported_listedIn (hd : (Document.table t).IsToml) :
    v ∈ (reported (listedIn t)).map (Violation.below (.key "registrations")) ↔
      (∃ d, ("registrations", d) ∈ t ∧ (∀ items, d ≠ .array items) ∧
        v = ⟨[.key "registrations"], .notAnArray⟩) ∨
      ∃ items n item w, ("registrations", .array items) ∈ t ∧ items[n]? = some item ∧
        RegistrationEntry.Violates item w ∧ v = ⟨.key "registrations" :: .index n :: w.place, w.kind⟩ := by
  obtain - | - | - | - | - | - | ⟨hdistinct, hentries⟩ := hd
  simp only [← Toml.Table.get?_eq_some_iff hdistinct]
  unfold listedIn
  split
  · next hget => simp [hget, reported]
  · next items hget =>
      have hitems : ∀ item ∈ items, item.IsToml := by
        have hlist := hentries _ ((Toml.Table.get?_eq_some_iff hdistinct).1 hget)
        cases hlist with
        | array hitems => exact hitems
      simp only [hget, Option.some.injEq, List.mem_map, mem_reported_ofItems, Nat.zero_add]
      constructor
      · rintro ⟨_, ⟨n, item, w, hitem, hw, rfl⟩, rfl⟩
        have htoml := hitems item (List.mem_of_getElem? hitem)
        exact .inr ⟨items, n, item, w, rfl, hitem, (mem_reported_ofDocument htoml).1 hw, rfl⟩
      · rintro (⟨_, rfl, harray, -⟩ | ⟨_, n, item, w, ⟨⟩, hitem, hw, rfl⟩)
        · exact absurd rfl (harray items)
        · have htoml := hitems item (List.mem_of_getElem? hitem)
          exact ⟨_, ⟨n, item, w, hitem, (mem_reported_ofDocument htoml).2 hw, rfl⟩, rfl⟩
  · next d harray hget =>
      simp only [hget, Option.some.injEq, reported, List.map_cons, List.map_nil, List.mem_singleton]
      constructor
      · rintro rfl
        exact .inl ⟨d, rfl, harray, rfl⟩
      · rintro (⟨_, rfl, -, rfl⟩ | ⟨items, _, _, _, rfl, -, -, -⟩)
        · rfl
        · exact absurd rfl (harray items)

theorem mem_reported_iff (hd : d.IsToml) : v ∈ reported (readRegistrationsDocument d) ↔ d.Violates v := by
  cases d with
  | table t =>
      change v ∈ reported (readRegistrations t) ↔ _
      rw [reported_readRegistrations, List.mem_append, mem_reported_listedIn hd, mem_unknownKeys]
      constructor
      · rintro ((⟨d, hmem, harray, rfl⟩ | ⟨items, n, item, w, hmem, hitem, hw, rfl⟩) |
          ⟨entry, hmem, hkey, rfl⟩)
        · exact .notAnArray hmem harray
        · exact .item hmem hitem hw
        · exact .unknownKey hmem (by simpa using hkey)
      · rintro (h | ⟨hmem, harray⟩ | ⟨hmem, hitem, hw⟩ | ⟨hmem, hkey⟩)
        · exact absurd rfl (h t)
        · exact .inl (.inl ⟨_, hmem, harray, rfl⟩)
        · exact .inl (.inr ⟨_, _, _, _, hmem, hitem, hw, rfl⟩)
        · exact .inr ⟨_, hmem, by simpa using hkey, rfl⟩
  | _ =>
      change v ∈ [⟨[], .notATable⟩] ↔ _
      rw [List.mem_singleton]
      constructor
      · rintro rfl
        exact .notATable nofun
      · rintro ⟨⟩
        rfl

theorem nodup_places_listedIn (hd : (Document.table t).IsToml) :
    ((reported (listedIn t)).map Violation.place).Nodup := by
  obtain - | - | - | - | - | - | ⟨hdistinct, hentries⟩ := hd
  unfold listedIn
  split
  · exact List.nodup_nil
  · next items hget =>
      have hlist := hentries _ ((Toml.Table.get?_eq_some_iff hdistinct).1 hget)
      cases hlist with
      | array hitems => exact nodup_places_ofItems hitems
  · exact List.nodup_singleton _

theorem nodup_places (hd : d.IsToml) :
    ((reported (readRegistrationsDocument d)).map Violation.place).Nodup := by
  cases d with
  | table t =>
      obtain - | - | - | - | - | - | ⟨hdistinct, -⟩ := id hd
      change ((reported (readRegistrations t)).map Violation.place).Nodup
      have hbelow : ((reported (listedIn t)).map (Violation.below (.key "registrations"))).map
          Violation.place = ((reported (listedIn t)).map Violation.place).map
            (.key "registrations" :: ·) := by
        simp [Violation.below, Function.comp_def]
      rw [reported_readRegistrations, List.map_append, hbelow, places_unknownKeys]
      refine List.nodup_append.2 ⟨?_, ?_, ?_⟩
      · exact (nodup_places_listedIn hd).map fun a b hab => by simpa using hab
      · exact (hdistinct.filter _).map fun a b hab => by simpa using hab
      · intro place hplace other hother heq
        subst heq
        obtain ⟨inner, -, rfl⟩ := List.mem_map.1 hplace
        obtain ⟨key, hkey, heq⟩ := List.mem_map.1 hother
        cases heq
        simpa using (List.mem_filter.1 hkey).2
  | _ => exact List.nodup_singleton _

theorem isRegistrations_iff : d.IsRegistrations ↔ ∀ v, ¬ d.Violates v := by
  constructor
  · rintro ⟨t, rfl, hentries⟩ v (h | ⟨hmem, harray⟩ | ⟨hmem, hitem, hw⟩ | ⟨hmem, hkey⟩)
    · exact h t rfl
    · obtain ⟨-, items, rfl, -⟩ := hentries _ hmem
      exact harray items rfl
    · obtain ⟨-, items, heq, hitems⟩ := hentries _ hmem
      cases heq
      obtain ⟨inner, rfl, hinner⟩ := hitems _ (List.mem_of_getElem? hitem)
      exact isRegistration_iff.1 hinner _ hw
    · exact hkey (hentries _ hmem).1
  · intro h
    have htable : ∃ t, d = .table t := by
      by_contra htable
      exact h _ (.notATable fun t heq => htable ⟨t, heq⟩)
    obtain ⟨t, rfl⟩ := htable
    refine ⟨t, rfl, fun entry hmem => ?_⟩
    have hkey : entry.1 = "registrations" := by
      by_contra hkey
      exact h _ (.unknownKey hmem hkey)
    obtain ⟨key, value⟩ := entry
    cases hkey
    have harray : ∃ items, value = .array items := by
      by_contra harray
      exact h _ (.notAnArray hmem fun items heq => harray ⟨items, heq⟩)
    obtain ⟨items, rfl⟩ := harray
    refine ⟨rfl, items, rfl, fun item hitem => ?_⟩
    obtain ⟨n, hn⟩ := List.getElem?_of_mem hitem
    have hinner : ∃ inner, item = .table inner := by
      by_contra hinner
      exact h _ (.item hmem hn (.notATable fun t heq => hinner ⟨t, heq⟩))
    obtain ⟨inner, rfl⟩ := hinner
    exact ⟨inner, rfl, isRegistration_iff.2 fun v hv => h _ (.item hmem hn hv)⟩

theorem forall₂_readFrom (h : readRegistrationsDocument d = .ok entries) :
    ∃ t : Table, d = .table t ∧ (t.get? "registrations" = none ∧ entries = [] ∨
      ∃ items, t.get? "registrations" = some (.array items) ∧
        List.Forall₂ (fun item entry => ∃ inner : Table, item = .table inner ∧ ReadFrom inner entry)
          items entries) := by
  cases d with
  | table t =>
      refine ⟨t, rfl, ?_⟩
      have hlisted := (readRegistrations_eq_ok_iff.1 h).1
      unfold listedIn at hlisted
      split at hlisted
      · next hget =>
          cases hlisted
          exact .inl ⟨hget, rfl⟩
      · next items hget =>
          refine .inr ⟨items, hget, (ofItems_eq_ok_iff.1 hlisted).imp fun item entry hentry => ?_⟩
          cases item with
          | table inner => exact ⟨inner, rfl, ofTable_eq_ok_iff.1 hentry⟩
          | _ => cases hentry
      · cases hlisted
  | _ => cases h

theorem isTrimmed_of_mem (h : readRegistrationsDocument d = .ok entries) {entry : RegistrationEntry}
    (hmem : entry ∈ entries) : entry.IsTrimmed := by
  obtain ⟨t, -, ⟨-, rfl⟩ | ⟨items, -, hentries⟩⟩ := forall₂_readFrom h
  · cases hmem
  · have htrimmed : List.Forall₂ (fun entry (_ : Document) => entry.IsTrimmed ∧ True) entries items :=
      hentries.flip.imp fun _ _ ⟨_, _, hread⟩ => ⟨hread.isTrimmed, trivial⟩
    exact ((List.forall₂_and_left _ _).1 htrimmed).1 entry hmem

theorem readRegistrationsDocument_toDocument (nulls : Bool) (h : ∀ entry ∈ entries, entry.IsTrimmed) :
    readRegistrationsDocument (toDocument nulls entries) = .ok entries := by
  have hlisted : ofItems 0 (entries.map fun entry => .table (entry.toTable nulls)) = .ok entries := by
    rw [ofItems_eq_ok_iff, List.forall₂_map_left_iff, List.forall₂_same]
    exact fun entry hmem => ofTable_toTable nulls (h entry hmem)
  have hread : readRegistrations
      [("registrations", .array (entries.map fun entry => .table (entry.toTable nulls)))] = .ok entries :=
    readRegistrations_eq_ok_iff.2 ⟨hlisted, by simp [unknownKeys]⟩
  exact hread

theorem gives_of_eq_ok (h : readRegistrationsDocument d = .ok entries) : d.Gives entries := by
  obtain ⟨t, rfl, hnone | ⟨items, hget, hentries⟩⟩ := forall₂_readFrom h
  · exact ⟨t, rfl, .inl hnone⟩
  · refine ⟨t, rfl, .inr ⟨items, hget, hentries.imp fun item entry hentry => ?_⟩⟩
    obtain ⟨inner, rfl, hread⟩ := hentry
    exact ⟨inner, rfl, fun key hkey => (hread.reference? hkey).1⟩

end Documents

/-- Reading a document accepts the grammar and nothing else. What it accepts it gives in order and trimmed, and
reads again unchanged. Of what it refuses it reports each violation once, at its place. -/
theorem readRegistrationsDocument_iff {d : Document} (hd : d.IsToml) :
    ((∃ entries, readRegistrationsDocument d = .ok entries) ↔ d.IsRegistrations) ∧
      (∀ entries, readRegistrationsDocument d = .ok entries →
        d.Gives entries ∧
          ∀ nulls, readRegistrationsDocument (RegistrationEntry.toDocument nulls entries) = .ok entries) ∧
      ∀ violations, readRegistrationsDocument d = .error violations →
        (violations.map Violation.place).Nodup ∧ ∀ v, v ∈ violations ↔ d.Violates v := by
  have hviolates : ∀ v, v ∈ reported (readRegistrationsDocument d) ↔ d.Violates v := fun _ =>
    mem_reported_iff hd
  refine ⟨⟨?_, fun h => ?_⟩, fun entries h => ⟨gives_of_eq_ok h, fun nulls => ?_⟩, fun violations h => ?_⟩
  · rintro ⟨entries, h⟩
    rw [h] at hviolates
    exact isRegistrations_iff.2 fun v hv => List.not_mem_nil ((hviolates v).2 hv)
  · refine exists_readRegistrationsDocument_eq_ok (List.eq_nil_iff_forall_not_mem.2 fun v hv => ?_)
    exact isRegistrations_iff.1 h v ((hviolates v).1 hv)
  · exact readRegistrationsDocument_toDocument nulls fun entry hmem => isTrimmed_of_mem h hmem
  · have hplaces := nodup_places hd
    rw [h] at hviolates hplaces
    exact ⟨hplaces, hviolates⟩

end RecordBinding
