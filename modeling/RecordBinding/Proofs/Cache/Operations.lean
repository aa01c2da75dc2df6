import Mathlib.Data.List.Basic
import RecordBinding.Cache.Basic

namespace RecordBinding.Cache

variable {κ β τ : Type} [BEq κ]

/-- A value is stored under a key equal to the given one, usable or not. -/
def Stores (c : Cache κ β τ) (key : κ) (value : β) : Prop :=
  ∃ stored entry, (stored, entry) ∈ c.entries ∧ (stored == key) = true ∧ entry.value = value

/-- What a lookup may change besides the builds under way: entries go, or are refreshed. -/
structure Keeps (c c' : Cache κ β τ) : Prop where
  stores : ∀ key value, c'.Stores key value → c.Stores key value
  pending : c'.pending = c.pending
  generation : c'.generation = c.generation
  buildsBegun : c'.buildsBegun = c.buildsBegun

namespace Keeps

variable {c c' c'' : Cache κ β τ}

theorem trans (h : c.Keeps c') (h' : c'.Keeps c'') : c.Keeps c'' :=
  ⟨fun key value hv => h.stores key value (h'.stores key value hv), h'.pending.trans h.pending,
    h'.generation.trans h.generation, h'.buildsBegun.trans h.buildsBegun⟩

theorem of_subset (hentries : ∀ entry ∈ c'.entries, entry ∈ c.entries)
    (hpending : c'.pending = c.pending) (hgeneration : c'.generation = c.generation)
    (hbuilds : c'.buildsBegun = c.buildsBegun) : c.Keeps c' := by
  refine ⟨?_, hpending, hgeneration, hbuilds⟩
  rintro key value ⟨stored, entry, hmem, hkey, hvalue⟩
  exact ⟨stored, entry, hentries _ hmem, hkey, hvalue⟩

end Keeps

variable (c : Cache κ β τ)

theorem entry?_eq_none_iff (key : κ) :
    c.entry? key = none ↔ ∀ value, ¬ c.Stores key value := by
  rw [ entry?, Option.map_eq_none_iff, List.find?_eq_none]
  constructor
  · rintro h value ⟨stored, entry, hmem, hkey, -⟩
    exact h _ hmem hkey
  · rintro h ⟨stored, entry⟩ hmem hkey
    exact h entry.value ⟨stored, entry, hmem, hkey, rfl⟩

theorem stores_of_found_entry {key : κ} {entry : CacheEntry β τ} (h : c.entry? key = some entry) :
    c.Stores key entry.value := by
  obtain ⟨⟨stored, found⟩, hfind, rfl⟩ := Option.map_eq_some_iff.1 h
  have hkey := List.find?_some hfind
  exact ⟨stored, found, List.mem_of_find?_eq_some hfind, hkey, rfl⟩

theorem mem_of_pending? {key : κ} {build : Nat} (h : c.pending? key = some build) :
    ∃ asked, (asked, build) ∈ c.pending ∧ (asked == key) = true := by
  obtain ⟨⟨asked, found⟩, hfind, rfl⟩ := Option.map_eq_some_iff.1 h
  have hkey := List.find?_some hfind
  exact ⟨asked, List.mem_of_find?_eq_some hfind, hkey⟩

variable {c} in
theorem pending?_congr {c' : Cache κ β τ} (h : c'.pending = c.pending) (key : κ) :
    c'.pending? key = c.pending? key := by
  rw [pending?, pending?, h]

variable {c} in
theorem pending?_snoc {c' : Cache κ β τ} {asked : κ} {build : Nat}
    (h : c'.pending = c.pending ++ [(asked, build)]) (key : κ) :
    c'.pending? key = (c.pending? key).or (if asked == key then some build else none) := by
  rw [pending?, pending?, h, List.find?_append, Option.map_or]
  cases hkey : asked == key <;> simp [hkey]

section Set

variable (key : κ) (entry : CacheEntry β τ)

@[simp] theorem setEntry_pending : (c.setEntry key entry).pending = c.pending := by
  unfold setEntry
  split <;> rfl

@[simp] theorem setEntry_generation : (c.setEntry key entry).generation = c.generation := by
  unfold setEntry
  split <;> rfl

@[simp] theorem setEntry_buildsBegun :
    (c.setEntry key entry).buildsBegun = c.buildsBegun := by
  unfold setEntry
  split <;> rfl

end Set

section Release

variable (ticket : BuildTicket κ)

@[simp] theorem release_entries : (c.release ticket).entries = c.entries := by
  unfold release
  split <;> rfl

@[simp] theorem release_generation : (c.release ticket).generation = c.generation := by
  unfold release
  split <;> rfl

@[simp] theorem release_buildsBegun : (c.release ticket).buildsBegun = c.buildsBegun := by
  unfold release
  split <;> rfl

theorem stores_release {key : κ} {value : β} :
    (c.release ticket).Stores key value ↔ c.Stores key value := by
  rw [Stores, Stores, release_entries]

end Release

@[simp] theorem publish_pending (ticket : BuildTicket κ) (value : β) (now : τ) :
    (c.publish ticket value now).pending = (c.release ticket).pending := by
  unfold publish
  dsimp only
  split
  · exact setEntry_pending _ _ _
  · rfl

@[simp] theorem publish_generation (ticket : BuildTicket κ) (value : β) (now : τ) :
    (c.publish ticket value now).generation = c.generation := by
  unfold publish
  dsimp only
  split
  · rw [setEntry_generation, release_generation]
  · exact c.release_generation ticket

@[simp] theorem publish_buildsBegun (ticket : BuildTicket κ) (value : β) (now : τ) :
    (c.publish ticket value now).buildsBegun = c.buildsBegun := by
  unfold publish
  dsimp only
  split
  · rw [setEntry_buildsBegun, release_buildsBegun]
  · exact c.release_buildsBegun ticket

theorem keeps_eraseEntry (key : κ) : c.Keeps (c.eraseEntry key) :=
  .of_subset (fun _ h => (List.mem_filter.1 h).1) rfl rfl rfl

theorem keeps_sweep [TimeScale τ] (now : τ) : c.Keeps (c.sweep now) := by
  unfold sweep
  split
  · exact .of_subset (fun _ h => h) rfl rfl rfl
  · exact .of_subset (fun _ h => (List.mem_filter.1 h).1) rfl rfl rfl

/-- What a lookup comes to, case by case, with the cache it leaves. -/
inductive Looked (c : Cache κ β τ) (key : κ) : LookupOutcome κ β → Cache κ β τ → Prop
  | hit {value : β} {c' : Cache κ β τ} (hvalue : c.Stores key value) (kept : c.Keeps c') :
      Looked c key (.hit value) c'
  | wait {build : Nat} {c' : Cache κ β τ} (hbuild : c.pending? key = some build)
      (kept : c.Keeps c') : Looked c key (.wait build) c'
  | run {c' : Cache κ β τ} (hnone : c.pending? key = none) (hentry : c'.entry? key = none)
      (hstores : ∀ other value, c'.Stores other value → c.Stores other value)
      (hpending : c'.pending = c.pending ++ [(key, c.buildsBegun)])
      (hgeneration : c'.generation = c.generation)
      (hbuilds : c'.buildsBegun = c.buildsBegun + 1) :
      Looked c key (.run (c.nextTicket key)) c'

theorem Looked.stores {c c' : Cache κ β τ} {asked : κ} {outcome : LookupOutcome κ β}
    (h : Looked c asked outcome c') {key : κ} {value : β} (hvalue : c'.Stores key value) :
    c.Stores key value := by
  cases h with
  | hit _ kept => exact kept.stores key value hvalue
  | wait _ kept => exact kept.stores key value hvalue
  | run _ _ hstores _ _ _ => exact hstores key value hvalue

theorem looked_joinBuild {c c' : Cache κ β τ} {key : κ} (kept : c.Keeps c')
    (hentry : c'.entry? key = none) :
    Looked c key (c'.joinBuild key).1 (c'.joinBuild key).2 := by
  have hpending : c'.pending? key = c.pending? key := pending?_congr kept.pending key
  rw [joinBuild]
  cases hbuild : c'.pending? key with
  | some build => exact .wait (hpending ▸ hbuild) kept
  | none =>
      dsimp only
      have hticket : c'.nextTicket key = c.nextTicket key := by
        rw [nextTicket, nextTicket, kept.buildsBegun, kept.generation]
      rw [hticket, kept.pending, kept.buildsBegun]
      exact .run (hpending ▸ hbuild) hentry kept.stores rfl kept.generation rfl

variable [EquivBEq κ]

theorem Stores.congr {c : Cache κ β τ} {key key' : κ} {value : β} (h : c.Stores key value)
    (hkey : (key == key') = true) : c.Stores key' value := by
  obtain ⟨stored, entry, hmem, hstored, hvalue⟩ := h
  exact ⟨stored, entry, hmem, BEq.trans hstored hkey, hvalue⟩

theorem stores_setEntry {key stored : κ} {entry : CacheEntry β τ} {value : β}
    (h : (c.setEntry key entry).Stores stored value) :
    c.Stores stored value ∨ (key == stored) = true ∧ value = entry.value := by
  obtain ⟨found, e, hmem, hfound, rfl⟩ := h
  unfold setEntry at hmem
  split at hmem
  · obtain ⟨⟨k, old⟩, hother, heq⟩ := List.mem_map.1 hmem
    dsimp only at heq
    split at heq
    · next hkey =>
        cases heq
        exact .inr ⟨BEq.trans (BEq.symm hkey) hfound, rfl⟩
    · cases heq
      exact .inl ⟨_, _, hother, hfound, rfl⟩
  · rcases List.mem_append.1 hmem with hold | hnew
    · exact .inl ⟨_, _, hold, hfound, rfl⟩
    · cases List.mem_singleton.1 hnew
      exact .inr ⟨hfound, rfl⟩

theorem keeps_refresh {key : κ} {entry : CacheEntry β τ} (now : τ) (h : c.entry? key = some entry) :
    c.Keeps (c.setEntry key ⟨entry.value, now⟩) := by
  refine ⟨?_, c.setEntry_pending _ _, c.setEntry_generation _ _, c.setEntry_buildsBegun _ _⟩
  intro stored value hstored
  rcases c.stores_setEntry hstored with hold | ⟨hkey, rfl⟩
  · exact hold
  · exact (c.stores_of_found_entry h).congr hkey

theorem find?_without {α : Type} (entries : List (κ × α)) (dropped key : κ) :
    (entries.filter fun entry => !(entry.1 == dropped)).find? (fun entry => entry.1 == key) =
      if dropped == key then none else entries.find? fun entry => entry.1 == key := by
  rw [List.find?_filter]
  split
  · next h =>
      rw [List.find?_eq_none]
      intro entry _ hentry
      obtain ⟨hkept, hkey⟩ : (entry.1 == dropped) = false ∧ (entry.1 == key) = true := by
        simpa using hentry
      rw [BEq.trans hkey (BEq.symm h)] at hkept
      cases hkept
  · next h =>
      congr 1
      funext entry
      cases hentry : entry.1 == key with
      | false => simp
      | true =>
          have hkept : (entry.1 == dropped) = false := by
            rw [Bool.eq_false_iff]
            exact fun hdropped => h (BEq.trans (BEq.symm hdropped) hentry)
          simp [hkept]

theorem entry?_eraseEntry (key other : κ) :
    Cache.entry? (c.eraseEntry key) other = if key == other then none else c.entry? other := by
  rw [ entry?, eraseEntry, find?_without]
  split <;> rfl

theorem looked [TimeScale τ] (key : κ) (now : τ) :
    Looked c key (c.lookup key now).1.outcome (c.lookup key now).2 := by
  have kept := c.keeps_sweep now
  rw [lookup]
  dsimp only
  cases hentry : Cache.entry? (c.sweep now) key with
  | none => exact looked_joinBuild kept hentry
  | some entry =>
      dsimp only
      split
      · refine looked_joinBuild (kept.trans ((c.sweep now).keeps_eraseEntry key)) ?_
        rw [entry?_eraseEntry, if_pos (beq_self_eq_true key)]
      · exact .hit (kept.stores _ _ ((c.sweep now).stores_of_found_entry hentry))
          (kept.trans ((c.sweep now).keeps_refresh now hentry))

theorem pending?_of_beq {key key' : κ} (h : (key == key') = true) :
    c.pending? key = c.pending? key' := by
  rw [pending?, pending?]
  congr 2
  funext entry
  rw [Bool.eq_iff_iff]
  exact ⟨fun hkey => BEq.trans hkey h, fun hkey => BEq.trans hkey (BEq.symm h)⟩

theorem pending?_invalidate (dropped key : κ) :
    (c.invalidate dropped).pending? key = if dropped == key then none else c.pending? key := by
  rw [pending?, invalidate, find?_without]
  split <;> rfl

theorem pending?_release (ticket : BuildTicket κ) (key : κ) :
    (c.release ticket).pending? key =
      if c.pending? ticket.key = some ticket.build ∧ (ticket.key == key) = true then none
      else c.pending? key := by
  rw [release]
  by_cases hown : c.pending? ticket.key = some ticket.build
  · rw [hown, if_pos (beq_self_eq_true _), pending?, find?_without]
    by_cases hkey : (ticket.key == key) = true
    · rw [if_pos hkey, if_pos ⟨rfl, hkey⟩]
      rfl
    · rw [if_neg hkey, if_neg fun h => hkey h.2]
      rfl
  · rw [if_neg fun h => hown (eq_of_beq h), if_neg fun h => hown h.1]

theorem release_pending_of_single {ticket : BuildTicket κ}
    (h : c.pending = [(ticket.key, ticket.build)]) : (c.release ticket).pending = [] := by
  have hown : c.pending? ticket.key = some ticket.build := by simp [pending?, h]
  rw [release, hown, if_pos (beq_self_eq_true _)]
  simp [h]

theorem stores_publish {ticket : BuildTicket κ} {value : β} {now : τ} {key : κ}
    {stored : β} (h : (c.publish ticket value now).Stores key stored) :
    c.Stores key stored ∨
      c.isCurrent ticket = true ∧ (ticket.key == key) = true ∧ stored = value := by
  unfold publish at h
  dsimp only at h
  split at h
  · next hcurrent =>
      rcases stores_setEntry _ h with hold | ⟨hkey, hvalue⟩
      · exact .inl ((c.stores_release ticket).1 hold)
      · exact .inr ⟨hcurrent, hkey, hvalue⟩
  · exact .inl ((c.stores_release ticket).1 h)

theorem stores_invalidate {dropped key : κ} {value : β}
    (h : (c.invalidate dropped).Stores key value) :
    c.Stores key value ∧ (dropped == key) = false := by
  obtain ⟨stored, entry, hmem, hkey, hvalue⟩ := h
  obtain ⟨hold, hkept⟩ := List.mem_filter.1 hmem
  refine ⟨⟨stored, entry, hold, hkey, hvalue⟩, ?_⟩
  rw [Bool.eq_false_iff]
  intro hdropped
  have hsame : (stored == dropped) = true := BEq.trans hkey (BEq.symm hdropped)
  simp [hsame] at hkept

end RecordBinding.Cache
