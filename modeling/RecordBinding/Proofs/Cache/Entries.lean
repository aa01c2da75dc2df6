import Mathlib.Algebra.Order.Group.Defs
import Mathlib.Algebra.Order.Group.Int
import RecordBinding.Proofs.Cache.Operations

namespace RecordBinding

/-- Sums, differences and comparisons of instants are exact. -/
class TimeScale.IsExact (τ : Type) [AddCommGroup τ] [LinearOrder τ] [TimeScale τ] : Prop where
  add_eq (a b : τ) : TimeScale.add a b = a + b
  sub_eq (a b : τ) : TimeScale.sub a b = a - b
  before_iff (a b : τ) : TimeScale.before a b = true ↔ a < b
  atLeast_iff (a b : τ) : TimeScale.atLeast a b = true ↔ b ≤ a

instance : TimeScale.IsExact Int :=
  ⟨fun _ _ => rfl, fun _ _ => rfl, fun _ _ => decide_eq_true_iff, fun _ _ => decide_eq_true_iff⟩

namespace Cache

variable {κ β τ : Type} [BEq κ] (c : Cache κ β τ)

section IdleTime

variable (key : κ) (ticket : BuildTicket κ)

@[simp] theorem setEntry_idleTime (entry : CacheEntry β τ) :
    (c.setEntry key entry).idleTime = c.idleTime := by
  unfold setEntry
  split <;> rfl

@[simp] theorem release_idleTime : (c.release ticket).idleTime = c.idleTime := by
  unfold release
  split <;> rfl

@[simp] theorem publish_idleTime (value : β) (now : τ) :
    (c.publish ticket value now).idleTime = c.idleTime := by
  unfold publish
  dsimp only
  split
  · rw [setEntry_idleTime, release_idleTime]
  · exact c.release_idleTime ticket

@[simp] theorem joinBuild_idleTime : (c.joinBuild key).2.idleTime = c.idleTime := by
  unfold joinBuild
  split <;> rfl

omit [BEq κ] in
@[simp] theorem sweep_idleTime [TimeScale τ] (now : τ) : (c.sweep now).idleTime = c.idleTime := by
  unfold sweep
  split <;> rfl

@[simp] theorem lookup_idleTime [TimeScale τ] (now : τ) :
    (c.lookup key now).2.idleTime = c.idleTime := by
  unfold lookup
  dsimp only
  split
  · split
    · rw [joinBuild_idleTime, eraseEntry, sweep_idleTime]
    · rw [setEntry_idleTime, sweep_idleTime]
  · rw [joinBuild_idleTime, sweep_idleTime]

end IdleTime

section NextSweep

variable (key : κ) (ticket : BuildTicket κ)

@[simp] theorem setEntry_nextSweep (entry : CacheEntry β τ) :
    (c.setEntry key entry).nextSweep = c.nextSweep := by
  unfold setEntry
  split <;> rfl

@[simp] theorem release_nextSweep : (c.release ticket).nextSweep = c.nextSweep := by
  unfold release
  split <;> rfl

@[simp] theorem publish_nextSweep (value : β) (now : τ) :
    (c.publish ticket value now).nextSweep = c.nextSweep := by
  unfold publish
  dsimp only
  split
  · rw [setEntry_nextSweep, release_nextSweep]
  · exact c.release_nextSweep ticket

@[simp] theorem joinBuild_nextSweep : (c.joinBuild key).2.nextSweep = c.nextSweep := by
  unfold joinBuild
  split <;> rfl

theorem lookup_nextSweep [TimeScale τ] (now : τ) :
    (c.lookup key now).2.nextSweep = (c.sweep now).nextSweep := by
  unfold lookup
  dsimp only
  split
  · split
    · rw [joinBuild_nextSweep, eraseEntry]
    · rw [setEntry_nextSweep]
  · rw [joinBuild_nextSweep]

end NextSweep

@[simp] theorem joinBuild_entries (key : κ) : (c.joinBuild key).2.entries = c.entries := by
  unfold joinBuild
  split <;> rfl

@[simp] theorem joinBuild_generation (key : κ) :
    (c.joinBuild key).2.generation = c.generation := by
  unfold joinBuild
  split <;> rfl

theorem publish_of_isCurrent {ticket : BuildTicket κ} (h : c.isCurrent ticket = true) (value : β)
    (now : τ) :
    c.publish ticket value now = (c.release ticket).setEntry ticket.key ⟨value, now⟩ :=
  if_pos h

theorem mem_setEntry {key : κ} {entry : CacheEntry β τ} {stored : κ × CacheEntry β τ}
    (h : stored ∈ (c.setEntry key entry).entries) : stored ∈ c.entries ∨ stored.2 = entry := by
  unfold setEntry at h
  split at h
  · obtain ⟨old, hold, heq⟩ := List.mem_map.1 h
    split at heq
    · exact .inr (heq ▸ rfl)
    · exact .inl (heq ▸ hold)
  · rcases List.mem_append.1 h with hold | hnew
    · exact .inl hold
    · exact .inr (List.mem_singleton.1 hnew ▸ rfl)

theorem mem_publish {ticket : BuildTicket κ} {value : β} {now : τ} {stored : κ × CacheEntry β τ}
    (h : stored ∈ (c.publish ticket value now).entries) :
    stored ∈ c.entries ∨ stored.2 = ⟨value, now⟩ := by
  unfold publish at h
  dsimp only at h
  split at h
  · exact (mem_setEntry _ h).imp_left fun hold => by rwa [release_entries] at hold
  · exact .inl (by rwa [release_entries] at h)

theorem mem_lookup [TimeScale τ] {key : κ} {now : τ} {stored : κ × CacheEntry β τ}
    (h : stored ∈ (c.lookup key now).2.entries) :
    stored ∈ (c.sweep now).entries ∨ stored.2.lastAccess = now := by
  unfold lookup at h
  dsimp only at h
  split at h
  · split at h
    · rw [joinBuild_entries] at h
      exact .inl (List.mem_of_mem_filter h)
    · exact (mem_setEntry _ h).imp_right fun hnew => by rw [hnew]
  · rw [joinBuild_entries] at h
    exact .inl h

theorem entry?_congr {c' : Cache κ β τ} (h : c'.entries = c.entries) (key : κ) :
    c'.entry? key = c.entry? key := by
  rw [ entry?, entry?, h]

section Keys

variable [EquivBEq κ]

theorem entry?_setEntry (key : κ) (entry : CacheEntry β τ) (other : κ) :
    Cache.entry? (c.setEntry key entry) other =
      if key == other then some entry else c.entry? other := by
  have hsame : ∀ stored : κ, (stored == key) = true → (stored == other) = (key == other) := by
    intro stored hkey
    rw [Bool.eq_iff_iff]
    exact ⟨fun h => BEq.trans (BEq.symm hkey) h, fun h => BEq.trans hkey h⟩
  unfold setEntry entry?
  split
  · next hany =>
      have hkeys : (fun stored : κ × CacheEntry β τ => stored.1 == other) ∘
          (fun stored => if stored.1 == key then (stored.1, entry) else stored) =
          fun stored => stored.1 == other := by
        funext stored
        dsimp only [Function.comp_apply]
        split <;> rfl
      rw [List.find?_map, hkeys, Option.map_map]
      cases hfind : c.entries.find? fun stored => stored.1 == other with
      | none =>
          obtain ⟨stored, hstored, hkey⟩ := List.any_eq_true.1 hany
          have hother := List.find?_eq_none.1 hfind stored hstored
          rw [hsame _ hkey] at hother
          rw [if_neg hother]
          rfl
      | some stored =>
          have hother : (stored.1 == other) = true :=
            List.find?_some (p := fun stored : κ × CacheEntry β τ => stored.1 == other) hfind
          by_cases hkey : (stored.1 == key) = true
          · rw [if_pos ((hsame _ hkey).symm.trans hother)]
            simp [hkey]
          · have hne : ¬ (key == other) = true :=
              fun h => hkey (BEq.trans hother (BEq.symm h))
            rw [if_neg hne]
            simp [hkey]
  · next hany =>
      rw [List.find?_append]
      by_cases hkey : (key == other) = true
      · have hnone : (c.entries.find? fun stored => stored.1 == other) = none := by
          rw [List.find?_eq_none]
          intro stored hstored hother
          exact hany (List.any_eq_true.2 ⟨stored, hstored, BEq.trans hother (BEq.symm hkey)⟩)
        rw [hnone, if_pos hkey]
        simp [hkey]
      · rw [if_neg hkey]
        simp [hkey]

theorem entry?_invalidate (key other : κ) :
    Cache.entry? (c.invalidate key) other = if key == other then none else c.entry? other := by
  rw [ entry?, invalidate, find?_without]
  split <;> rfl

theorem entry?_publish {ticket : BuildTicket κ} (h : c.isCurrent ticket = true) (value : β) (now : τ)
    (other : κ) :
    Cache.entry? (c.publish ticket value now) other =
      if ticket.key == other then some ⟨value, now⟩ else c.entry? other := by
  rw [publish_of_isCurrent c h, entry?_setEntry, entry?_congr _ (c.release_entries ticket)]

end Keys

/-- No two entries have one key. -/
def Distinct (c : Cache κ β τ) : Prop :=
  c.entries.Pairwise fun a b => (a.1 == b.1) = false

omit [BEq κ] in
theorem sublist_sweep [TimeScale τ] (now : τ) : (c.sweep now).entries.Sublist c.entries := by
  unfold sweep
  split
  · exact .refl _
  · exact List.filter_sublist

section Distinct

variable {c}

theorem Distinct.of_sublist {c' : Cache κ β τ} (h : c.Distinct)
    (hentries : c'.entries.Sublist c.entries) : c'.Distinct :=
  List.Pairwise.sublist hentries h

theorem Distinct.setEntry (h : c.Distinct) (key : κ) (entry : CacheEntry β τ) :
    (c.setEntry key entry).Distinct := by
  unfold Cache.setEntry Distinct
  split
  · refine List.Pairwise.map _ (fun a b hab => ?_) h
    split <;> split <;> exact hab
  · next hany =>
      refine List.pairwise_append.2 ⟨h, List.pairwise_singleton _ _, fun a ha b hb => ?_⟩
      obtain rfl := List.mem_singleton.1 hb
      rw [Bool.eq_false_iff]
      exact fun hkey => hany (List.any_eq_true.2 ⟨a, ha, hkey⟩)

theorem find?_filter_of_pairwise [EquivBEq κ] {α : Type} {entries : List (κ × α)}
    (h : entries.Pairwise fun a b => (a.1 == b.1) = false) (kept : κ × α → Bool) (key : κ) :
    (entries.filter kept).find? (fun entry => entry.1 == key) =
      (entries.find? fun entry => entry.1 == key).filter kept := by
  induction entries with
  | nil => rfl
  | cons entry entries ih =>
      obtain ⟨hentry, hentries⟩ := List.pairwise_cons.1 h
      by_cases hkey : (entry.1 == key) = true
      · have hnone : (entries.filter kept).find? (fun other => other.1 == key) = none := by
          rw [List.find?_eq_none]
          intro other hother hsame
          have hdistinct := hentry other (List.mem_of_mem_filter hother)
          rw [BEq.trans hkey (BEq.symm hsame)] at hdistinct
          cases hdistinct
        by_cases hkept : kept entry = true
        · simp [hkept, hkey, Option.filter]
        · rw [List.filter_cons_of_neg hkept, hnone]
          simp [hkept, hkey, Option.filter]
      · have hfind : ∀ others : List (κ × α), (entry :: others).find? (fun other => other.1 == key) =
            others.find? fun other => other.1 == key :=
          fun others => List.find?_cons_of_neg hkey
        rw [hfind, ← ih hentries, List.filter_cons]
        split
        · exact hfind _
        · rfl

end Distinct

variable [TimeScale τ] {c}

theorem entry?_sweep {key : κ} {entry : CacheEntry β τ} {now : τ} (h : c.entry? key = some entry)
    (hfresh : c.isExpired now entry = false) : Cache.entry? (c.sweep now) key = some entry := by
  unfold sweep
  split
  · exact h
  · obtain ⟨⟨stored, found⟩, hfind, rfl⟩ := Option.map_eq_some_iff.1 h
    obtain ⟨hkey, earlier, later, hentries, hearlier⟩ := List.find?_eq_some_iff_append.1 hfind
    let kept := fun other : κ × CacheEntry β τ => !c.isExpired now other.2
    have hkept : (c.entries.filter kept).find? (fun other => other.1 == key) = some (stored, found) := by
      refine List.find?_eq_some_iff_append.2
        ⟨hkey, earlier.filter kept, later.filter kept, ?_, fun other hother => ?_⟩
      · rw [hentries, List.filter_append, List.filter_cons_of_pos]
        simpa [kept] using hfresh
      · exact hearlier other (List.mem_of_mem_filter hother)
    rw [ entry?, hkept]
    rfl

theorem entry?_sweep_cases [EquivBEq κ] (h : c.Distinct) (key : κ) (now : τ) :
    Cache.entry? (c.sweep now) key = c.entry? key ∨
      Cache.entry? (c.sweep now) key = none ∧
        ∃ entry, c.entry? key = some entry ∧ c.isExpired now entry = true := by
  cases hentry : c.entry? key with
  | none =>
      left
      rw [ entry?, Option.map_eq_none_iff, List.find?_eq_none] at hentry ⊢
      exact fun stored hstored => hentry stored ((c.sublist_sweep now).subset hstored)
  | some entry =>
      cases hexpired : c.isExpired now entry with
      | false => exact .inl (entry?_sweep hentry hexpired)
      | true =>
          by_cases hdue : TimeScale.before now c.nextSweep = true
          · left
            rw [sweep, if_pos hdue, hentry]
          · refine .inr ⟨?_, entry, rfl, hexpired⟩
            obtain ⟨⟨stored, found⟩, hfind, rfl⟩ := Option.map_eq_some_iff.1 hentry
            rw [sweep, if_neg hdue, entry?]
            dsimp only
            rw [find?_filter_of_pairwise h, hfind]
            simp [hexpired]

theorem lookup_of_entry? {key : κ} {entry : CacheEntry β τ} {now : τ} (h : c.entry? key = some entry)
    (hfresh : c.isExpired now entry = false) :
    c.lookup key now = (⟨.hit entry.value, c.size - (c.sweep now).size, false⟩,
      (c.sweep now).setEntry key ⟨entry.value, now⟩) := by
  have hkept : (c.sweep now).isExpired now entry = false := by
    rw [isExpired, sweep_idleTime]
    exact hfresh
  unfold lookup
  dsimp only
  rw [ entry?_sweep h hfresh]
  dsimp only
  rw [hkept]
  rfl

omit [TimeScale τ] in
theorem eraseEntry_of_entry?_none {key : κ} (h : c.entry? key = none) : c.eraseEntry key = c := by
  rw [ entry?, Option.map_eq_none_iff, List.find?_eq_none] at h
  rw [eraseEntry, List.filter_eq_self.2]
  intro stored hstored
  simpa using h stored hstored

omit [TimeScale τ] in
theorem release_joinBuild [ReflBEq κ] (h : c.pending = []) (key : κ) :
    (c.joinBuild key).1 = .run (c.nextTicket key) ∧
      (c.joinBuild key).2.release (c.nextTicket key) =
        { c with buildsBegun := c.buildsBegun + 1 } := by
  have hnone : c.pending? key = none := by
    rw [pending?, h]
    rfl
  rw [joinBuild, hnone]
  simp [release, pending?, nextTicket, h]

theorem lookup_of_idle [EquivBEq κ] (h : c.Distinct) {key : κ} {now : τ}
    (hidle : ∀ entry, c.entry? key = some entry → c.isExpired now entry = true) :
    (c.lookup key now).1.outcome = (((c.sweep now).eraseEntry key).joinBuild key).1 ∧
      (c.lookup key now).2 = (((c.sweep now).eraseEntry key).joinBuild key).2 := by
  unfold lookup
  dsimp only
  cases hentry : Cache.entry? (c.sweep now) key with
  | none =>
      rw [eraseEntry_of_entry?_none hentry]
      exact ⟨rfl, rfl⟩
  | some entry =>
      have hexpired : (c.sweep now).isExpired now entry = true := by
        rw [isExpired, sweep_idleTime]
        rcases entry?_sweep_cases h key now with hkept | ⟨hnone, -⟩
        · exact hidle entry (hkept.symm.trans hentry)
        · rw [hnone] at hentry
          cases hentry
      dsimp only
      rw [if_pos hexpired]
      exact ⟨rfl, rfl⟩

theorem entry?_of_hit [EquivBEq κ] {key : κ} {value : β} {now : τ}
    (h : (c.lookup key now).1.outcome = .hit value) :
    Cache.entry? (c.lookup key now).2 key = some ⟨value, now⟩ := by
  have hbuild : ∀ c : Cache κ β τ, (c.joinBuild key).1 ≠ .hit value := by
    intro c hc
    unfold joinBuild at hc
    split at hc <;> cases hc
  unfold lookup at h ⊢
  dsimp only at h ⊢
  split at h
  · split at h
    · exact absurd h (hbuild _)
    · next hkept =>
        cases h
        rw [if_neg hkept, entry?_setEntry, if_pos (beq_self_eq_true key)]
  · exact absurd h (hbuild _)

section IsExact

variable [AddCommGroup τ] [LinearOrder τ] [TimeScale.IsExact τ]

omit [BEq κ] in
theorem isExpired_iff (now : τ) (entry : CacheEntry β τ) :
    c.isExpired now entry = true ↔ c.idleTime ≤ now - entry.lastAccess := by
  rw [isExpired, TimeScale.IsExact.atLeast_iff, TimeScale.IsExact.sub_eq]

end IsExact

end Cache

end RecordBinding
