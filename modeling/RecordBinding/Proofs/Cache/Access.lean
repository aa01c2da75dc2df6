import RecordBinding.Proofs.Cache.Entries

namespace RecordBinding

/-- An access finds an entry or stores it. -/
inductive AccessKind where
  | found
  | stored
  deriving DecidableEq

/-- An access to the entry of a key, with the clock reading that it used. -/
structure Access (κ τ : Type) where
  key : κ
  reading : τ
  kind : AccessKind

variable {κ β τ : Type} [BEq κ]

/-- The last access to a key, in a log with the newest access first. -/
def lastAccess? (log : List (Access κ τ)) (key : κ) : Option (Access κ τ) :=
  log.find? fun access => access.key == key

theorem lastAccess?_cons (access : Access κ τ) (log : List (Access κ τ)) (key : κ) :
    lastAccess? (access :: log) key = if access.key == key then some access else lastAccess? log key := by
  rw [lastAccess?, List.find?_cons]
  cases access.key == key <;> rfl

theorem mem_of_lastAccess? {log : List (Access κ τ)} {key : κ} {access : Access κ τ}
    (h : lastAccess? log key = some access) : access ∈ log ∧ (access.key == key) = true := by
  rw [lastAccess?] at h
  exact ⟨List.mem_of_find?_eq_some h, by simpa using List.find?_some h⟩

theorem lastAccess?_of_append {later earlier : List (Access κ τ)} {access last : Access κ τ} {key : κ}
    (hkey : (access.key == key) = true) (h : lastAccess? (later ++ access :: earlier) key = some last) :
    last = access ∨ last ∈ later := by
  have hfound : (access :: earlier).find? (fun access => access.key == key) = some access :=
    List.find?_cons_of_pos hkey
  rw [lastAccess?, List.find?_append, hfound] at h
  cases hfind : later.find? fun access => access.key == key with
  | none =>
      rw [hfind] at h
      exact .inl (Option.some.inj h).symm
  | some found =>
      rw [hfind] at h
      obtain rfl := Option.some.inj h
      exact .inr (List.mem_of_find?_eq_some hfind)

namespace Cache

variable (c : Cache κ β τ)

section Logs

variable [TimeScale τ]

/-- The log after a lookup. -/
def logLookup (key : κ) (now : τ) (log : List (Access κ τ)) : List (Access κ τ) :=
  match (c.lookup key now).1.outcome with
  | .hit _ => ⟨key, now, .found⟩ :: log
  | _ => log

omit [BEq κ] [TimeScale τ] in
/-- The log after the end of a build with a value. -/
def logPublish (ticket : BuildTicket κ) (now : τ) (log : List (Access κ τ)) : List (Access κ τ) :=
  if c.isCurrent ticket then ⟨ticket.key, now, .stored⟩ :: log else log

/-- What sections under the lock lead to, with the accesses so far, when all clock readings that they use are
of some sort. -/
inductive Accessed (readable : τ → Prop) (idleTime start : τ) : List (Access κ τ) → Cache κ β τ → Prop
  | empty : Accessed readable idleTime start [] (Cache.empty idleTime start)
  | lookup {log : List (Access κ τ)} {c : Cache κ β τ} (h : Accessed readable idleTime start log c)
      (key : κ) {now : τ} (hnow : readable now) :
      Accessed readable idleTime start (c.logLookup key now log) (c.lookup key now).2
  | publish {log : List (Access κ τ)} {c : Cache κ β τ} (h : Accessed readable idleTime start log c)
      (ticket : BuildTicket κ) (value : β) {now : τ} (hnow : readable now) :
      Accessed readable idleTime start (c.logPublish ticket now log) (c.publish ticket value now)
  | abandon {log : List (Access κ τ)} {c : Cache κ β τ} (h : Accessed readable idleTime start log c)
      (ticket : BuildTicket κ) : Accessed readable idleTime start log (c.abandon ticket)
  | invalidate {log : List (Access κ τ)} {c : Cache κ β τ} (h : Accessed readable idleTime start log c)
      (key : κ) : Accessed readable idleTime start log (c.invalidate key)
  | clear {log : List (Access κ τ)} {c : Cache κ β τ} (h : Accessed readable idleTime start log c) :
      Accessed readable idleTime start log c.clear

end Logs

variable [EquivBEq κ] {c}

theorem entry?_of_beq {key other : κ} (h : (key == other) = true) : c.entry? key = c.entry? other := by
  have hsame : (fun entry : κ × CacheEntry β τ => entry.1 == key) = fun entry => entry.1 == other := by
    funext entry
    exact BEq.congr_right h
  rw [ entry?, entry?, hsame]

/-- Nothing but entries is removed. -/
structure Drops (c c' : Cache κ β τ) : Prop where
  distinct : c'.Distinct
  entries : ∀ key entry, c'.entry? key = some entry → c.entry? key = some entry

section Drops

omit [EquivBEq κ] in
theorem drops_of_entries_eq {c' : Cache κ β τ} (h : c.Distinct) (hentries : c'.entries = c.entries) :
    c.Drops c' :=
  ⟨h.of_sublist (hentries ▸ .refl _), fun key _ hentry => entry?_congr c hentries key ▸ hentry⟩

theorem drops_eraseEntry (h : c.Distinct) (key : κ) : c.Drops (c.eraseEntry key) := by
  refine ⟨h.of_sublist List.filter_sublist, fun other entry hentry => ?_⟩
  rw [entry?_eraseEntry] at hentry
  split at hentry
  · cases hentry
  · exact hentry

theorem drops_sweep [TimeScale τ] (h : c.Distinct) (now : τ) : c.Drops (c.sweep now) := by
  refine ⟨h.of_sublist (c.sublist_sweep now), fun key entry hentry => ?_⟩
  rcases entry?_sweep_cases h key now with hsame | ⟨hnone, -⟩
  · exact hsame ▸ hentry
  · rw [hnone] at hentry
    cases hentry

theorem drops_invalidate (h : c.Distinct) (key : κ) : c.Drops (c.invalidate key) := by
  refine ⟨h.of_sublist List.filter_sublist, fun other entry hentry => ?_⟩
  rw [entry?_invalidate] at hentry
  split at hentry
  · cases hentry
  · exact hentry

omit [EquivBEq κ] in
theorem drops_clear : c.Drops c.clear :=
  ⟨.nil, fun _ _ hentry => nomatch hentry⟩

omit [EquivBEq κ] in
theorem Drops.trans {c' c'' : Cache κ β τ} (h : c.Drops c') (h' : c'.Drops c'') : c.Drops c'' :=
  ⟨h'.distinct, fun key entry hentry => h.entries key entry (h'.entries key entry hentry)⟩

end Drops

section Lookup

variable [TimeScale τ] {asked : κ} {now : τ}

theorem lookup_cases (h : c.Distinct) (asked : κ) (now : τ) :
    (∃ entry, c.entry? asked = some entry ∧ c.isExpired now entry = false ∧
      (c.lookup asked now).1.outcome = .hit entry.value ∧
      (c.lookup asked now).2 = (c.sweep now).setEntry asked ⟨entry.value, now⟩) ∨
    (∀ entry, c.entry? asked = some entry → c.isExpired now entry = true) ∧
      (∀ value, (c.lookup asked now).1.outcome ≠ .hit value) ∧
      (c.lookup asked now).2.entries = ((c.sweep now).eraseEntry asked).entries := by
  by_cases hfresh : ∃ entry, c.entry? asked = some entry ∧ c.isExpired now entry = false
  · obtain ⟨entry, hentry, hfresh⟩ := hfresh
    rw [ lookup_of_entry? hentry hfresh]
    exact .inl ⟨entry, hentry, hfresh, rfl, rfl⟩
  · have hidle : ∀ entry, c.entry? asked = some entry → c.isExpired now entry = true := by
      intro entry hentry
      by_contra hexpired
      exact hfresh ⟨entry, hentry, Bool.eq_false_iff.2 hexpired⟩
    obtain ⟨houtcome, hcache⟩ := lookup_of_idle h hidle
    refine .inr ⟨hidle, fun value hvalue => ?_, by rw [hcache, joinBuild_entries]⟩
    rw [houtcome, joinBuild] at hvalue
    split at hvalue <;> cases hvalue

theorem exists_entry?_of_hit (h : c.Distinct) {value : β}
    (hhit : (c.lookup asked now).1.outcome = .hit value) :
    ∃ entry, c.entry? asked = some entry ∧ c.isExpired now entry = false ∧ entry.value = value := by
  obtain ⟨entry, hentry, hfresh, houtcome, -⟩ | ⟨-, hmiss, -⟩ := lookup_cases h asked now
  · exact ⟨entry, hentry, hfresh, LookupOutcome.hit.inj (houtcome.symm.trans hhit)⟩
  · exact absurd hhit (hmiss value)

theorem isExpired_of_lookup (h : c.Distinct) {key : κ} {entry : CacheEntry β τ}
    (hentry : c.entry? key = some entry) (hgone : Cache.entry? (c.lookup asked now).2 key = none) :
    c.isExpired now entry = true := by
  have hswept : Cache.entry? (c.sweep now) key = none → c.isExpired now entry = true := by
    intro hnone
    rcases entry?_sweep_cases h key now with hsame | ⟨-, other, hother, hexpired⟩
    · rw [← hsame, hnone] at hentry
      cases hentry
    · rw [hentry] at hother
      cases hother
      exact hexpired
  obtain ⟨found, -, -, -, hcache⟩ | ⟨hidle, -, hentries⟩ := lookup_cases h asked now
  · rw [hcache, entry?_setEntry] at hgone
    split at hgone
    · cases hgone
    · exact hswept hgone
  · rw [entry?_congr _ hentries, entry?_eraseEntry] at hgone
    split at hgone
    · next hkey => exact hidle entry ((entry?_of_beq hkey).trans hentry)
    · exact hswept hgone

theorem entry?_lookup (h : c.Distinct) {key : κ} {entry : CacheEntry β τ}
    (hentry : Cache.entry? (c.lookup asked now).2 key = some entry) :
    c.entry? key = some entry ∨
      (asked == key) = true ∧ (c.lookup asked now).1.outcome = .hit entry.value ∧
        entry.lastAccess = now := by
  have hswept := (drops_sweep h now).entries
  obtain ⟨found, -, -, houtcome, hcache⟩ | ⟨-, -, hentries⟩ := lookup_cases h asked now
  · rw [hcache, entry?_setEntry] at hentry
    split at hentry
    · next hkey =>
        cases hentry
        exact .inr ⟨hkey, houtcome, rfl⟩
    · exact .inl (hswept _ _ hentry)
  · rw [entry?_congr _ hentries] at hentry
    exact .inl (hswept _ _ ((drops_eraseEntry (drops_sweep h now).distinct asked).entries _ _ hentry))

end Lookup

/-- Each entry was last accessed as the log says. -/
structure Tracks (c : Cache κ β τ) (log : List (Access κ τ)) : Prop where
  distinct : c.Distinct
  last : ∀ key entry, c.entry? key = some entry →
    ∃ access, lastAccess? log key = some access ∧ access.reading = entry.lastAccess

namespace Tracks

variable {log : List (Access κ τ)}

omit [EquivBEq κ] in
theorem drop (h : c.Tracks log) {c' : Cache κ β τ} (hdrops : c.Drops c') : c'.Tracks log :=
  ⟨hdrops.distinct, fun key entry hentry => h.last key entry (hdrops.entries key entry hentry)⟩

theorem setEntry (h : c.Tracks log) (access : Access κ τ) (value : β) :
    (c.setEntry access.key ⟨value, access.reading⟩).Tracks (access :: log) := by
  refine ⟨h.distinct.setEntry _ _, fun key entry hentry => ?_⟩
  rw [entry?_setEntry] at hentry
  rw [lastAccess?_cons]
  split at hentry
  · next hkey =>
      cases hentry
      exact ⟨access, if_pos hkey, rfl⟩
  · next hkey =>
      rw [if_neg hkey]
      exact h.last key entry hentry

theorem lookup [TimeScale τ] (h : c.Tracks log) (key : κ) (now : τ) :
    (c.lookup key now).2.Tracks (c.logLookup key now log) := by
  have hswept := drops_sweep h.distinct now
  obtain ⟨entry, -, -, houtcome, hcache⟩ | ⟨-, hmiss, hentries⟩ := lookup_cases h.distinct key now
  · rw [logLookup, houtcome, hcache]
    exact (h.drop hswept).setEntry ⟨key, now, .found⟩ entry.value
  · have hlog : c.logLookup key now log = log := by
      unfold logLookup
      split
      · next value hvalue => exact absurd hvalue (hmiss value)
      · rfl
    have herased := drops_eraseEntry hswept.distinct key
    rw [hlog]
    exact h.drop (hswept.trans (herased.trans (drops_of_entries_eq herased.distinct hentries)))

theorem publish (h : c.Tracks log) (ticket : BuildTicket κ) (value : β) (now : τ) :
    (c.publish ticket value now).Tracks (c.logPublish ticket now log) := by
  have hreleased := h.drop (drops_of_entries_eq h.distinct (c.release_entries ticket))
  unfold Cache.publish logPublish
  dsimp only
  split
  · exact hreleased.setEntry ⟨ticket.key, now, .stored⟩ value
  · exact hreleased

end Tracks

namespace Accessed

variable [TimeScale τ] {readable : τ → Prop} {idleTime start : τ} {log : List (Access κ τ)}

theorem tracks (h : c.Accessed readable idleTime start log) : c.Tracks log := by
  induction h with
  | empty => exact ⟨.nil, fun _ _ hentry => nomatch hentry⟩
  | lookup _ key hnow ih => exact ih.lookup key _
  | publish _ ticket value hnow ih => exact ih.publish ticket value _
  | @abandon log c _ ticket ih => exact ih.drop (drops_of_entries_eq ih.distinct (c.release_entries ticket))
  | invalidate _ key ih => exact ih.drop (drops_invalidate ih.distinct key)
  | clear _ ih => exact ih.drop drops_clear

omit [EquivBEq κ] in
theorem idleTime_eq (h : c.Accessed readable idleTime start log) : c.idleTime = idleTime := by
  induction h with
  | empty => rfl
  | @lookup log c _ key now hnow ih => exact (c.lookup_idleTime key now).trans ih
  | @publish log c _ ticket value now hnow ih => exact (c.publish_idleTime ticket value now).trans ih
  | @abandon log c _ ticket ih => exact (c.release_idleTime ticket).trans ih
  | invalidate _ key ih => exact ih
  | clear _ ih => exact ih

omit [EquivBEq κ] in
theorem readable_of_mem (h : c.Accessed readable idleTime start log) :
    ∀ access ∈ log, readable access.reading := by
  induction h with
  | empty => exact fun _ hmem => nomatch hmem
  | lookup _ key hnow ih =>
      unfold logLookup
      split
      · exact List.forall_mem_cons.2 ⟨hnow, ih⟩
      · exact ih
  | publish _ ticket value hnow ih =>
      unfold logPublish
      split
      · exact List.forall_mem_cons.2 ⟨hnow, ih⟩
      · exact ih
  | abandon _ ticket ih => exact ih
  | invalidate _ key ih => exact ih
  | clear _ ih => exact ih

end Accessed

end Cache

end RecordBinding
