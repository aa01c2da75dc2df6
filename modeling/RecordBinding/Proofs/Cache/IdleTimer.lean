import RecordBinding.Proofs.Cache.Access
import RecordBinding.Proofs.Cache.Interleaving

namespace RecordBinding

variable {κ β ε τ : Type}

/-- A cache with its concurrent callers and a clock that they read: the time, the reading that each call took
before it came to the lock, and the accesses so far. -/
structure ClockedCache (κ β ε τ : Type) extends SharedCache κ β ε τ where
  now : τ
  readings : Nat → Option τ
  accesses : List (Access κ τ)

/-- The log after the end of a build with the outcome of its factory. -/
def Cache.logConclude (c : Cache κ β τ) (ticket : BuildTicket κ) (outcome : Except ε β) (now : τ)
    (log : List (Access κ τ)) : List (Access κ τ) :=
  match outcome with
  | .ok _ => c.logPublish ticket now log
  | .error _ => log

namespace ClockedCache

variable [BEq κ] [TimeScale τ]

omit [BEq κ] in
def initial (idleTime start : τ) : ClockedCache κ β ε τ :=
  ⟨.initial idleTime start, start, fun _ => none, []⟩

/-- A call looks its key up with a reading of the clock. -/
def ask (s : ClockedCache κ β ε τ) (i : Nat) (key : κ) (reading : τ) : ClockedCache κ β ε τ :=
  { s with
    toSharedCache := s.record i ⟨key, s.clock, .ofLookup (s.cache.lookup key reading).1.outcome⟩
      { s.toCacheMemory with cache := (s.cache.lookup key reading).2 }
    accesses := s.cache.logLookup key reading s.accesses }

omit [TimeScale τ] in
/-- A call ends its build, with a reading of the clock taken under the lock. -/
def conclude (s : ClockedCache κ β ε τ) (i : Nat) (key : κ) (time : Nat) (ticket : BuildTicket κ)
    (outcome : Except ε (Dated β)) : ClockedCache κ β ε τ :=
  { s with
    toSharedCache := s.record i ⟨key, time, .owning ticket (.released outcome)⟩
      { s.toCacheMemory with cache := s.cache.conclude ticket outcome s.now }
    accesses := s.cache.logConclude ticket outcome s.now s.accesses }

/-- The clock goes on, a call reads it, comes to the lock with its reading or takes a further step, or
something is dropped. -/
inductive Step [LE τ] (s : ClockedCache κ β ε τ) : ClockedCache κ β ε τ → Prop
  | tick (later : τ) (hlater : s.now ≤ later) : Step s { s with now := later }
  | read (i : Nat) (free : s.readings i = none) :
      Step s { s with readings := Function.update s.readings i (some s.now) }
  | ask {i : Nat} {reading : τ} (hread : s.readings i = some reading) (free : s.calls i = none)
      (key : κ) : Step s (s.ask i key reading)
  | conclude {i : Nat} {key : κ} {time : Nat} {ticket : BuildTicket κ} {outcome : Except ε (Dated β)}
      (hcall : s.calls i = some ⟨key, time, .owning ticket (.ended outcome)⟩) :
      Step s (s.conclude i key time ticket outcome)
  | proceed {i : Nat} {call call' : CacheCall κ β ε} {m : CacheMemory κ β ε τ}
      (hcall : s.calls i = some call) (hstep : CallStep s.clock s.toCacheMemory call call' m)
      (houtside : ∀ ticket outcome, call.phase ≠ .owning ticket (.ended outcome)) :
      Step s { s with toSharedCache := s.record i call' m }
  | drop (dropping : Dropping κ) :
      Step s { s with
        cache := dropping.apply s.cache
        droppings := (s.clock, dropping) :: s.droppings
        clock := s.clock + 1 }

/-- The states that interleaved calls and droppings lead to, on a clock that never goes back. -/
inductive Reachable [LE τ] (idleTime start : τ) : ClockedCache κ β ε τ → Prop
  | initial : Reachable idleTime start (initial idleTime start)
  | step {s s' : ClockedCache κ β ε τ} (h : Reachable idleTime start s) (hstep : s.Step s') :
      Reachable idleTime start s'

section Shared

variable [LE τ] {s s' : ClockedCache κ β ε τ} {idleTime start : τ}

theorem Step.shared (h : s.Step s') :
    s'.toSharedCache = s.toSharedCache ∨ s.toSharedCache.Step s'.toSharedCache := by
  cases h with
  | tick later hlater => exact .inl rfl
  | read i free => exact .inl rfl
  | ask hread free key => exact .inr (.lookup _ key _ free)
  | conclude hcall => exact .inr (.call hcall (.conclude s.now))
  | proceed hcall hstep houtside => exact .inr (.call hcall hstep)
  | drop dropping => exact .inr (.drop dropping)

theorem Reachable.shared (h : s.Reachable idleTime start) :
    s.toSharedCache.Reachable idleTime start := by
  induction h with
  | initial => exact .initial
  | step h hstep ih =>
      rcases hstep.shared with hsame | hshared
      · exact hsame ▸ ih
      · exact ih.step hshared

omit [TimeScale τ] [LE τ] in
theorem cache_of_outside {clock : Nat} {m m' : CacheMemory κ β ε τ} {call call' : CacheCall κ β ε}
    (hstep : CallStep clock m call call' m')
    (houtside : ∀ ticket outcome, call.phase ≠ .owning ticket (.ended outcome)) : m'.cache = m.cache := by
  rcases hstep.cache_cases with ⟨hcache, -⟩ | ⟨ticket, outcome, -, hended, -⟩
  · exact hcache
  · exact absurd hended (houtside ticket outcome)

theorem Step.accessed (hstep : s.Step s')
    (h : s.cache.Accessed (fun _ => True) idleTime start s.accesses) :
    s'.cache.Accessed (fun _ => True) idleTime start s'.accesses := by
  cases hstep with
  | tick later hlater => exact h
  | read i free => exact h
  | ask hread free key => exact h.lookup key trivial
  | @conclude i key time ticket outcome hcall =>
      cases outcome with
      | ok value => exact h.publish ticket value trivial
      | error e => exact h.abandon ticket
  | proceed hcall hstep houtside =>
      rw [← cache_of_outside hstep houtside] at h
      exact h
  | drop dropping =>
      cases dropping with
      | all => exact h.clear
      | one key => exact h.invalidate key

theorem Reachable.accessed (h : s.Reachable idleTime start) :
    s.cache.Accessed (fun _ => True) idleTime start s.accesses := by
  induction h with
  | initial => exact .empty
  | step h hstep ih => exact hstep.accessed ih

end Shared

variable [LinearOrder τ] {s s' : ClockedCache κ β ε τ} {idleTime start : τ}

/-- Readings are past ones, and nothing was stored with an older reading than an access before it. -/
structure Timed (s : ClockedCache κ β ε τ) : Prop where
  readings : ∀ i reading, s.readings i = some reading → reading ≤ s.now
  accesses : ∀ access ∈ s.accesses, access.reading ≤ s.now
  stores : s.accesses.Pairwise fun newer older => newer.kind = .stored → older.reading ≤ newer.reading

namespace Timed

omit [BEq κ] [TimeScale τ] in
theorem cons (h : s.Timed) (access : Access κ τ) (hpast : access.reading ≤ s.now)
    (hstored : access.kind = .stored → access.reading = s.now)
    (haccesses : s'.accesses = s.accesses ∨ s'.accesses = access :: s.accesses)
    (hreadings : s'.readings = s.readings) (hnow : s'.now = s.now) : s'.Timed := by
  refine ⟨by rw [hreadings, hnow]; exact h.readings, ?_, ?_⟩
  · rw [hnow]
    rcases haccesses with hsame | hnew
    · rw [hsame]
      exact h.accesses
    · rw [hnew]
      exact List.forall_mem_cons.2 ⟨hpast, h.accesses⟩
  · rcases haccesses with hsame | hnew
    · rw [hsame]
      exact h.stores
    · rw [hnew]
      refine List.pairwise_cons.2 ⟨fun older holder hkind => ?_, h.stores⟩
      rw [hstored hkind]
      exact h.accesses older holder

theorem ask (h : s.Timed) {i : Nat} {reading : τ} (hread : s.readings i = some reading) (key : κ) :
    (s.ask i key reading).Timed := by
  refine h.cons ⟨key, reading, .found⟩ (h.readings i reading hread) nofun ?_ rfl rfl
  dsimp only [ClockedCache.ask, Cache.logLookup]
  split
  · exact .inr rfl
  · exact .inl rfl

omit [TimeScale τ] in
theorem conclude (h : s.Timed) {i : Nat} {key : κ} {time : Nat} {ticket : BuildTicket κ}
    {outcome : Except ε (Dated β)} : (s.conclude i key time ticket outcome).Timed := by
  refine h.cons ⟨ticket.key, s.now, .stored⟩ le_rfl (fun _ => rfl) ?_ rfl rfl
  dsimp only [ClockedCache.conclude, Cache.logConclude]
  cases outcome with
  | ok value =>
      by_cases hcurrent : s.cache.isCurrent ticket = true
      · exact .inr (if_pos hcurrent)
      · exact .inl (if_neg hcurrent)
  | error e => exact .inl rfl

theorem step (h : s.Timed) (hstep : s.Step s') : s'.Timed := by
  cases hstep with
  | tick later hlater =>
      exact ⟨fun i reading hread => (h.readings i reading hread).trans hlater,
        fun access hmem => (h.accesses access hmem).trans hlater, h.stores⟩
  | read i free =>
      refine ⟨fun j reading hread => ?_, h.accesses, h.stores⟩
      dsimp only at hread ⊢
      by_cases hji : j = i
      · subst hji
        rw [Function.update_self] at hread
        exact (Option.some.inj hread).symm.le
      · rw [Function.update_of_ne hji] at hread
        exact h.readings j reading hread
  | ask hread free key => exact h.ask hread key
  | conclude hcall => exact h.conclude
  | proceed hcall hstep houtside => exact ⟨h.readings, h.accesses, h.stores⟩
  | drop dropping => exact ⟨h.readings, h.accesses, h.stores⟩

end Timed

theorem Reachable.timed (h : s.Reachable idleTime start) : s.Timed := by
  induction h with
  | initial => exact ⟨nofun, nofun, .nil⟩
  | step h hstep ih => exact ih.step hstep

variable [EquivBEq κ]

/-- What is stored for a key keeps the time of its last access, or gets that of a lookup that hits it, or the
time. -/
theorem Step.lastAccess_cases (hstep : s.Step s') (h : s.cache.Distinct) {key : κ}
    {entry entry' : CacheEntry (Dated β) τ} (hentry : s.cache.entry? key = some entry)
    (hentry' : s'.cache.entry? key = some entry') :
    entry' = entry ∨ entry'.lastAccess = s.now ∨
      ∃ i asked, (asked == key) = true ∧ s.readings i = some entry'.lastAccess ∧
        s' = s.ask i asked entry'.lastAccess := by
  have hsame : s.cache.entry? key = some entry' → entry' = entry := fun hold =>
    Option.some.inj (hold.symm.trans hentry)
  cases hstep with
  | tick later hlater => exact .inl (hsame hentry')
  | read i free => exact .inl (hsame hentry')
  | @ask i reading hread free asked =>
      rcases Cache.entry?_lookup h hentry' with hold | ⟨hkey, -, rfl⟩
      · exact .inl (hsame hold)
      · exact .inr (.inr ⟨i, asked, hkey, hread, rfl⟩)
  | @conclude i _ time ticket outcome hcall =>
      have hreleased : Cache.entry? (s.cache.release ticket) key = some entry' → entry' = entry := by
        rw [Cache.entry?_congr _ (s.cache.release_entries ticket)]
        exact hsame
      cases outcome with
      | error e => exact .inl (hreleased hentry')
      | ok value =>
          change Cache.entry? (s.cache.publish ticket value s.now) key = _ at hentry'
          unfold Cache.publish at hentry'
          dsimp only at hentry'
          split at hentry'
          · rw [Cache.entry?_setEntry] at hentry'
            split at hentry'
            · cases hentry'
              exact .inr (.inl rfl)
            · exact .inl (hreleased hentry')
          · exact .inl (hreleased hentry')
  | @proceed i call call' m hcall hstep houtside =>
      change m.cache.entry? key = _ at hentry'
      rw [cache_of_outside hstep houtside] at hentry'
      exact .inl (hsame hentry')
  | drop dropping =>
      refine .inl (hsame ?_)
      cases dropping with
      | all => exact Cache.drops_clear.entries _ _ hentry'
      | one dropped => exact (Cache.drops_invalidate h dropped).entries _ _ hentry'

end ClockedCache

variable [BEq κ] [EquivBEq κ] [AddCommGroup τ] [LinearOrder τ] [IsOrderedAddMonoid τ] [TimeScale τ]
  [TimeScale.IsExact τ] {s s' : ClockedCache κ β ε τ} {idleTime start : τ}

/-- The idle timer of an entry is set back only by a lookup that hits it with an older reading of the clock, and
an access is forgotten only when it was overtaken so: if a lookup discards an entry that was accessed with a
reading less than the idle time before its own, a call that had read the clock an idle time before came to the
lock after that access, and hit. But for the clock, the cache is one with concurrent callers. -/
theorem ClockedCache.access_forgotten_only_if_overtaken (h : s.Reachable idleTime start)
    (hstep : s.Step s') :
    s'.toSharedCache.Reachable idleTime start ∧
    (∀ key entry entry', s.cache.entry? key = some entry → s'.cache.entry? key = some entry' →
      entry.lastAccess ≤ entry'.lastAccess ∨
        ∃ i asked, (asked == key) = true ∧ s.readings i = some entry'.lastAccess ∧
          s' = s.ask i asked entry'.lastAccess) ∧
    ∀ i asked reading, s' = s.ask i asked reading → ∀ key entry, s.cache.entry? key = some entry →
      s'.cache.entry? key = none → ∀ later access earlier, s.accesses = later ++ access :: earlier →
        (access.key == key) = true → reading - idleTime < access.reading →
        ∃ last ∈ later, (last.key == key) = true ∧ last.kind = .found ∧
          last.reading ≤ reading - idleTime := by
  have htracks := h.accessed.tracks
  have htimed := h.timed
  refine ⟨(h.step hstep).shared, fun key entry entry' hentry hentry' => ?_, ?_⟩
  · rcases hstep.lastAccess_cases htracks.distinct hentry hentry' with rfl | hnow | hlookup
    · exact .inl le_rfl
    · obtain ⟨last, hlast, hreading⟩ := htracks.last key entry hentry
      rw [hnow, ← hreading]
      exact .inl (htimed.accesses last (mem_of_lastAccess? hlast).1)
    · exact .inr hlookup
  · rintro i asked reading rfl key entry hentry hgone later access earlier haccesses hkey hrecent
    have hexpired := Cache.isExpired_of_lookup htracks.distinct hentry hgone
    rw [Cache.isExpired_iff, h.accessed.idleTime_eq] at hexpired
    obtain ⟨last, hlast, hreading⟩ := htracks.last key entry hentry
    rw [← hreading] at hexpired
    have hidle : last.reading ≤ reading - idleTime := le_sub_comm.1 hexpired
    have hstores := htimed.stores
    have hlastKey := (mem_of_lastAccess? hlast).2
    rw [haccesses] at hlast hstores
    rcases lastAccess?_of_append hkey hlast with rfl | hlater
    · exact absurd hidle hrecent.not_ge
    · refine ⟨last, hlater, hlastKey, ?_, hidle⟩
      cases hkind : last.kind with
      | found => rfl
      | stored =>
          have hordered := (List.pairwise_append.1 hstores).2.2 last hlater access List.mem_cons_self hkind
          exact absurd (hordered.trans hidle) hrecent.not_ge

theorem ClockedCache.exists_overtaken :
    ∃ s late : ClockedCache Nat Nat String Int, s.Reachable 10 0 ∧ s.Step (s.ask 1 7 5) ∧
      s.cache.entry? 7 = some ⟨⟨1, 1⟩, 8⟩ ∧ (s.ask 1 7 5).cache.entry? 7 = some ⟨⟨1, 1⟩, 5⟩ ∧
      late.Reachable 10 0 ∧ late.Step (late.ask 3 7 16) ∧
      late.accesses = [⟨7, 5, .found⟩, ⟨7, 8, .found⟩, ⟨7, 0, .stored⟩] ∧
      late.cache.entry? 7 = some ⟨⟨1, 1⟩, 5⟩ ∧ (late.ask 3 7 16).cache.entry? 7 = none := by
  have hread : Reachable 10 0 (_ : ClockedCache Nat Nat String Int) := .step .initial (.read 0 rfl)
  have hasked := hread.step (.ask (i := 0) rfl rfl 7)
  have hrunning := hasked.step (.proceed (i := 0) rfl .start nofun)
  have hended := hrunning.step (.proceed (i := 0) rfl (.finish (.ok 1)) nofun)
  have hstored := hended.step (.conclude (i := 0) rfl)
  have hearly := (hstored.step (.tick 5 (by decide))).step (.read 1 rfl)
  have hlate := (hearly.step (.tick 8 (by decide))).step (.read 2 rfl)
  have hhit := hlate.step (.ask (i := 2) rfl rfl 7)
  have hovertaken := hhit.step (.ask (i := 1) rfl rfl 7)
  have hwaited := (hovertaken.step (.tick 16 (by decide))).step (.read 3 rfl)
  exact ⟨_, _, hhit, .ask (i := 1) rfl rfl 7, rfl, rfl, hwaited, .ask (i := 3) rfl rfl 7, rfl, rfl, rfl⟩

theorem ClockedCache.access_forgotten_only_if_overtaken_late :
    ∃ s : ClockedCache Nat Nat String Int, s.Reachable 10 0 ∧ s.Step (s.ask 3 7 16) ∧
      s.accesses = [⟨7, 5, .found⟩] ++ ⟨7, 8, .found⟩ :: [⟨7, 0, .stored⟩] ∧
      ∃ last ∈ [(⟨7, 5, .found⟩ : Access Nat Int)], (last.key == 7) = true ∧ last.kind = .found ∧
        last.reading ≤ 16 - 10 := by
  obtain ⟨-, s, -, -, -, -, hreach, hstep, haccesses, hentry, hgone⟩ := exists_overtaken
  have hforgotten := (access_forgotten_only_if_overtaken hreach hstep).2.2 3 7 16 rfl 7 _ hentry hgone
  exact ⟨s, hreach, hstep, haccesses, hforgotten _ _ _ haccesses rfl (by decide)⟩

/-- The last access of an entry that stays goes back from 8 to 5, and at 16 the entry is discarded though it was
accessed at 8. -/
theorem ClockedCache.access_forgotten :
    (∃ s s' : ClockedCache Nat Nat String Int, s.Reachable 10 0 ∧ s.Step s' ∧
      ∃ entry entry', s.cache.entry? 7 = some entry ∧ s'.cache.entry? 7 = some entry' ∧
        ¬ entry.lastAccess ≤ entry'.lastAccess) ∧
    ∃ s : ClockedCache Nat Nat String Int, s.Reachable 10 0 ∧ s.Step (s.ask 3 7 16) ∧
      (∃ access ∈ s.accesses, access.key = 7 ∧ 16 - 10 < access.reading) ∧
      (∃ entry, s.cache.entry? 7 = some entry) ∧ (s.ask 3 7 16).cache.entry? 7 = none := by
  obtain ⟨s, late, hreach, hstep, hbefore, hafter, hlate, hlookup, haccesses, hentry, hgone⟩ :=
    exists_overtaken
  refine ⟨⟨s, _, hreach, hstep, _, _, hbefore, hafter, by decide⟩, late, hlate, hlookup, ?_,
    ⟨_, hentry⟩, hgone⟩
  exact ⟨⟨7, 8, .found⟩, by simp [haccesses], rfl, by decide⟩

end RecordBinding
