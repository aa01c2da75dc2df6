import RecordBinding.Proofs.Cache.Coordination

namespace RecordBinding.SharedCache

variable {κ β ε τ : Type} [BEq κ] {s s' : SharedCache κ β ε τ}

/-- What is stored, or was found stored, was made after the droppings of its key, or those before the
lookup. What a call makes itself is made after its lookup. -/
structure UpToDate (s : SharedCache κ β ε τ) : Prop where
  stored : ∀ key value, s.cache.Stores key value → s.FreshSince key value.begun
  found : ∀ i call value, s.calls i = some call → call.phase = .found value →
    s.Outlives call.key value.begun call.lookedUp
  begun : ∀ i call begun, s.calls i = some call → call.phase.begun? = some begun →
    call.lookedUp < begun

namespace UpToDate

theorem lookup (h : s.UpToDate) {i : Nat} {key : κ} {m : CacheMemory κ β ε τ}
    {outcome : LookupOutcome κ (Dated β)} (hlooked : Cache.Looked s.cache key outcome m.cache) :
    (s.record i ⟨key, s.clock, .ofLookup outcome⟩ m).UpToDate := by
  refine ⟨fun k value hvalue => h.stored k value (hlooked.stores hvalue), ?_, ?_⟩
  · intro j call value hcall hphase
    rcases calls_record hcall with ⟨rfl, rfl⟩ | ⟨-, hold⟩
    · cases hlooked with
      | hit hvalue _ =>
          cases hphase
          exact fun d hd hcovers _ => h.stored key value hvalue d hd hcovers
      | wait _ _ => cases hphase
      | run _ _ _ _ _ _ => cases hphase
    · exact h.found j call value hold hphase
  · intro j call begun hcall hbegun
    rcases calls_record hcall with ⟨rfl, rfl⟩ | ⟨-, hold⟩
    · cases outcome <;> cases hbegun
    · exact h.begun j call begun hold hbegun

variable [EquivBEq κ]

theorem call (h : s.UpToDate) (hordered : s.Ordered) {i : Nat} {call call' : CacheCall κ β ε}
    {m : CacheMemory κ β ε τ} (hcall : s.calls i = some call)
    (hstep : CallStep s.clock s.toCacheMemory call call' m) : (s.record i call' m).UpToDate := by
  refine ⟨?_, ?_, ?_⟩
  · intro key value hvalue
    change m.cache.Stores key value at hvalue
    rcases hstep.cache_cases with ⟨hcache, -⟩ | ⟨own, outcome, now, hended, -, hcache⟩
    · rw [hcache] at hvalue
      exact h.stored key value hvalue
    · rw [hcache] at hvalue
      rcases s.cache.stores_conclude hvalue with hold | ⟨hcurrent, -, rfl⟩
      · exact h.stored key value hold
      · -- The build is current, so no dropping came after the lookup, let alone after the factory began.
        have hlooked := (hordered.tickets i call own hcall (by rw [hended]; rfl)).2.2.2
          (eq_of_beq hcurrent)
        have hbegun := h.begun i call value.begun hcall (by rw [hended]; rfl)
        exact fun d hd _ => Nat.lt_trans (hlooked d hd) hbegun
  · intro j other value hother hphase
    obtain ⟨old, hold, ⟨-, -, rfl⟩ | ⟨-, rfl⟩⟩ := calls_record_back hcall hother
    · exact absurd hphase (hstep.not_found value)
    · exact h.found j other value hold hphase
  · intro j other begun hother hbegun
    obtain ⟨old, hold, ⟨rfl, rfl, rfl⟩ | ⟨-, rfl⟩⟩ := calls_record_back hcall hother
    · rw [hstep.continues.lookedUp]
      rcases hstep.begun_cases hbegun with hbefore | rfl
      · exact h.begun j old begun hold hbefore
      · exact hordered.lookups j old hold
    · exact h.begun j other begun hold hbegun

theorem drop (h : s.UpToDate) (hordered : s.Ordered) (dropping : Dropping κ) :
    UpToDate { s with
      cache := dropping.apply s.cache
      droppings := (s.clock, dropping) :: s.droppings
      clock := s.clock + 1 } := by
  refine ⟨?_, ?_, h.begun⟩
  · intro key value hvalue d hd hcovers
    obtain ⟨hold, hkept⟩ := dropping.stores_apply s.cache hvalue
    rcases List.mem_cons.1 hd with rfl | hd
    · exact absurd hcovers hkept
    · exact h.stored key value hold d hd hcovers
  · intro i call value hcall hphase
    exact (h.found i call value hcall hphase).drop (hordered.lookups i call hcall) dropping

end UpToDate

variable [EquivBEq κ] [TimeScale τ] {idleTime start : τ}

theorem Reachable.upToDate (h : s.Reachable idleTime start) : s.UpToDate := by
  induction h with
  | initial =>
      refine ⟨?_, ?_, ?_⟩
      · rintro key value ⟨stored, entry, hmem, -, -⟩
        cases hmem
      · intro i call value hcall
        cases hcall
      · intro i call begun hcall
        cases hcall
  | @step s s' hreach hstep ih =>
      cases hstep with
      | lookup i key now free => exact ih.lookup (s.cache.looked key now)
      | call hcall hcallStep => exact ih.call hreach.ordered hcall hcallStep
      | drop dropping => exact ih.drop hreach.ordered dropping

/-- Whatever the order of the sections, a call returns no value whose factory began to run before a
dropping of the key that the lookup came after, and no such value is stored after the dropping. -/
theorem no_stale_value (h : s.Reachable idleTime start) :
    (∀ i call value, s.calls i = some call → call.phase.outcome? = some (.ok value) →
      ∀ d ∈ s.droppings, d.2.Covers call.key → d.1 < call.lookedUp → d.1 < value.begun) ∧
    ∀ key entry, s.cache.entry? key = some entry →
      ∀ d ∈ s.droppings, d.2.Covers key → d.1 < entry.value.begun := by
  have hdate := h.upToDate
  refine ⟨?_, ?_⟩
  · intro i call value hcall houtcome d hd hcovers hbefore
    rcases hphase : call.phase with found | build | ⟨build, outcome⟩ | ⟨ticket, progress⟩
    · rw [hphase] at houtcome
      cases houtcome
      exact hdate.found i call value hcall hphase d hd hcovers hbefore
    · rw [hphase] at houtcome
      cases houtcome
    · rw [hphase] at houtcome
      cases houtcome
      obtain ⟨j, owner, ticket, howner, hsettled, -, -, hlive⟩ :=
        h.answering.exists_owner h.ordered hcall hphase
      calc
        d.1 < owner.lookedUp := hlive d hd hcovers hbefore
        _ < value.begun := hdate.begun j owner value.begun howner (by rw [hsettled]; rfl)
    · rw [hphase] at houtcome
      cases progress <;> cases houtcome
      exact Nat.lt_trans hbefore (hdate.begun i call value.begun hcall (by rw [hphase]; rfl))
  · intro key entry hentry d hd hcovers
    exact hdate.stored key entry.value (s.cache.stores_of_found_entry hentry) d hd hcovers

/-- A key is dropped during its build, and asked for twice after that. The one who joins the newer build
gets the newer value, though the older build ends first. -/
theorem no_stale_value_of_overtaken_build :
    ∃ s : SharedCache Nat Nat String Int, s.Reachable 60 0 ∧
      s.droppings = [(2, .one 7)] ∧ s.calls 2 = some ⟨7, 4, .answered 1 (.ok ⟨20, 7⟩)⟩ ∧
      ∀ d ∈ s.droppings, d.2.Covers 7 → d.1 < 4 → d.1 < 7 := by
  have hasked : Reachable 60 0 (_ : SharedCache Nat Nat String Int) :=
    .step .initial (.lookup 0 7 0 rfl)
  have hrunning := hasked.step (.call (i := 0) rfl .start)
  have hdropped := hrunning.step (.drop (.one 7))
  have hnewer := hdropped.step (.lookup 1 7 1 rfl)
  have hjoined := hnewer.step (.lookup 2 7 2 rfl)
  have hfinished := hjoined.step (.call (i := 0) rfl (.finish (.ok 10)))
  have hconcluded := hfinished.step (.call (i := 0) rfl (.conclude 3))
  have hbegun := hconcluded.step (.call (i := 1) rfl .start)
  have hended := hbegun.step (.call (i := 1) rfl (.finish (.ok 20)))
  have hstored := hended.step (.call (i := 1) rfl (.conclude 4))
  have hsettled := hstored.step (.call (i := 1) rfl .settle)
  have hwoken := hsettled.step (.call (i := 2) rfl (.wake rfl))
  exact ⟨_, hwoken, rfl, rfl, (no_stale_value hwoken).1 2 _ _ rfl rfl⟩

end RecordBinding.SharedCache
