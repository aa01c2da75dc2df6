import RecordBinding.Proofs.Cache.Coordination

namespace RecordBinding

variable {κ β ε τ : Type}

/-- What the factory of a build came to, once it has ended. -/
def BuildProgress.ended? : BuildProgress β ε → Option (Except ε (Dated β))
  | ready => none
  | running _ => none
  | ended outcome => some outcome
  | released outcome => some outcome
  | settled outcome => some outcome

def CallPhase.ended? : CallPhase κ β ε → Option (Except ε (Dated β))
  | owning _ progress => progress.ended?
  | _ => none

theorem CallStep.ended?_eq [BEq κ] {clock : Nat} {m m' : CacheMemory κ β ε τ}
    {call call' : CacheCall κ β ε} (h : CallStep clock m call call' m') {outcome : Except ε (Dated β)}
    (hended : call.phase.ended? = some outcome) : call'.phase.ended? = some outcome := by
  cases h with
  | start => cases hended
  | finish => cases hended
  | wake => cases hended
  | _ => exact hended

namespace SharedCache

variable [BEq κ] {s : SharedCache κ β ε τ}

theorem exists_ended_record {i j : Nat} {call call' maker : CacheCall κ β ε} {m : CacheMemory κ β ε τ}
    (hcall : s.calls i = some call) (hstep : CallStep s.clock s.toCacheMemory call call' m)
    (hmaker : s.calls j = some maker) {outcome : Except ε (Dated β)}
    (hended : maker.phase.ended? = some outcome) :
    ∃ maker', (s.record i call' m).calls j = some maker' ∧ maker'.phase.ended? = some outcome ∧
      maker'.key = maker.key ∧ maker'.lookedUp = maker.lookedUp := by
  obtain ⟨maker', hmaker', ⟨-, rfl, rfl⟩ | ⟨-, rfl⟩⟩ := calls_record_forth call' m hcall hmaker
  · exact ⟨_, hmaker', hstep.ended?_eq hended, hstep.continues.key, hstep.continues.lookedUp⟩
  · exact ⟨_, hmaker', hended, rfl, rfl⟩

/-- What is stored was made by a call that looked the key up after all droppings of it. What a call found
stored was made by an earlier one that did so after those before the call, and a call waits for an earlier
one only. -/
structure Originated (s : SharedCache κ β ε τ) : Prop where
  stored : ∀ key value, s.cache.Stores key value → ∃ i maker, s.calls i = some maker ∧
    maker.phase.ended? = some (.ok value) ∧ (maker.key == key) = true ∧ s.FreshSince key maker.lookedUp
  found : ∀ i call value, s.calls i = some call → call.phase = .found value →
    ∃ j maker, s.calls j = some maker ∧ maker.phase.ended? = some (.ok value) ∧
      (maker.key == call.key) = true ∧ maker.lookedUp < call.lookedUp ∧
      s.Outlives call.key maker.lookedUp call.lookedUp
  awaited : ∀ i call build, s.calls i = some call → call.phase.awaited? = some build →
    ∃ j owner ticket, s.calls j = some owner ∧ owner.phase.ticket? = some ticket ∧
      ticket.build = build ∧ owner.lookedUp < call.lookedUp

namespace Originated

theorem lookup (h : s.Originated) (hordered : s.Ordered) (hcoordinated : s.Coordinated) {i : Nat}
    {key : κ} {m : CacheMemory κ β ε τ} {outcome : LookupOutcome κ (Dated β)} (free : s.calls i = none)
    (hlooked : Cache.Looked s.cache key outcome m.cache) :
    (s.record i ⟨key, s.clock, .ofLookup outcome⟩ m).Originated := by
  refine ⟨?_, ?_, ?_⟩
  · intro k value hvalue
    obtain ⟨j, maker, hmaker, hrest⟩ := h.stored k value (hlooked.stores hvalue)
    exact ⟨j, maker, calls_record_of_free free hmaker, hrest⟩
  · intro j call value hcall hphase
    rcases calls_record hcall with ⟨rfl, rfl⟩ | ⟨-, hold⟩
    · cases hlooked with
      | hit hvalue _ =>
          cases hphase
          obtain ⟨k, maker, hmaker, hended, hkey, hfresh⟩ := h.stored key value hvalue
          exact ⟨k, maker, calls_record_of_free free hmaker, hended, hkey, hordered.lookups k maker hmaker,
            fun d hd hcovers _ => hfresh d hd hcovers⟩
      | wait _ _ => cases hphase
      | run _ _ _ _ _ _ => cases hphase
    · obtain ⟨k, maker, hmaker, hrest⟩ := h.found j call value hold hphase
      exact ⟨k, maker, calls_record_of_free free hmaker, hrest⟩
  · intro j call build hcall hawaited
    rcases calls_record hcall with ⟨rfl, rfl⟩ | ⟨-, hold⟩
    · cases hlooked with
      | hit _ _ => cases hawaited
      | run _ _ _ _ _ _ => cases hawaited
      | wait hbuild _ =>
          cases hawaited
          obtain ⟨k, owner, ticket, howner, hticket, hown, -, -⟩ := hcoordinated.owner key build hbuild
          exact ⟨k, owner, ticket, calls_record_of_free free howner, CallPhase.ticket?_of_flight? hticket,
            hown, hordered.lookups k owner howner⟩
    · obtain ⟨k, owner, ticket, howner, hrest⟩ := h.awaited j call build hold hawaited
      exact ⟨k, owner, ticket, calls_record_of_free free howner, hrest⟩

theorem call [EquivBEq κ] (h : s.Originated) (hordered : s.Ordered) {i : Nat}
    {call call' : CacheCall κ β ε} {m : CacheMemory κ β ε τ} (hcall : s.calls i = some call)
    (hstep : CallStep s.clock s.toCacheMemory call call' m) : (s.record i call' m).Originated := by
  have hstored : ∀ key value, s.cache.Stores key value → ∃ j maker,
      (s.record i call' m).calls j = some maker ∧ maker.phase.ended? = some (.ok value) ∧
        (maker.key == key) = true ∧ s.FreshSince key maker.lookedUp := by
    intro key value hvalue
    obtain ⟨j, maker, hmaker, hended, hrest⟩ := h.stored key value hvalue
    obtain ⟨maker', hmaker', hended', hkey, hlooked⟩ := exists_ended_record hcall hstep hmaker hended
    exact ⟨j, maker', hmaker', hended', hkey ▸ hlooked ▸ hrest⟩
  refine ⟨?_, ?_, ?_⟩
  · intro key value hvalue
    change m.cache.Stores key value at hvalue
    rcases hstep.cache_cases with ⟨hcache, -⟩ | ⟨own, outcome, now, hended, hreleased, hcache⟩
    · rw [hcache] at hvalue
      exact hstored key value hvalue
    · rw [hcache] at hvalue
      rcases s.cache.stores_conclude hvalue with hold | ⟨hcurrent, hkey, rfl⟩
      · exact hstored key value hold
      · -- The build is current, so no dropping came after the lookup.
        obtain ⟨hown, -, -, hlooked⟩ := hordered.tickets i call own hcall (by rw [hended]; rfl)
        refine ⟨i, call', Function.update_self .., by rw [hreleased]; rfl, ?_, ?_⟩
        · rw [hstep.continues.key, ← hown]
          exact hkey
        · rw [hstep.continues.lookedUp]
          exact fun d hd _ => hlooked (eq_of_beq hcurrent) d hd
  · intro j other value hother hphase
    obtain ⟨old, hold, ⟨-, -, rfl⟩ | ⟨-, rfl⟩⟩ := calls_record_back hcall hother
    · exact absurd hphase (hstep.not_found value)
    · obtain ⟨k, maker, hmaker, hended, hrest⟩ := h.found j other value hold hphase
      obtain ⟨maker', hmaker', hended', hkey, hlooked⟩ := exists_ended_record hcall hstep hmaker hended
      exact ⟨k, maker', hmaker', hended', hkey ▸ hlooked ▸ hrest⟩
  · intro j other build hother hawaited
    obtain ⟨old, hold, hcont⟩ := exists_continues hcall hstep.continues hother
    obtain ⟨k, owner, ticket, howner, hticket, hown, hbefore⟩ :=
      h.awaited j old build hold (hcont.awaited.symm.trans hawaited)
    rw [hcont.lookedUp]
    obtain ⟨new, hnew, ⟨-, rfl, rfl⟩ | ⟨-, rfl⟩⟩ := calls_record_forth call' m hcall howner
    · exact ⟨k, _, ticket, hnew, hstep.continues.ticket.trans hticket, hown,
        hstep.continues.lookedUp ▸ hbefore⟩
    · exact ⟨k, _, ticket, hnew, hticket, hown, hbefore⟩

theorem drop [EquivBEq κ] (h : s.Originated) (hordered : s.Ordered) (dropping : Dropping κ) :
    Originated { s with
      cache := dropping.apply s.cache
      droppings := (s.clock, dropping) :: s.droppings
      clock := s.clock + 1 } := by
  refine ⟨?_, ?_, h.awaited⟩
  · intro key value hvalue
    obtain ⟨hold, hkept⟩ := dropping.stores_apply s.cache hvalue
    obtain ⟨i, maker, hmaker, hended, hkey, hfresh⟩ := h.stored key value hold
    refine ⟨i, maker, hmaker, hended, hkey, fun d hd hcovers => ?_⟩
    rcases List.mem_cons.1 hd with rfl | hd
    · exact absurd hcovers hkept
    · exact hfresh d hd hcovers
  · intro i call value hcall hphase
    obtain ⟨j, maker, hmaker, hended, hkey, hbefore, hlive⟩ := h.found i call value hcall hphase
    exact ⟨j, maker, hmaker, hended, hkey, hbefore, hlive.drop (hordered.lookups i call hcall) dropping⟩

end Originated

/-- All that holds of a cache with its callers, whatever they do. -/
structure Consistent (s : SharedCache κ β ε τ) : Prop where
  ordered : s.Ordered
  coordinated : s.Coordinated
  answering : s.Answering
  originated : s.Originated

def tick (s : SharedCache κ β ε τ) : SharedCache κ β ε τ :=
  { s with clock := s.clock + 1 }

namespace Consistent

theorem initial [TimeScale τ] (idleTime start : τ) :
    (initial idleTime start : SharedCache κ β ε τ).Consistent := by
  refine ⟨?_, ?_, ?_, ?_, nofun, nofun⟩
  · constructor <;> intros <;> contradiction
  · constructor <;> intros <;> contradiction
  · constructor <;> intros <;> contradiction
  · rintro key value ⟨stored, entry, hmem, -, -⟩
    cases hmem

theorem step [EquivBEq κ] [TimeScale τ] {s' : SharedCache κ β ε τ} (h : s.Consistent)
    (hstep : s.Step s') : s'.Consistent := by
  obtain ⟨hordered, hcoordinated, hanswering, horiginated⟩ := h
  cases hstep with
  | lookup i key now free =>
      have hlooked := s.cache.looked key now
      exact ⟨hordered.lookup hlooked, hcoordinated.lookup hordered free hlooked,
        hanswering.lookup hcoordinated free rfl hlooked,
        horiginated.lookup hordered hcoordinated free hlooked⟩
  | call hcall hcallStep =>
      exact ⟨hordered.call hcall hcallStep, hcoordinated.call hordered hcall hcallStep,
        hanswering.call hordered hcall hcallStep, horiginated.call hordered hcall hcallStep⟩
  | drop dropping =>
      exact ⟨hordered.drop dropping, hcoordinated.drop hordered dropping,
        hanswering.drop hordered dropping, horiginated.drop hordered dropping⟩

theorem tick (h : s.Consistent) : s.tick.Consistent := by
  obtain ⟨hordered, hcoordinated, hanswering, horiginated⟩ := h
  exact ⟨⟨fun d hd => Nat.lt_succ_of_lt (hordered.droppings d hd),
      fun i call hcall => Nat.lt_succ_of_lt (hordered.lookups i call hcall), hordered.tickets,
      hordered.distinct⟩,
    ⟨hcoordinated.owner, hcoordinated.pending, hcoordinated.vacant⟩,
    ⟨hanswering.owner, hanswering.settled, hanswering.resolved, hanswering.answered⟩,
    ⟨horiginated.stored, horiginated.found, horiginated.awaited⟩⟩

theorem of_keeps (h : s.Consistent) {c : Cache κ (Dated β) τ} (kept : s.cache.Keeps c) :
    Consistent { s with cache := c } := by
  obtain ⟨hordered, hcoordinated, hanswering, horiginated⟩ := h
  have hpending := Cache.pending?_congr kept.pending
  refine ⟨⟨hordered.droppings, hordered.lookups, ?_, hordered.distinct⟩, ⟨?_, ?_, ?_⟩,
    ⟨hanswering.owner, hanswering.settled, hanswering.resolved, hanswering.answered⟩,
    ⟨fun key value hvalue => horiginated.stored key value (kept.stores key value hvalue),
      horiginated.found, horiginated.awaited⟩⟩
  · intro i call ticket hcall hticket
    dsimp only
    rw [kept.buildsBegun, kept.generation]
    exact hordered.tickets i call ticket hcall hticket
  · exact fun key build hbuild => hcoordinated.owner key build ((hpending key).symm.trans hbuild)
  · exact fun i call ticket hcall hticket hfresh =>
      (hpending call.key).trans (hcoordinated.pending i call ticket hcall hticket hfresh)
  · exact fun key build value hbuild hvalue =>
      hcoordinated.vacant key build value ((hpending key).symm.trans hbuild) (kept.stores key value hvalue)

/-- What a call comes to is what the factory of a call for an equal key came to, which looked the key up no
later, and after the droppings that the call came after. -/
theorem exists_maker [EquivBEq κ] (h : s.Consistent) {i : Nat} {call : CacheCall κ β ε}
    {outcome : Except ε (Dated β)} (hcall : s.calls i = some call)
    (houtcome : call.phase.outcome? = some outcome) :
    ∃ j maker, s.calls j = some maker ∧ maker.phase.ended? = some outcome ∧
      (maker.key == call.key) = true ∧ maker.lookedUp ≤ call.lookedUp ∧
      s.Outlives call.key maker.lookedUp call.lookedUp := by
  rcases hphase : call.phase with value | build | ⟨build, result⟩ | ⟨ticket, progress⟩
  · rw [hphase] at houtcome
    cases houtcome
    obtain ⟨j, maker, hmaker, hended, hkey, hbefore, hlive⟩ := h.originated.found i call value hcall hphase
    exact ⟨j, maker, hmaker, hended, hkey, Nat.le_of_lt hbefore, hlive⟩
  · rw [hphase] at houtcome
    cases houtcome
  · rw [hphase] at houtcome
    cases houtcome
    obtain ⟨j, owner, ticket, howner, hsettled, rfl, hkey, hlive⟩ :=
      h.answering.exists_owner h.ordered hcall hphase
    obtain ⟨k, other, own, hother, hown, hsame, hbefore⟩ :=
      h.originated.awaited i call ticket.build hcall (by rw [hphase]; rfl)
    obtain ⟨-, rfl⟩ := h.ordered.owner_unique hother howner hown (by rw [hsettled]; rfl) hsame
    exact ⟨k, other, hother, by rw [hsettled]; rfl, hkey, Nat.le_of_lt hbefore, hlive⟩
  · rw [hphase] at houtcome
    cases progress <;> cases houtcome
    exact ⟨i, call, hcall, by rw [hphase]; rfl, beq_self_eq_true _, Nat.le_refl _, fun _ _ _ h => h⟩

end Consistent

end SharedCache

end RecordBinding
