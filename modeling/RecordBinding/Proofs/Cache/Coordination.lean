import RecordBinding.Proofs.Cache.Interleaving

namespace RecordBinding.SharedCache

variable {κ β ε τ : Type} [BEq κ] {s s' : SharedCache κ β ε τ}

/-- All droppings of a key so far came before a time. -/
def FreshSince (s : SharedCache κ β ε τ) (key : κ) (time : Nat) : Prop :=
  ∀ d ∈ s.droppings, d.2.Covers key → d.1 < time

/-- Those droppings of a key that came before a bound came before a time. -/
def Outlives (s : SharedCache κ β ε τ) (key : κ) (time bound : Nat) : Prop :=
  ∀ d ∈ s.droppings, d.2.Covers key → d.1 < bound → d.1 < time

theorem FreshSince.congr [EquivBEq κ] {key key' : κ} {time : Nat} (h : s.FreshSince key time)
    (hkey : (key == key') = true) : s.FreshSince key' time :=
  fun d hd hcovers => h d hd (hcovers.congr (BEq.symm hkey))

/-- The builds under way belong to calls in flight, and a call in flight whose key was not dropped since
its lookup has its build there. Nothing is stored under a key with a build under way. -/
structure Coordinated (s : SharedCache κ β ε τ) : Prop where
  owner : ∀ key build, s.cache.pending? key = some build →
    ∃ i call ticket, s.calls i = some call ∧ call.phase.flight? = some ticket ∧
      ticket.build = build ∧ (call.key == key) = true ∧ s.FreshSince key call.lookedUp
  pending : ∀ i call ticket, s.calls i = some call → call.phase.flight? = some ticket →
    s.FreshSince call.key call.lookedUp → s.cache.pending? call.key = some ticket.build
  vacant : ∀ key build value, s.cache.pending? key = some build → ¬ s.cache.Stores key value

namespace Coordinated

theorem exists_owner (h : s.Coordinated) {i : Nat} {new : CacheCall κ β ε}
    {m : CacheMemory κ β ε τ} (free : s.calls i = none) {key : κ} {build : Nat}
    (hbuild : s.cache.pending? key = some build) :
    ∃ j call ticket, (s.record i new m).calls j = some call ∧ call.phase.flight? = some ticket ∧
      ticket.build = build ∧ (call.key == key) = true ∧ s.FreshSince key call.lookedUp := by
  obtain ⟨j, call, ticket, hcall, hrest⟩ := h.owner key build hbuild
  exact ⟨j, call, ticket, calls_record_of_free free hcall, hrest⟩

theorem lookup_of_same_pending (h : s.Coordinated) {i : Nat} {key : κ}
    {m : CacheMemory κ β ε τ} {outcome : LookupOutcome κ (Dated β)} (free : s.calls i = none)
    (hlooked : Cache.Looked s.cache key outcome m.cache) (hsame : m.cache.pending = s.cache.pending)
    (hidle : (CallPhase.ofLookup outcome : CallPhase κ β ε).flight? = none) :
    (s.record i ⟨key, s.clock, .ofLookup outcome⟩ m).Coordinated := by
  have hpending := Cache.pending?_congr hsame
  refine ⟨?_, ?_, ?_⟩
  · intro k build hbuild
    exact h.exists_owner free ((hpending k).symm.trans hbuild)
  · intro j call ticket hcall hflight hfresh
    rcases calls_record hcall with ⟨rfl, rfl⟩ | ⟨-, hcall⟩
    · rw [hidle] at hflight
      cases hflight
    · exact (hpending _).trans (h.pending j call ticket hcall hflight hfresh)
  · intro k build value hbuild hvalue
    exact h.vacant k build value ((hpending k).symm.trans hbuild) (hlooked.stores hvalue)

theorem of_same_cache (h : s.Coordinated) {i : Nat} {call call' : CacheCall κ β ε}
    {m : CacheMemory κ β ε τ} (hcall : s.calls i = some call) (hcontinues : call.Continues call')
    (hcache : m.cache = s.cache) (hflight : call'.phase.flight? = call.phase.flight?) :
    (s.record i call' m).Coordinated := by
  refine ⟨?_, ?_, ?_⟩
  · intro key build hbuild
    change m.cache.pending? key = _ at hbuild
    rw [hcache] at hbuild
    obtain ⟨j, other, ticket, hother, hticket, hrest⟩ := h.owner key build hbuild
    obtain ⟨new, hnew, ⟨-, rfl, rfl⟩ | ⟨-, rfl⟩⟩ := calls_record_forth call' m hcall hother
    · refine ⟨j, _, ticket, hnew, hflight.trans hticket, ?_⟩
      rw [hcontinues.key, hcontinues.lookedUp]
      exact hrest
    · exact ⟨j, new, ticket, hnew, hticket, hrest⟩
  · intro j other ticket hother hticket hfresh
    change m.cache.pending? _ = _
    rw [hcache]
    obtain ⟨old, hold, ⟨-, rfl, rfl⟩ | ⟨-, rfl⟩⟩ := calls_record_back hcall hother
    · rw [hcontinues.key, hcontinues.lookedUp] at hfresh
      rw [hcontinues.key]
      exact h.pending j old ticket hold (hflight.symm.trans hticket) hfresh
    · exact h.pending j other ticket hold hticket hfresh
  · intro key build value hbuild hvalue
    change m.cache.pending? key = _ at hbuild
    change m.cache.Stores key value at hvalue
    rw [hcache] at hbuild hvalue
    exact h.vacant key build value hbuild hvalue

variable [EquivBEq κ]

theorem lookup (h : s.Coordinated) (hordered : s.Ordered) {i : Nat} {key : κ}
    {m : CacheMemory κ β ε τ} {outcome : LookupOutcome κ (Dated β)} (free : s.calls i = none)
    (hlooked : Cache.Looked s.cache key outcome m.cache) :
    (s.record i ⟨key, s.clock, .ofLookup outcome⟩ m).Coordinated := by
  have hlooked' := hlooked
  cases hlooked with
  | hit _ kept => exact h.lookup_of_same_pending free hlooked' kept.pending rfl
  | wait _ kept => exact h.lookup_of_same_pending free hlooked' kept.pending rfl
  | run hnone hentry hstores hpending _ _ =>
      have hsnoc := Cache.pending?_snoc hpending
      refine ⟨?_, ?_, ?_⟩
      · intro k build hbuild
        change m.cache.pending? k = _ at hbuild
        rw [hsnoc, Option.or_eq_some_iff] at hbuild
        rcases hbuild with hbuild | ⟨-, hnew⟩
        · exact h.exists_owner free hbuild
        · obtain ⟨hkey, hbegun⟩ := Option.ite_none_right_eq_some.1 hnew
          exact ⟨i, _, _, Function.update_self .., rfl, Option.some.inj hbegun, hkey,
            fun d hd _ => hordered.droppings d hd⟩
      · intro j call ticket hcall hflight hfresh
        refine (hsnoc call.key).trans ?_
        rcases calls_record hcall with ⟨rfl, rfl⟩ | ⟨-, hcall⟩
        · cases hflight
          rw [hnone, if_pos (beq_self_eq_true key)]
          rfl
        · rw [h.pending j call ticket hcall hflight hfresh]
          rfl
      · intro k build value hbuild hvalue
        change m.cache.pending? k = _ at hbuild
        rw [hsnoc, Option.or_eq_some_iff] at hbuild
        rcases hbuild with hbuild | ⟨-, hnew⟩
        · exact h.vacant k build value hbuild (hstores k value hvalue)
        · obtain ⟨hkey, -⟩ := Option.ite_none_right_eq_some.1 hnew
          exact (m.cache.entry?_eq_none_iff key).1 hentry value (hvalue.congr (BEq.symm hkey))

theorem conclude (h : s.Coordinated) (hordered : s.Ordered) {i : Nat}
    {call call' : CacheCall κ β ε} {m : CacheMemory κ β ε τ} (hcall : s.calls i = some call)
    {own : BuildTicket κ} (hflight : call.phase.flight? = some own)
    (hidle : call'.phase.flight? = none) {outcome : Except ε (Dated β)} {now : τ}
    (hcache : m.cache = s.cache.conclude own outcome now) : (s.record i call' m).Coordinated := by
  obtain ⟨hkey, -, -, hcurrent⟩ :=
    hordered.tickets i call own hcall (CallPhase.ticket?_of_flight? hflight)
  have hpending : ∀ key, m.cache.pending? key =
      if s.cache.pending? own.key = some own.build ∧ (own.key == key) = true then none
      else s.cache.pending? key := by
    intro key
    rw [hcache, Cache.pending?_conclude, Cache.pending?_release]
  refine ⟨?_, ?_, ?_⟩
  · intro key build hbuild
    change m.cache.pending? key = _ at hbuild
    rw [hpending] at hbuild
    obtain ⟨hother, hbuild⟩ := Option.ite_none_left_eq_some.1 hbuild
    obtain ⟨j, other, ticket, hcallj, hticket, hrest, hkeyj, hfresh⟩ := h.owner key build hbuild
    obtain ⟨new, hnew, ⟨rfl, rfl, rfl⟩ | ⟨-, rfl⟩⟩ := calls_record_forth call' m hcall hcallj
    · -- The call that ends would have given up this place.
      rw [hflight] at hticket
      cases hticket
      refine absurd ⟨?_, ?_⟩ hother
      · rw [hkey]
        exact h.pending j other own hcallj hflight (hfresh.congr (BEq.symm hkeyj))
      · rw [hkey]
        exact hkeyj
    · exact ⟨j, new, ticket, hnew, hticket, hrest, hkeyj, hfresh⟩
  · intro j other ticket hother hticket hfresh
    obtain ⟨old, hold, ⟨-, rfl, rfl⟩ | ⟨hij, rfl⟩⟩ := calls_record_back hcall hother
    · rw [hidle] at hticket
      cases hticket
    · have hplace := h.pending j other ticket hold hticket hfresh
      refine (hpending other.key).trans ?_
      rw [if_neg, hplace]
      rintro ⟨hown, hsame⟩
      rw [s.cache.pending?_of_beq hsame, hplace, Option.some.injEq] at hown
      exact hij (hordered.owner_unique hold hcall (CallPhase.ticket?_of_flight? hticket)
        (CallPhase.ticket?_of_flight? hflight) hown).1
  · intro key build value hbuild hvalue
    change m.cache.pending? key = _ at hbuild
    change m.cache.Stores key value at hvalue
    rw [hpending] at hbuild
    obtain ⟨hother, hbuild⟩ := Option.ite_none_left_eq_some.1 hbuild
    rw [hcache] at hvalue
    rcases s.cache.stores_conclude hvalue with hold | ⟨hstored, hsame, -⟩
    · exact h.vacant key build value hbuild hold
    · have hfresh : s.FreshSince call.key call.lookedUp :=
        fun d hd _ => hcurrent (eq_of_beq hstored) d hd
      refine hother ⟨?_, hsame⟩
      rw [hkey]
      exact h.pending i call own hcall hflight hfresh

theorem call (h : s.Coordinated) (hordered : s.Ordered) {i : Nat}
    {call call' : CacheCall κ β ε} {m : CacheMemory κ β ε τ} (hcall : s.calls i = some call)
    (hstep : CallStep s.clock s.toCacheMemory call call' m) :
    (s.record i call' m).Coordinated := by
  rcases hstep.cache_cases with ⟨hcache, hflight⟩ | ⟨own, outcome, now, hended, hreleased, hcache⟩
  · exact h.of_same_cache hcall hstep.continues hcache hflight
  · exact h.conclude hordered hcall (by rw [hended]; rfl) (by rw [hreleased]; rfl) hcache

theorem drop (h : s.Coordinated) (hordered : s.Ordered) (dropping : Dropping κ) :
    Coordinated { s with
      cache := dropping.apply s.cache
      droppings := (s.clock, dropping) :: s.droppings
      clock := s.clock + 1 } := by
  have hbefore : ∀ key build, (dropping.apply s.cache).pending? key = some build →
      ¬ dropping.Covers key ∧ s.cache.pending? key = some build := by
    intro key build hbuild
    by_cases hcovers : dropping.Covers key
    · rw [dropping.pending?_apply_of_covers s.cache hcovers] at hbuild
      cases hbuild
    · exact ⟨hcovers, (dropping.pending?_apply_of_not_covers s.cache hcovers).symm.trans hbuild⟩
  refine ⟨?_, ?_, ?_⟩
  · intro key build hbuild
    obtain ⟨hcovers, hbuild⟩ := hbefore key build hbuild
    obtain ⟨i, call, ticket, hcall, hticket, hown, hkey, hfresh⟩ := h.owner key build hbuild
    refine ⟨i, call, ticket, hcall, hticket, hown, hkey, fun d hd hd' => ?_⟩
    rcases List.mem_cons.1 hd with rfl | hd
    · exact absurd hd' hcovers
    · exact hfresh d hd hd'
  · intro i call ticket hcall hticket hfresh
    have hcovers : ¬ dropping.Covers call.key := by
      intro hcovers
      have hlater := hfresh (s.clock, dropping) List.mem_cons_self hcovers
      exact absurd hlater (Nat.lt_asymm (hordered.lookups i call hcall))
    refine (dropping.pending?_apply_of_not_covers s.cache hcovers).trans ?_
    exact h.pending i call ticket hcall hticket fun d hd => hfresh d (List.mem_cons_of_mem _ hd)
  · intro key build value hbuild hvalue
    exact h.vacant key build value (hbefore key build hbuild).2
      (dropping.stores_apply s.cache hvalue).1

theorem fresh_of_pending (h : s.Coordinated) (hordered : s.Ordered) {i : Nat}
    {call : CacheCall κ β ε} {ticket : BuildTicket κ} (hcall : s.calls i = some call)
    (hticket : call.phase.ticket? = some ticket) {key : κ}
    (hbuild : s.cache.pending? key = some ticket.build) :
    (call.key == key) = true ∧ s.FreshSince call.key call.lookedUp := by
  obtain ⟨j, owner, own, howner, hown, hsame, hkey, hfresh⟩ := h.owner key ticket.build hbuild
  obtain ⟨-, rfl⟩ :=
    hordered.owner_unique howner hcall (CallPhase.ticket?_of_flight? hown) hticket hsame
  exact ⟨hkey, hfresh.congr (BEq.symm hkey)⟩

end Coordinated

theorem Reachable.coordinated [EquivBEq κ] [TimeScale τ] {idleTime start : τ}
    (h : s.Reachable idleTime start) : s.Coordinated := by
  induction h with
  | initial => constructor <;> intros <;> contradiction
  | @step s s' hreach hstep ih =>
      cases hstep with
      | lookup i key now free => exact ih.lookup hreach.ordered free (s.cache.looked key now)
      | call hcall hcallStep => exact ih.call hreach.ordered hcall hcallStep
      | drop dropping => exact ih.drop hreach.ordered dropping

theorem Outlives.drop {key : κ} {time bound : Nat} (h : s.Outlives key time bound)
    (hbound : bound < s.clock) (dropping : Dropping κ) :
    Outlives { s with
      cache := dropping.apply s.cache
      droppings := (s.clock, dropping) :: s.droppings
      clock := s.clock + 1 } key time bound := by
  intro d hd hcovers hbefore
  rcases List.mem_cons.1 hd with rfl | hd
  · exact absurd hbefore (Nat.lt_asymm hbound)
  · exact h d hd hcovers hbefore

/-- Those who wait for a build wait for a call which looked the key up after all droppings that they
looked it up after. A future has the outcome of the call that owns its build, once that is over, and
hands it on. -/
structure Answering (s : SharedCache κ β ε τ) : Prop where
  owner : ∀ i call build, s.calls i = some call → call.phase.awaited? = some build →
    ∃ j other ticket, s.calls j = some other ∧ other.phase.ticket? = some ticket ∧
      ticket.build = build ∧ (other.key == call.key) = true ∧
      s.Outlives call.key other.lookedUp call.lookedUp
  settled : ∀ i call ticket outcome, s.calls i = some call →
    call.phase = .owning ticket (.settled outcome) → s.futures ticket.build = some outcome
  resolved : ∀ build outcome, s.futures build = some outcome →
    ∃ i call ticket, s.calls i = some call ∧ call.phase = .owning ticket (.settled outcome) ∧
      ticket.build = build
  answered : ∀ i call build outcome, s.calls i = some call →
    call.phase = .answered build outcome → s.futures build = some outcome

namespace Answering

theorem lookup [EquivBEq κ] (h : s.Answering) (hcoordinated : s.Coordinated) {i : Nat} {key : κ}
    {m : CacheMemory κ β ε τ} {outcome : LookupOutcome κ (Dated β)} (free : s.calls i = none)
    (hfutures : m.futures = s.futures) (hlooked : Cache.Looked s.cache key outcome m.cache) :
    (s.record i ⟨key, s.clock, .ofLookup outcome⟩ m).Answering := by
  refine ⟨?_, ?_, ?_, ?_⟩
  · intro j call build hcall hawaited
    rcases calls_record hcall with ⟨rfl, rfl⟩ | ⟨-, hcall⟩
    · cases hlooked with
      | hit _ _ => cases hawaited
      | run _ _ _ _ _ _ => cases hawaited
      | wait hbuild _ =>
          cases hawaited
          obtain ⟨k, other, ticket, hother, hticket, hown, hkey, hfresh⟩ :=
            hcoordinated.owner key build hbuild
          exact ⟨k, other, ticket, calls_record_of_free free hother,
            CallPhase.ticket?_of_flight? hticket, hown, hkey,
            fun d hd hcovers _ => hfresh d hd hcovers⟩
    · obtain ⟨k, other, ticket, hother, hrest⟩ := h.owner j call build hcall hawaited
      exact ⟨k, other, ticket, calls_record_of_free free hother, hrest⟩
  · intro j call ticket result hcall hphase
    refine (congrFun hfutures ticket.build).trans ?_
    rcases calls_record hcall with ⟨rfl, rfl⟩ | ⟨-, hcall⟩
    · cases outcome <;> cases hphase
    · exact h.settled j call ticket result hcall hphase
  · intro build result hresult
    obtain ⟨j, call, ticket, hcall, hrest⟩ :=
      h.resolved build result ((congrFun hfutures build).symm.trans hresult)
    exact ⟨j, call, ticket, calls_record_of_free free hcall, hrest⟩
  · intro j call build result hcall hphase
    refine (congrFun hfutures build).trans ?_
    rcases calls_record hcall with ⟨rfl, rfl⟩ | ⟨-, hcall⟩
    · cases outcome <;> cases hphase
    · exact h.answered j call build result hcall hphase

section Call

variable {i : Nat} {m : CacheMemory κ β ε τ}

theorem owner_record (h : s.Answering) {call call' : CacheCall κ β ε} (hcall : s.calls i = some call)
    (hcontinues : call.Continues call') {j build : Nat} {other : CacheCall κ β ε}
    (hother : (s.record i call' m).calls j = some other)
    (hawaited : other.phase.awaited? = some build) :
    ∃ k owner ticket, (s.record i call' m).calls k = some owner ∧
      owner.phase.ticket? = some ticket ∧ ticket.build = build ∧ (owner.key == other.key) = true ∧
      s.Outlives other.key owner.lookedUp other.lookedUp := by
  obtain ⟨old, hold, hcont⟩ := exists_continues hcall hcontinues hother
  obtain ⟨k, owner, ticket, hk, hticket, hown, hkey, hlive⟩ :=
    h.owner j old build hold (hcont.awaited.symm.trans hawaited)
  rw [hcont.key, hcont.lookedUp]
  obtain ⟨new, hnew, ⟨rfl, rfl, rfl⟩ | ⟨-, rfl⟩⟩ := calls_record_forth call' m hcall hk
  · refine ⟨k, _, ticket, hnew, hcontinues.ticket.trans hticket, hown, ?_⟩
    rw [hcontinues.key, hcontinues.lookedUp]
    exact ⟨hkey, hlive⟩
  · exact ⟨k, new, ticket, hnew, hticket, hown, hkey, hlive⟩

theorem resolved_record (h : s.Answering) {call call' : CacheCall κ β ε}
    (hcall : s.calls i = some call) (hstep : CallStep s.clock s.toCacheMemory call call' m) {build : Nat}
    {outcome : Except ε (Dated β)} (hfuture : s.futures build = some outcome) :
    ∃ j other ticket, (s.record i call' m).calls j = some other ∧
      other.phase = .owning ticket (.settled outcome) ∧ ticket.build = build := by
  obtain ⟨j, other, ticket, hother, hphase, hown⟩ := h.resolved build outcome hfuture
  obtain ⟨new, hnew, ⟨-, rfl, -⟩ | ⟨-, rfl⟩⟩ := calls_record_forth call' m hcall hother
  · exact absurd hphase (hstep.not_settled ticket outcome)
  · exact ⟨j, new, ticket, hnew, hphase, hown⟩

/-- No future is resolved twice: its build has one owner, and that is not over yet. -/
theorem open_of_released (h : s.Answering) (hordered : s.Ordered) {call : CacheCall κ β ε}
    (hcall : s.calls i = some call) {own : BuildTicket κ} {outcome : Except ε (Dated β)}
    (hreleased : call.phase = .owning own (.released outcome)) : s.futures own.build = none := by
  rw [Option.eq_none_iff_forall_ne_some]
  intro result hresult
  obtain ⟨j, other, ticket, hother, hphase, hown⟩ := h.resolved own.build result hresult
  obtain ⟨-, rfl⟩ := hordered.owner_unique hother hcall (by rw [hphase]; rfl)
    (by rw [hreleased]; rfl) hown
  rw [hreleased] at hphase
  cases hphase

theorem call (h : s.Answering) (hordered : s.Ordered) {call call' : CacheCall κ β ε}
    (hcall : s.calls i = some call) (hstep : CallStep s.clock s.toCacheMemory call call' m) : (s.record i call' m).Answering := by
  have howner : ∀ j other build, (s.record i call' m).calls j = some other →
      other.phase.awaited? = some build → _ :=
    fun j other build hother hawaited => h.owner_record hcall hstep.continues hother hawaited
  rcases hstep.futures_cases with ⟨hfutures, hunsettled, hanswered⟩ |
    ⟨own, outcome, hreleased, hsettled, hfutures⟩
  · refine ⟨howner, ?_, ?_, ?_⟩
    · intro j other ticket result hother hphase
      refine (congrFun hfutures ticket.build).trans ?_
      obtain ⟨old, hold, ⟨-, -, rfl⟩ | ⟨-, rfl⟩⟩ := calls_record_back hcall hother
      · exact absurd hphase (hunsettled ticket result)
      · exact h.settled j other ticket result hold hphase
    · intro build result hresult
      exact h.resolved_record hcall hstep ((congrFun hfutures build).symm.trans hresult)
    · intro j other build result hother hphase
      refine (congrFun hfutures build).trans ?_
      obtain ⟨old, hold, ⟨-, -, rfl⟩ | ⟨-, rfl⟩⟩ := calls_record_back hcall hother
      · exact hanswered build result hphase
      · exact h.answered j other build result hold hphase
  · have hopen := h.open_of_released hordered hcall hreleased
    have hkept : ∀ build result, s.futures build = some result →
        m.futures build = some result := by
      intro build result hresult
      have hne : build ≠ own.build := by
        rintro rfl
        rw [hopen] at hresult
        cases hresult
      rw [hfutures, Function.update_of_ne hne]
      exact hresult
    refine ⟨howner, ?_, ?_, ?_⟩
    · intro j other ticket result hother hphase
      obtain ⟨old, hold, ⟨-, -, rfl⟩ | ⟨-, rfl⟩⟩ := calls_record_back hcall hother
      · rw [hsettled] at hphase
        cases hphase
        exact (congrFun hfutures own.build).trans (Function.update_self ..)
      · exact hkept ticket.build result (h.settled j other ticket result hold hphase)
    · intro build result hresult
      change m.futures build = _ at hresult
      by_cases hbuild : build = own.build
      · rw [hbuild, hfutures, Function.update_self, Option.some.injEq] at hresult
        exact ⟨i, call', own, Function.update_self .., hresult ▸ hsettled, hbuild.symm⟩
      · rw [hfutures, Function.update_of_ne hbuild] at hresult
        exact h.resolved_record hcall hstep hresult
    · intro j other build result hother hphase
      obtain ⟨old, hold, ⟨-, -, rfl⟩ | ⟨-, rfl⟩⟩ := calls_record_back hcall hother
      · rw [hsettled] at hphase
        cases hphase
      · exact hkept build result (h.answered j other build result hold hphase)

end Call

theorem drop (h : s.Answering) (hordered : s.Ordered) (dropping : Dropping κ) :
    Answering { s with
      cache := dropping.apply s.cache
      droppings := (s.clock, dropping) :: s.droppings
      clock := s.clock + 1 } := by
  refine ⟨?_, h.settled, h.resolved, h.answered⟩
  intro i call build hcall hawaited
  obtain ⟨j, other, ticket, hother, hticket, hown, hkey, hlive⟩ :=
    h.owner i call build hcall hawaited
  exact ⟨j, other, ticket, hother, hticket, hown, hkey,
    hlive.drop (hordered.lookups i call hcall) dropping⟩

theorem exists_owner (h : s.Answering) (hordered : s.Ordered) {i build : Nat}
    {call : CacheCall κ β ε} {outcome : Except ε (Dated β)} (hcall : s.calls i = some call)
    (hphase : call.phase = .answered build outcome) :
    ∃ j owner ticket, s.calls j = some owner ∧ owner.phase = .owning ticket (.settled outcome) ∧
      ticket.build = build ∧ (owner.key == call.key) = true ∧
      s.Outlives call.key owner.lookedUp call.lookedUp := by
  obtain ⟨j, owner, ticket, howner, hticket, rfl, hkey, hlive⟩ :=
    h.owner i call build hcall (by rw [hphase]; rfl)
  obtain ⟨k, other, own, hother, hsettled, hsame⟩ := h.resolved ticket.build outcome
    (h.answered i call ticket.build outcome hcall hphase)
  obtain ⟨-, rfl⟩ := hordered.owner_unique hother howner (by rw [hsettled]; rfl) hticket hsame
  exact ⟨k, other, own, hother, hsettled, hsame, hkey, hlive⟩

end Answering

theorem Reachable.answering [EquivBEq κ] [TimeScale τ] {idleTime start : τ}
    (h : s.Reachable idleTime start) : s.Answering := by
  induction h with
  | initial => constructor <;> intros <;> contradiction
  | @step s s' hreach hstep ih =>
      cases hstep with
      | lookup i key now free =>
          exact ih.lookup hreach.coordinated free rfl (s.cache.looked key now)
      | call hcall hcallStep => exact ih.call hreach.ordered hcall hcallStep
      | drop dropping => exact ih.drop hreach.ordered dropping

end RecordBinding.SharedCache
