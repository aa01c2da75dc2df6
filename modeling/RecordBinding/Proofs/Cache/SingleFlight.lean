import Mathlib.Logic.Relation
import RecordBinding.Proofs.Cache.Coordination

namespace RecordBinding.SharedCache

open Relation

variable {κ β ε τ : Type} [BEq κ] {s s' : SharedCache κ β ε τ}

/-- A step of one call alone. -/
def OwnStep (i : Nat) (s s' : SharedCache κ β ε τ) : Prop :=
  ∃ call call' m, s.calls i = some call ∧ CallStep s.clock s.toCacheMemory call call' m ∧
    s' = s.record i call' m

theorem OwnStep.step [TimeScale τ] {i : Nat} (h : OwnStep i s s') : s.Step s' := by
  obtain ⟨call, call', m, hcall, hstep, rfl⟩ := h
  exact .call hcall hstep

theorem Reachable.own [TimeScale τ] {idleTime start : τ} {i : Nat} (h : s.Reachable idleTime start)
    (hsteps : ReflTransGen (OwnStep i) s s') : s'.Reachable idleTime start := by
  induction hsteps with
  | refl => exact h
  | tail _ hstep ih => exact ih.step hstep.step

/-- By its own steps alone a call can come to resolve its future with an outcome. -/
def Resolves (s : SharedCache κ β ε τ) (i build : Nat) (outcome : Except ε (Dated β)) : Prop :=
  ∃ s', ReflTransGen (OwnStep i) s s' ∧ s'.futures build = some outcome

section Resolves

variable {i time : Nat} {key : κ} {ticket : BuildTicket κ}

theorem Resolves.head {build : Nat} {outcome : Except ε (Dated β)}
    {call call' : CacheCall κ β ε} {m : CacheMemory κ β ε τ} (hcall : s.calls i = some call)
    (hstep : CallStep s.clock s.toCacheMemory call call' m)
    (h : (s.record i call' m).Resolves i build outcome) : s.Resolves i build outcome := by
  obtain ⟨s', hsteps, hfuture⟩ := h
  exact ⟨s', .head ⟨call, call', m, hcall, hstep, rfl⟩ hsteps, hfuture⟩

theorem resolves_of_released {outcome : Except ε (Dated β)}
    (hcall : s.calls i = some ⟨key, time, .owning ticket (.released outcome)⟩) :
    s.Resolves i ticket.build outcome :=
  ⟨_, .single ⟨_, _, _, hcall, .settle, rfl⟩, Function.update_self ..⟩

theorem resolves_of_ended (now : τ) {outcome : Except ε (Dated β)}
    (hcall : s.calls i = some ⟨key, time, .owning ticket (.ended outcome)⟩) :
    s.Resolves i ticket.build outcome :=
  .head hcall (.conclude now) (resolves_of_released (Function.update_self ..))

theorem resolves_of_running (now : τ) {begun : Nat} (result : Except ε β)
    (hcall : s.calls i = some ⟨key, time, .owning ticket (.running begun)⟩) :
    s.Resolves i ticket.build (result.map fun value => ⟨value, begun⟩) :=
  .head hcall (.finish result) (resolves_of_ended now (Function.update_self ..))

theorem resolves_of_ready (now : τ) (result : Except ε β)
    (hcall : s.calls i = some ⟨key, time, .owning ticket .ready⟩) :
    s.Resolves i ticket.build (result.map fun value => ⟨value, s.clock⟩) :=
  .head hcall .start (resolves_of_running now result (Function.update_self ..))

end Resolves

theorem resolves_of_upcoming {i : Nat} {call : CacheCall κ β ε} {ticket : BuildTicket κ}
    {progress : BuildProgress β ε} (now : τ) (result : Except ε β) (hcall : s.calls i = some call)
    (hphase : call.phase = .owning ticket progress) {outcome : Except ε (Dated β)}
    (houtcome : BuildProgress.upcoming? s.clock result progress = some outcome) :
    s.Resolves i ticket.build outcome := by
  obtain ⟨key, time, phase⟩ := call
  cases hphase
  cases progress with
  | ready =>
      cases houtcome
      exact resolves_of_ready now result hcall
  | running begun =>
      cases houtcome
      exact resolves_of_running now result hcall
  | ended own =>
      cases houtcome
      exact resolves_of_ended now hcall
  | released own =>
      cases houtcome
      exact resolves_of_released hcall
  | settled own => cases houtcome

/-- A step without a new call for a key. -/
def Quiet [TimeScale τ] (key : κ) (s s' : SharedCache κ β ε τ) : Prop :=
  s.Step s' ∧ ∀ i call, s.calls i = none → s'.calls i = some call → (call.key == key) = false

/-- Nothing is stored under a key, and no build is under way for it. -/
structure Idle (s : SharedCache κ β ε τ) (key : κ) : Prop where
  pending : s.cache.pending? key = none
  entry : ∀ value, ¬ s.cache.Stores key value

namespace Idle

variable {key : κ}

theorem lookup_outcome [EquivBEq κ] [TimeScale τ] (h : s.Idle key) (now : τ) :
    (s.cache.lookup key now).1.outcome = .run (s.cache.nextTicket key) := by
  have hlooked := s.cache.looked key now
  generalize (s.cache.lookup key now).1.outcome = outcome at hlooked
  cases hlooked with
  | hit hvalue _ => exact absurd hvalue (h.entry _)
  | wait hbuild _ =>
      rw [h.pending] at hbuild
      cases hbuild
  | run _ _ _ _ _ _ => rfl

theorem lookup (h : s.Idle key) {asked : κ} (hkey : (asked == key) = false) {i : Nat}
    {call : CacheCall κ β ε} {m : CacheMemory κ β ε τ} {outcome : LookupOutcome κ (Dated β)}
    (hlooked : Cache.Looked s.cache asked outcome m.cache) : (s.record i call m).Idle key := by
  refine ⟨?_, fun value hvalue => h.entry value (hlooked.stores hvalue)⟩
  cases hlooked with
  | hit _ kept => exact (Cache.pending?_congr kept.pending key).trans h.pending
  | wait _ kept => exact (Cache.pending?_congr kept.pending key).trans h.pending
  | run _ _ _ hpending _ _ =>
      refine (Cache.pending?_snoc hpending key).trans ?_
      rw [h.pending, hkey]
      rfl

variable [EquivBEq κ]

theorem call (h : s.Idle key) (hordered : s.Ordered) (hcoordinated : s.Coordinated) {i : Nat}
    {call call' : CacheCall κ β ε} {m : CacheMemory κ β ε τ} (hcall : s.calls i = some call)
    (hstep : CallStep s.clock s.toCacheMemory call call' m) : (s.record i call' m).Idle key := by
  rcases hstep.cache_cases with ⟨hcache, -⟩ | ⟨own, outcome, now, hended, -, hcache⟩
  · refine ⟨?_, fun value hvalue => h.entry value ?_⟩
    · change m.cache.pending? key = _
      rw [hcache]
      exact h.pending
    · change m.cache.Stores key value at hvalue
      rwa [hcache] at hvalue
  · have hflight : call.phase.flight? = some own := by rw [hended]; rfl
    obtain ⟨hown, -, -, hcurrent⟩ :=
      hordered.tickets i call own hcall (CallPhase.ticket?_of_flight? hflight)
    refine ⟨?_, fun value hvalue => ?_⟩
    · change m.cache.pending? key = _
      rw [hcache, Cache.pending?_conclude, Cache.pending?_release, h.pending, ite_self]
    · change m.cache.Stores key value at hvalue
      rw [hcache] at hvalue
      rcases s.cache.stores_conclude hvalue with hold | ⟨hstored, hsame, -⟩
      · exact h.entry value hold
      · have hplace := hcoordinated.pending i call own hcall hflight
          fun d hd _ => hcurrent (eq_of_beq hstored) d hd
        rw [← hown, s.cache.pending?_of_beq hsame, h.pending] at hplace
        cases hplace

theorem drop (h : s.Idle key) (dropping : Dropping κ) :
    Idle { s with
      cache := dropping.apply s.cache
      droppings := (s.clock, dropping) :: s.droppings
      clock := s.clock + 1 } key := by
  refine ⟨?_, fun value hvalue => h.entry value (dropping.stores_apply s.cache hvalue).1⟩
  by_cases hcovers : dropping.Covers key
  · exact dropping.pending?_apply_of_covers s.cache hcovers
  · exact (dropping.pending?_apply_of_not_covers s.cache hcovers).trans h.pending

variable [TimeScale τ] {idleTime start : τ}

theorem step (h : s.Idle key) (hreach : s.Reachable idleTime start) (hquiet : s.Quiet key s') :
    s'.Idle key := by
  obtain ⟨hstep, hnew⟩ := hquiet
  cases hstep with
  | lookup i asked now free =>
      exact h.lookup (hnew i _ free (Function.update_self ..)) (s.cache.looked asked now)
  | call hcall hstep => exact h.call hreach.ordered hreach.coordinated hcall hstep
  | drop dropping => exact h.drop dropping

theorem steps (h : s.Idle key) (hreach : s.Reachable idleTime start)
    (hquiet : ReflTransGen (Quiet key) s s') : s'.Idle key := by
  suffices s'.Idle key ∧ s'.Reachable idleTime start from this.1
  induction hquiet with
  | refl => exact ⟨h, hreach⟩
  | tail _ hstep ih => exact ⟨ih.1.step ih.2 hstep, ih.2.step hstep.1⟩

end Idle

/-- What the step does in which a failed build is abandoned: it gives up the build's own place and
nothing else. If the key was not dropped since the lookup, then the next call for it builds again, be it
at once or after steps without such a call. If the key was dropped, the build has no place any more. -/
structure Abandoned [TimeScale τ] (s s' : SharedCache κ β ε τ) (call : CacheCall κ β ε)
    (ticket : BuildTicket κ) : Prop where
  entries : s'.cache.entries = s.cache.entries
  futures : s'.futures = s.futures
  pending : ∀ key build, s'.cache.pending? key = some build ↔
    s.cache.pending? key = some build ∧ build ≠ ticket.build
  again : s.FreshSince call.key call.lookedUp → ∀ later, ReflTransGen (Quiet call.key) s' later →
    ∀ now, (later.cache.lookup call.key now).1.outcome = .run (later.cache.nextTicket call.key)
  dropped : ¬ s.FreshSince call.key call.lookedUp → s'.cache = s.cache

section Abandoned

variable [TimeScale τ] {i : Nat} {call call' : CacheCall κ β ε} {ticket : BuildTicket κ} {e : ε}

theorem Step.eq_release (hstep : s.Step s') (hcall : s.calls i = some call)
    (hcall' : s'.calls i = some call') (hphase : call.phase = .owning ticket (.ended (.error e)))
    (hphase' : call'.phase = .owning ticket (.released (.error e))) :
    s'.cache = s.cache.release ticket ∧ s'.futures = s.futures := by
  have hmoved : call' ≠ call := by
    rintro rfl
    rw [hphase] at hphase'
    cases hphase'
  cases hstep with
  | lookup j key now free =>
      rcases calls_record hcall' with ⟨rfl, -⟩ | ⟨-, hold⟩
      · rw [free] at hcall
        cases hcall
      · rw [hcall, Option.some.injEq] at hold
        exact absurd hold.symm hmoved
  | call hother hstep =>
      obtain ⟨old, hold, ⟨rfl, rfl, rfl⟩ | ⟨-, rfl⟩⟩ := calls_record_back hother hcall'
      · rw [hcall, Option.some.injEq] at hold
        subst hold
        cases hstep <;> cases hphase
        exact ⟨rfl, rfl⟩
      · rw [hcall, Option.some.injEq] at hold
        exact absurd hold.symm hmoved
  | drop dropping =>
      rw [hcall, Option.some.injEq] at hcall'
      exact absurd hcall'.symm hmoved

variable [EquivBEq κ] {idleTime start : τ}

theorem Reachable.abandoned (h : s.Reachable idleTime start) (hstep : s.Step s')
    (hcall : s.calls i = some call) (hcall' : s'.calls i = some call')
    (hphase : call.phase = .owning ticket (.ended (.error e)))
    (hphase' : call'.phase = .owning ticket (.released (.error e))) :
    s.Abandoned s' call ticket := by
  obtain ⟨hcache, hfutures⟩ := hstep.eq_release hcall hcall' hphase hphase'
  have hflight : call.phase.flight? = some ticket := by rw [hphase]; rfl
  have hkey := (h.ordered.tickets i call ticket hcall (CallPhase.ticket?_of_flight? hflight)).1
  have hpending : ∀ key, s'.cache.pending? key =
      if s.cache.pending? ticket.key = some ticket.build ∧ (ticket.key == key) = true then none
      else s.cache.pending? key := by
    intro key
    rw [hcache, Cache.pending?_release]
  have hplace : ∀ key, s.cache.pending? key = some ticket.build →
      (call.key == key) = true ∧ s.FreshSince call.key call.lookedUp := fun key hbuild =>
    h.coordinated.fresh_of_pending h.ordered hcall (CallPhase.ticket?_of_flight? hflight) hbuild
  refine ⟨by rw [hcache, Cache.release_entries], hfutures, ?_, ?_, ?_⟩
  · intro key build
    rw [hpending, Option.ite_none_left_eq_some]
    constructor
    · rintro ⟨hother, hbuild⟩
      refine ⟨hbuild, ?_⟩
      rintro rfl
      obtain ⟨hsame, hfresh⟩ := hplace key hbuild
      rw [hkey] at hother
      exact hother ⟨h.coordinated.pending i call ticket hcall hflight hfresh, hsame⟩
    · rintro ⟨hbuild, hne⟩
      refine ⟨?_, hbuild⟩
      rintro ⟨hown, hsame⟩
      rw [s.cache.pending?_of_beq hsame, hbuild, Option.some.injEq] at hown
      exact hne hown
  · intro hfresh later hlater now
    have hown := h.coordinated.pending i call ticket hcall hflight hfresh
    have hidle : s'.Idle call.key := by
      refine ⟨?_, fun value hvalue => ?_⟩
      · rw [hpending, if_pos ⟨by rw [hkey]; exact hown, by rw [hkey]; exact beq_self_eq_true _⟩]
      · rw [hcache, Cache.stores_release] at hvalue
        exact h.coordinated.vacant call.key ticket.build value hown hvalue
    exact (hidle.steps (h.step hstep) hlater).lookup_outcome now
  · intro hdropped
    rw [hcache, Cache.release, if_neg]
    intro hown
    exact hdropped (hplace ticket.key (eq_of_beq hown)).2

end Abandoned

/-- Builds take place one at a time for each key, all who wait get the outcome of the build that they
wait for, and a failed build leaves no trace. -/
theorem single_flight [EquivBEq κ] [TimeScale τ] {idleTime start : τ}
    (h : s.Reachable idleTime start) :
    (∀ i j call call' ticket ticket', s.calls i = some call → s.calls j = some call' →
      call.phase.flight? = some ticket → call'.phase.flight? = some ticket' →
      (call.key == call'.key) = true → s.FreshSince call.key call.lookedUp →
      s.FreshSince call'.key call'.lookedUp → i = j) ∧
    (∀ i call build, s.calls i = some call → call.phase = .waiting build →
      (∃ outcome, s.futures build = some outcome) ∨
        ∃ j owner ticket progress, s.calls j = some owner ∧
          owner.phase = .owning ticket progress ∧ ticket.build = build ∧
          ∀ result, ∃ outcome, progress.upcoming? s.clock result = some outcome ∧
            s.Resolves j build outcome) ∧
    (∀ i call build outcome, s.calls i = some call → call.phase = .answered build outcome →
      ∃ j owner ticket, s.calls j = some owner ∧ (owner.key == call.key) = true ∧
        owner.phase = .owning ticket (.settled outcome) ∧ ticket.build = build) ∧
    (∀ i s', ReflTransGen (OwnStep i) s s' → s'.Reachable idleTime start) ∧
    ∀ s' i call call' ticket e, s.Step s' → s.calls i = some call → s'.calls i = some call' →
      call.phase = .owning ticket (.ended (.error e)) →
      call'.phase = .owning ticket (.released (.error e)) → s.Abandoned s' call ticket := by
  have hanswering := h.answering
  refine ⟨?_, ?_, ?_, fun i s' hsteps => h.own hsteps, ?_⟩
  · intro i j call call' ticket ticket' hcall hcall' hticket hticket' hkey hfresh hfresh'
    have hplace := h.coordinated.pending i call ticket hcall hticket hfresh
    have hplace' := h.coordinated.pending j call' ticket' hcall' hticket' hfresh'
    rw [s.cache.pending?_of_beq hkey, hplace', Option.some.injEq] at hplace
    exact (h.ordered.owner_unique hcall hcall' (CallPhase.ticket?_of_flight? hticket)
      (CallPhase.ticket?_of_flight? hticket') hplace.symm).1
  · intro i call build hcall hphase
    obtain ⟨j, owner, ticket, howner, hticket, rfl, -, -⟩ :=
      hanswering.owner i call build hcall (by rw [hphase]; rfl)
    obtain ⟨progress, hprogress⟩ := CallPhase.exists_of_ticket? hticket
    have hcoming : (∃ outcome, owner.phase = .owning ticket (.settled outcome)) ∨
        ∀ result, ∃ outcome, progress.upcoming? s.clock result = some outcome := by
      cases progress with
      | settled outcome => exact .inl ⟨outcome, hprogress⟩
      | _ => exact .inr fun result => ⟨_, rfl⟩
    rcases hcoming with ⟨outcome, hsettled⟩ | hcoming
    · exact .inl ⟨outcome, hanswering.settled j owner ticket outcome howner hsettled⟩
    · refine .inr ⟨j, owner, ticket, progress, howner, hprogress, rfl, fun result => ?_⟩
      obtain ⟨outcome, houtcome⟩ := hcoming result
      exact ⟨outcome, houtcome, resolves_of_upcoming start result howner hprogress houtcome⟩
  · intro i call build outcome hcall hphase
    obtain ⟨j, owner, ticket, howner, hsettled, hbuild, hkey, -⟩ :=
      hanswering.exists_owner h.ordered hcall hphase
    exact ⟨j, owner, ticket, howner, hkey, hsettled, hbuild⟩
  · intro s' i call call' ticket e hstep hcall hcall' hphase hphase'
    exact h.abandoned hstep hcall hcall' hphase hphase'

/-- A build whose key was dropped fails while a newer one runs: the newer one keeps its place, and the one
who waits for it may still be answered. -/
theorem single_flight_of_failed_build :
    ∃ s s' : SharedCache Nat Nat String Int, s.Reachable 60 0 ∧ s.Step s' ∧
      s.calls 2 = some ⟨7, 4, .waiting 1⟩ ∧
      (∃ j owner ticket progress, s.calls j = some owner ∧
        owner.phase = .owning ticket progress ∧ ticket.build = 1 ∧
        ∀ result, ∃ outcome, progress.upcoming? s.clock result = some outcome ∧
          s.Resolves j 1 outcome) ∧
      s.Abandoned s' ⟨7, 0, .owning ⟨7, 0, 0⟩ (.ended (.error "no setter"))⟩ ⟨7, 0, 0⟩ := by
  have hasked : Reachable 60 0 (_ : SharedCache Nat Nat String Int) :=
    .step .initial (.lookup 0 7 0 rfl)
  have hrunning := hasked.step (.call (i := 0) rfl .start)
  have hdropped := hrunning.step (.drop .all)
  have hnewer := hdropped.step (.lookup 1 7 1 rfl)
  have hjoined := hnewer.step (.lookup 2 7 2 rfl)
  have hbegun := hjoined.step (.call (i := 1) rfl .start)
  have hfailed := hbegun.step (.call (i := 0) rfl (.finish (.error "no setter")))
  obtain ⟨-, hwaiting, -, -, habandoned⟩ := single_flight hfailed
  refine ⟨_, _, hfailed, .call (i := 0) rfl (.conclude 3), rfl, ?_,
    habandoned _ 0 _ _ _ _ (.call (i := 0) rfl (.conclude 3)) rfl rfl rfl rfl⟩
  rcases hwaiting 2 _ 1 rfl rfl with ⟨outcome, hfuture⟩ | howner
  · cases hfuture
  · exact howner

end RecordBinding.SharedCache
