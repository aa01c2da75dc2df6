import Mathlib.Logic.Function.Basic
import RecordBinding.Proofs.Cache.Operations

namespace RecordBinding

/-- A value with the time at which the factory that made it began to run. -/
structure Dated (β : Type) where
  value : β
  begun : Nat

/-- How far the owner of a build has come: the factory is to run, runs, or has ended; the build is
published or abandoned; its future is resolved. -/
inductive BuildProgress (β ε : Type) where
  | ready
  | running (begun : Nat)
  | ended (outcome : Except ε (Dated β))
  | released (outcome : Except ε (Dated β))
  | settled (outcome : Except ε (Dated β))

/-- What a call has come to since its lookup. -/
inductive CallPhase (κ β ε : Type) where
  | found (value : Dated β)
  | waiting (build : Nat)
  | answered (build : Nat) (outcome : Except ε (Dated β))
  | owning (ticket : BuildTicket κ) (progress : BuildProgress β ε)

/-- A call with the time of its lookup. -/
structure CacheCall (κ β ε : Type) where
  key : κ
  lookedUp : Nat
  phase : CallPhase κ β ε

/-- What is dropped from a cache at once: everything, or one key. -/
inductive Dropping (κ : Type) where
  | all
  | one (key : κ)

/-- What concurrent callers share: a cache, and the futures of its builds. -/
structure CacheMemory (κ β ε τ : Type) where
  cache : Cache κ (Dated β) τ
  futures : Nat → Option (Except ε (Dated β))

/-- A cache with its concurrent callers: besides what they share, the calls by number, the droppings so
far with their times, and the number of steps taken. -/
structure SharedCache (κ β ε τ : Type) extends CacheMemory κ β ε τ where
  calls : Nat → Option (CacheCall κ β ε)
  droppings : List (Nat × Dropping κ)
  clock : Nat

variable {κ β ε τ : Type}

namespace BuildProgress

/-- The outcome that a build comes to when its factory, unless it has ended, ends with a result. There is
none any more once the build is settled. -/
def upcoming? (clock : Nat) (result : Except ε β) :
    BuildProgress β ε → Option (Except ε (Dated β))
  | ready => some (result.map fun value => ⟨value, clock⟩)
  | running begun => some (result.map fun value => ⟨value, begun⟩)
  | ended outcome => some outcome
  | released outcome => some outcome
  | settled _ => none

/-- When the factory began to run, if it did and did not fail. -/
def begun? : BuildProgress β ε → Option Nat
  | ready => none
  | running begun => some begun
  | ended outcome => outcome.toOption.map Dated.begun
  | released outcome => outcome.toOption.map Dated.begun
  | settled outcome => outcome.toOption.map Dated.begun

end BuildProgress

namespace CallPhase

def ofLookup : LookupOutcome κ (Dated β) → CallPhase κ β ε
  | .hit value => found value
  | .wait build => waiting build
  | .run ticket => owning ticket .ready

/-- What the call has returned or raised, once it is over. -/
def outcome? : CallPhase κ β ε → Option (Except ε (Dated β))
  | found value => some (.ok value)
  | waiting _ => none
  | answered _ outcome => some outcome
  | owning _ (.settled outcome) => some outcome
  | owning _ _ => none

/-- The build that a call owns. -/
def ticket? : CallPhase κ β ε → Option (BuildTicket κ)
  | owning ticket _ => some ticket
  | _ => none

/-- The build that a call owns and has neither published nor abandoned. -/
def flight? : CallPhase κ β ε → Option (BuildTicket κ)
  | owning _ (.released _) => none
  | owning _ (.settled _) => none
  | owning ticket _ => some ticket
  | _ => none

/-- When the factory of the build that a call owns began to run. -/
def begun? : CallPhase κ β ε → Option Nat
  | owning _ progress => progress.begun?
  | _ => none

/-- The build of another call that a call waits for or has waited for. -/
def awaited? : CallPhase κ β ε → Option Nat
  | waiting build => some build
  | answered build _ => some build
  | _ => none

end CallPhase

namespace Dropping

variable [BEq κ]

def apply : Dropping κ → Cache κ β τ → Cache κ β τ
  | all, c => c.clear
  | one key, c => c.invalidate key

def Covers : Dropping κ → κ → Prop
  | all, _ => True
  | one dropped, key => (dropped == key) = true

end Dropping

/-- Ends a build with the outcome of its factory. -/
def Cache.conclude [BEq κ] (c : Cache κ β τ) (ticket : BuildTicket κ) (outcome : Except ε β)
    (now : τ) : Cache κ β τ :=
  match outcome with
  | .ok value => c.publish ticket value now
  | .error _ => c.abandon ticket

/-- A step of a call after its lookup. The section under the lock is one step, and so are the beginning
and the end of the factory's run, the resolving of the future and the end of a wait for it. -/
inductive CallStep [BEq κ] (clock : Nat) (m : CacheMemory κ β ε τ) :
    CacheCall κ β ε → CacheCall κ β ε → CacheMemory κ β ε τ → Prop
  | start {key : κ} {time : Nat} {ticket : BuildTicket κ} :
      CallStep clock m ⟨key, time, .owning ticket .ready⟩
        ⟨key, time, .owning ticket (.running clock)⟩ m
  | finish {key : κ} {time : Nat} {ticket : BuildTicket κ} {begun : Nat} (result : Except ε β) :
      CallStep clock m ⟨key, time, .owning ticket (.running begun)⟩
        ⟨key, time, .owning ticket (.ended (result.map fun value => ⟨value, begun⟩))⟩ m
  | conclude {key : κ} {time : Nat} {ticket : BuildTicket κ} {outcome : Except ε (Dated β)}
      (now : τ) :
      CallStep clock m ⟨key, time, .owning ticket (.ended outcome)⟩
        ⟨key, time, .owning ticket (.released outcome)⟩
        { m with cache := m.cache.conclude ticket outcome now }
  | settle {key : κ} {time : Nat} {ticket : BuildTicket κ} {outcome : Except ε (Dated β)} :
      CallStep clock m ⟨key, time, .owning ticket (.released outcome)⟩
        ⟨key, time, .owning ticket (.settled outcome)⟩
        { m with futures := Function.update m.futures ticket.build (some outcome) }
  | wake {key : κ} {time : Nat} {build : Nat} {outcome : Except ε (Dated β)}
      (hfuture : m.futures build = some outcome) :
      CallStep clock m ⟨key, time, .waiting build⟩ ⟨key, time, .answered build outcome⟩ m

namespace SharedCache

/-- A cache without callers. -/
def initial [TimeScale τ] (idleTime start : τ) : SharedCache κ β ε τ :=
  ⟨⟨.empty idleTime start, fun _ => none⟩, fun _ => none, [], 0⟩

/-- A call has got somewhere, with what is shared then. -/
def record (s : SharedCache κ β ε τ) (i : Nat) (call : CacheCall κ β ε)
    (m : CacheMemory κ β ε τ) : SharedCache κ β ε τ :=
  { s with
    toCacheMemory := m
    calls := Function.update s.calls i (some call)
    clock := s.clock + 1 }

/-- A lookup by a new call, a further step of a call, or a dropping. -/
inductive Step [BEq κ] [TimeScale τ] (s : SharedCache κ β ε τ) : SharedCache κ β ε τ → Prop
  | lookup (i : Nat) (key : κ) (now : τ) (free : s.calls i = none) :
      Step s (s.record i ⟨key, s.clock, .ofLookup (s.cache.lookup key now).1.outcome⟩
        { s.toCacheMemory with cache := (s.cache.lookup key now).2 })
  | call {i : Nat} {call call' : CacheCall κ β ε} {m : CacheMemory κ β ε τ}
      (hcall : s.calls i = some call) (hstep : CallStep s.clock s.toCacheMemory call call' m) :
      Step s (s.record i call' m)
  | drop (dropping : Dropping κ) :
      Step s { s with
        cache := dropping.apply s.cache
        droppings := (s.clock, dropping) :: s.droppings
        clock := s.clock + 1 }

/-- The states that interleaved calls and droppings lead to. -/
inductive Reachable [BEq κ] [TimeScale τ] (idleTime start : τ) : SharedCache κ β ε τ → Prop
  | initial : Reachable idleTime start (initial idleTime start)
  | step {s s' : SharedCache κ β ε τ} (h : Reachable idleTime start s) (hstep : s.Step s') :
      Reachable idleTime start s'

end SharedCache

namespace Cache

variable [BEq κ] (c : Cache κ β τ) (ticket : BuildTicket κ) (outcome : Except ε β) (now : τ)

@[simp] theorem conclude_generation : (c.conclude ticket outcome now).generation = c.generation := by
  cases outcome with
  | ok value => exact c.publish_generation ticket value now
  | error e => exact c.release_generation ticket

@[simp] theorem conclude_buildsBegun :
    (c.conclude ticket outcome now).buildsBegun = c.buildsBegun := by
  cases outcome with
  | ok value => exact c.publish_buildsBegun ticket value now
  | error e => exact c.release_buildsBegun ticket

theorem pending?_conclude (key : κ) :
    (c.conclude ticket outcome now).pending? key = (c.release ticket).pending? key := by
  cases outcome with
  | ok value => exact pending?_congr (c.publish_pending ticket value now) key
  | error e => rfl

variable {ticket outcome now} in
theorem stores_conclude [EquivBEq κ] {key : κ} {stored : β}
    (h : (c.conclude ticket outcome now).Stores key stored) :
    c.Stores key stored ∨
      c.isCurrent ticket = true ∧ (ticket.key == key) = true ∧ outcome = .ok stored := by
  cases outcome with
  | ok value =>
      rcases c.stores_publish h with hold | ⟨hcurrent, hkey, rfl⟩
      · exact .inl hold
      · exact .inr ⟨hcurrent, hkey, rfl⟩
  | error e => exact .inl ((c.stores_release ticket).1 h)

end Cache

namespace Dropping

variable [BEq κ] (dropping : Dropping κ) (c : Cache κ β τ)

@[simp] theorem apply_generation : (dropping.apply c).generation = c.generation + 1 := by
  cases dropping <;> rfl

@[simp] theorem apply_buildsBegun : (dropping.apply c).buildsBegun = c.buildsBegun := by
  cases dropping <;> rfl

variable [EquivBEq κ] {key : κ}

theorem pending?_apply_of_covers (h : dropping.Covers key) :
    (dropping.apply c).pending? key = none := by
  cases dropping with
  | all => rfl
  | one dropped => exact (c.pending?_invalidate dropped key).trans (if_pos h)

theorem pending?_apply_of_not_covers (h : ¬ dropping.Covers key) :
    (dropping.apply c).pending? key = c.pending? key := by
  cases dropping with
  | all => exact absurd trivial h
  | one dropped => exact (c.pending?_invalidate dropped key).trans (if_neg h)

theorem stores_apply {value : β} (h : (dropping.apply c).Stores key value) :
    c.Stores key value ∧ ¬ dropping.Covers key := by
  cases dropping with
  | all =>
      obtain ⟨stored, entry, hmem, -, -⟩ := h
      cases hmem
  | one dropped =>
      obtain ⟨hstores, hkey⟩ := c.stores_invalidate h
      exact ⟨hstores, by simp [Covers, hkey]⟩

theorem Covers.congr {dropping : Dropping κ} {key' : κ} (h : dropping.Covers key)
    (hkey : (key == key') = true) : dropping.Covers key' := by
  cases dropping with
  | all => trivial
  | one dropped => exact BEq.trans h hkey

end Dropping

/-- A call goes on as it began: for the same key, with the same build of its own or of another call. -/
structure CacheCall.Continues (call call' : CacheCall κ β ε) : Prop where
  key : call'.key = call.key
  lookedUp : call'.lookedUp = call.lookedUp
  ticket : call'.phase.ticket? = call.phase.ticket?
  awaited : call'.phase.awaited? = call.phase.awaited?

theorem CacheCall.Continues.refl (call : CacheCall κ β ε) : call.Continues call :=
  ⟨rfl, rfl, rfl, rfl⟩

theorem CallPhase.exists_of_ticket? {phase : CallPhase κ β ε} {ticket : BuildTicket κ}
    (h : phase.ticket? = some ticket) : ∃ progress, phase = owning ticket progress := by
  cases phase with
  | owning own progress =>
      cases h
      exact ⟨progress, rfl⟩
  | _ => cases h

theorem CallPhase.ticket?_of_flight? {phase : CallPhase κ β ε} {ticket : BuildTicket κ}
    (h : phase.flight? = some ticket) : phase.ticket? = some ticket := by
  cases phase with
  | owning own progress => cases progress <;> first | exact h | cases h
  | _ => cases h

namespace CallStep

variable [BEq κ] {clock : Nat} {m m' : CacheMemory κ β ε τ} {call call' : CacheCall κ β ε}

theorem continues (h : CallStep clock m call call' m') : call.Continues call' := by
  cases h <;> constructor <;> rfl

theorem generation_eq (h : CallStep clock m call call' m') :
    m'.cache.generation = m.cache.generation := by
  cases h with
  | conclude now => exact m.cache.conclude_generation _ _ now
  | _ => rfl

theorem buildsBegun_eq (h : CallStep clock m call call' m') :
    m'.cache.buildsBegun = m.cache.buildsBegun := by
  cases h with
  | conclude now => exact m.cache.conclude_buildsBegun _ _ now
  | _ => rfl

theorem cache_cases (h : CallStep clock m call call' m') :
    m'.cache = m.cache ∧ call'.phase.flight? = call.phase.flight? ∨
      ∃ ticket outcome now, call.phase = .owning ticket (.ended outcome) ∧
        call'.phase = .owning ticket (.released outcome) ∧
        m'.cache = m.cache.conclude ticket outcome now := by
  cases h with
  | conclude now => exact .inr ⟨_, _, now, rfl, rfl, rfl⟩
  | _ => exact .inl ⟨rfl, rfl⟩

theorem not_settled (h : CallStep clock m call call' m') (ticket : BuildTicket κ)
    (outcome : Except ε (Dated β)) : call.phase ≠ .owning ticket (.settled outcome) := by
  cases h <;> exact fun hphase => by cases hphase

theorem not_found (h : CallStep clock m call call' m') (value : Dated β) :
    call'.phase ≠ .found value := by
  cases h <;> exact fun hphase => by cases hphase

theorem begun_cases (h : CallStep clock m call call' m') {begun : Nat}
    (hbegun : call'.phase.begun? = some begun) :
    call.phase.begun? = some begun ∨ begun = clock := by
  cases h with
  | start => exact .inr (Option.some.inj hbegun).symm
  | finish result =>
      cases result with
      | ok value => exact .inl hbegun
      | error e => cases hbegun
  | wake hfuture => cases hbegun
  | _ => exact .inl hbegun

theorem futures_cases (h : CallStep clock m call call' m') :
    (m'.futures = m.futures ∧
      (∀ ticket outcome, call'.phase ≠ .owning ticket (.settled outcome)) ∧
      ∀ build outcome, call'.phase = .answered build outcome → m.futures build = some outcome) ∨
      ∃ ticket outcome, call.phase = .owning ticket (.released outcome) ∧
        call'.phase = .owning ticket (.settled outcome) ∧
        m'.futures = Function.update m.futures ticket.build (some outcome) := by
  cases h with
  | settle => exact .inr ⟨_, _, rfl, rfl, rfl⟩
  | wake hfuture =>
      refine .inl ⟨rfl, fun _ _ hphase => (by cases hphase), fun _ _ hphase => ?_⟩
      cases hphase
      exact hfuture
  | _ =>
      exact .inl ⟨rfl, fun _ _ hphase => (by cases hphase), fun _ _ hphase => (by cases hphase)⟩

end CallStep

namespace Cache.Looked

variable [BEq κ] {c c' : Cache κ (Dated β) τ} {key : κ} {outcome : LookupOutcome κ (Dated β)}

theorem generation_eq (h : Looked c key outcome c') : c'.generation = c.generation := by
  cases h with
  | hit _ kept => exact kept.generation
  | wait _ kept => exact kept.generation
  | run _ _ _ _ hgeneration _ => exact hgeneration

theorem buildsBegun_le (h : Looked c key outcome c') : c.buildsBegun ≤ c'.buildsBegun := by
  cases h with
  | hit _ kept => exact Nat.le_of_eq kept.buildsBegun.symm
  | wait _ kept => exact Nat.le_of_eq kept.buildsBegun.symm
  | run _ _ _ _ _ hbuilds => omega

theorem eq_nextTicket (h : Looked c key outcome c') {ticket : BuildTicket κ}
    (hticket : (CallPhase.ofLookup outcome : CallPhase κ β ε).ticket? = some ticket) :
    ticket = c.nextTicket key ∧ c'.buildsBegun = c.buildsBegun + 1 := by
  cases h with
  | hit _ _ => cases hticket
  | wait _ _ => cases hticket
  | run _ _ _ _ _ hbuilds =>
      cases hticket
      exact ⟨rfl, hbuilds⟩

end Cache.Looked

namespace SharedCache

variable {s s' : SharedCache κ β ε τ}

theorem calls_record {i j : Nat} {call other : CacheCall κ β ε} {m : CacheMemory κ β ε τ}
    (h : (s.record i call m).calls j = some other) :
    j = i ∧ other = call ∨ j ≠ i ∧ s.calls j = some other := by
  simp only [record] at h
  by_cases hij : j = i
  · subst hij
    rw [Function.update_self] at h
    exact .inl ⟨rfl, (Option.some.inj h).symm⟩
  · rw [Function.update_of_ne hij] at h
    exact .inr ⟨hij, h⟩

theorem calls_record_of_free {i j : Nat} {call other : CacheCall κ β ε} {m : CacheMemory κ β ε τ}
    (free : s.calls i = none) (h : s.calls j = some other) :
    (s.record i call m).calls j = some other := by
  have hij : j ≠ i := by
    rintro rfl
    rw [free] at h
    cases h
  exact (Function.update_of_ne hij ..).trans h

section Record

variable {i j : Nat} {call call' other : CacheCall κ β ε} {m : CacheMemory κ β ε τ}

theorem calls_record_back (hcall : s.calls i = some call)
    (h : (s.record i call' m).calls j = some other) :
    ∃ old, s.calls j = some old ∧ (j = i ∧ old = call ∧ other = call' ∨ j ≠ i ∧ other = old) := by
  rcases calls_record h with ⟨rfl, rfl⟩ | ⟨hij, hold⟩
  · exact ⟨call, hcall, .inl ⟨rfl, rfl, rfl⟩⟩
  · exact ⟨other, hold, .inr ⟨hij, rfl⟩⟩

variable (call' m) in
theorem calls_record_forth (hcall : s.calls i = some call) (h : s.calls j = some other) :
    ∃ new, (s.record i call' m).calls j = some new ∧
      (j = i ∧ other = call ∧ new = call' ∨ j ≠ i ∧ new = other) := by
  by_cases hij : j = i
  · subst hij
    rw [hcall] at h
    exact ⟨call', Function.update_self .., .inl ⟨rfl, (Option.some.inj h).symm, rfl⟩⟩
  · exact ⟨other, (Function.update_of_ne hij ..).trans h, .inr ⟨hij, rfl⟩⟩

theorem exists_continues [BEq κ] (hcall : s.calls i = some call) (hcontinues : call.Continues call')
    (h : (s.record i call' m).calls j = some other) :
    ∃ old, s.calls j = some old ∧ old.Continues other := by
  obtain ⟨old, hold, ⟨rfl, rfl, rfl⟩ | ⟨-, rfl⟩⟩ := calls_record_back hcall h
  · exact ⟨old, hold, hcontinues⟩
  · exact ⟨other, hold, .refl other⟩

end Record

/-- The times are past ones, and the builds of the calls have numbers of their own. A build that the
cache takes for current was asked for after all droppings, and its factory began to run after that. -/
structure Ordered (s : SharedCache κ β ε τ) : Prop where
  droppings : ∀ d ∈ s.droppings, d.1 < s.clock
  lookups : ∀ i call, s.calls i = some call → call.lookedUp < s.clock
  tickets : ∀ i call ticket, s.calls i = some call → call.phase.ticket? = some ticket →
    ticket.key = call.key ∧ ticket.build < s.cache.buildsBegun ∧
      ticket.generation ≤ s.cache.generation ∧
      (ticket.generation = s.cache.generation → ∀ d ∈ s.droppings, d.1 < call.lookedUp)
  distinct : ∀ i j call call' ticket ticket', s.calls i = some call → s.calls j = some call' →
    call.phase.ticket? = some ticket → call'.phase.ticket? = some ticket' →
    ticket.build = ticket'.build → i = j

namespace Ordered

theorem owner_unique (h : s.Ordered) {i j : Nat} {call call' : CacheCall κ β ε}
    {ticket ticket' : BuildTicket κ} (hcall : s.calls i = some call)
    (hcall' : s.calls j = some call') (hticket : call.phase.ticket? = some ticket)
    (hticket' : call'.phase.ticket? = some ticket') (hbuild : ticket.build = ticket'.build) :
    i = j ∧ call = call' := by
  obtain rfl := h.distinct i j call call' ticket ticket' hcall hcall' hticket hticket' hbuild
  exact ⟨rfl, Option.some.inj (hcall.symm.trans hcall')⟩

theorem lookup [BEq κ] (h : s.Ordered) {i : Nat} {key : κ} {m : CacheMemory κ β ε τ}
    {outcome : LookupOutcome κ (Dated β)} (hlooked : Cache.Looked s.cache key outcome m.cache) :
    (s.record i ⟨key, s.clock, .ofLookup outcome⟩ m).Ordered := by
  have hgeneration := hlooked.generation_eq
  have hbuilds := hlooked.buildsBegun_le
  refine ⟨fun d hd => Nat.lt_succ_of_lt (h.droppings d hd), ?_, ?_, ?_⟩
  · intro j call hcall
    rcases calls_record hcall with ⟨rfl, rfl⟩ | ⟨-, hold⟩
    · exact Nat.lt_succ_self _
    · exact Nat.lt_succ_of_lt (h.lookups j call hold)
  · intro j call ticket hcall hticket
    change _ ∧ _ < m.cache.buildsBegun ∧ _ ≤ m.cache.generation ∧ (_ = m.cache.generation → _)
    rcases calls_record hcall with ⟨rfl, rfl⟩ | ⟨-, hold⟩
    · obtain ⟨rfl, hnew⟩ := hlooked.eq_nextTicket hticket
      rw [hnew, hgeneration]
      exact ⟨rfl, Nat.lt_succ_self _, Nat.le_refl _, fun _ => h.droppings⟩
    · obtain ⟨hkey, hbuild, hle, hcurrent⟩ := h.tickets j call ticket hold hticket
      rw [hgeneration]
      exact ⟨hkey, Nat.lt_of_lt_of_le hbuild hbuilds, hle, hcurrent⟩
  · intro j k call call' ticket ticket' hcall hcall' hticket hticket' hbuild
    rcases calls_record hcall with ⟨rfl, rfl⟩ | ⟨hj, hold⟩ <;>
      rcases calls_record hcall' with ⟨rfl, rfl⟩ | ⟨hk, hold'⟩
    · rfl
    · obtain ⟨rfl, -⟩ := hlooked.eq_nextTicket hticket
      have hlt := (h.tickets k call' ticket' hold' hticket').2.1
      exact absurd hbuild (Nat.ne_of_gt hlt)
    · obtain ⟨rfl, -⟩ := hlooked.eq_nextTicket hticket'
      have hlt := (h.tickets j call ticket hold hticket).2.1
      exact absurd hbuild (Nat.ne_of_lt hlt)
    · exact h.distinct j k call call' ticket ticket' hold hold' hticket hticket' hbuild

theorem call [BEq κ] (h : s.Ordered) {i : Nat} {call call' : CacheCall κ β ε}
    {m : CacheMemory κ β ε τ} (hcall : s.calls i = some call)
    (hstep : CallStep s.clock s.toCacheMemory call call' m) : (s.record i call' m).Ordered := by
  have hback : ∀ j other, (s.record i call' m).calls j = some other →
      ∃ old, s.calls j = some old ∧ old.Continues other :=
    fun j other hother => exists_continues hcall hstep.continues hother
  refine ⟨fun d hd => Nat.lt_succ_of_lt (h.droppings d hd), ?_, ?_, ?_⟩
  · intro j other hother
    obtain ⟨old, hold, hcont⟩ := hback j other hother
    rw [hcont.lookedUp]
    exact Nat.lt_succ_of_lt (h.lookups j old hold)
  · intro j other ticket hother hticket
    obtain ⟨old, hold, hcont⟩ := hback j other hother
    change _ ∧ _ < m.cache.buildsBegun ∧ _ ≤ m.cache.generation ∧ (_ = m.cache.generation → _)
    rw [hcont.key, hcont.lookedUp, hstep.buildsBegun_eq, hstep.generation_eq]
    exact h.tickets j old ticket hold (hcont.ticket ▸ hticket)
  · intro j k other other' ticket ticket' hother hother' hticket hticket'
    obtain ⟨old, hold, hcont⟩ := hback j other hother
    obtain ⟨old', hold', hcont'⟩ := hback k other' hother'
    exact h.distinct j k old old' ticket ticket' hold hold' (hcont.ticket ▸ hticket)
      (hcont'.ticket ▸ hticket')

theorem drop [BEq κ] (h : s.Ordered) (dropping : Dropping κ) :
    Ordered { s with
      cache := dropping.apply s.cache
      droppings := (s.clock, dropping) :: s.droppings
      clock := s.clock + 1 } := by
  refine ⟨?_, fun i call hcall => Nat.lt_succ_of_lt (h.lookups i call hcall), ?_, h.distinct⟩
  · intro d hd
    rcases List.mem_cons.1 hd with rfl | hold
    · exact Nat.lt_succ_self _
    · exact Nat.lt_succ_of_lt (h.droppings d hold)
  · intro i call ticket hcall hticket
    obtain ⟨hkey, hbuild, hle, -⟩ := h.tickets i call ticket hcall hticket
    dsimp only
    rw [dropping.apply_buildsBegun, dropping.apply_generation]
    refine ⟨hkey, hbuild, Nat.le_succ_of_le hle, ?_⟩
    intro hcurrent
    omega

end Ordered

theorem Reachable.ordered [BEq κ] [EquivBEq κ] [TimeScale τ] {idleTime start : τ}
    (h : s.Reachable idleTime start) : s.Ordered := by
  induction h with
  | initial => constructor <;> intros <;> contradiction
  | @step s s' _ hstep ih =>
      cases hstep with
      | lookup i key now free => exact ih.lookup (s.cache.looked key now)
      | call hcall hcallStep => exact ih.call hcall hcallStep
      | drop dropping => exact ih.drop dropping

end SharedCache

end RecordBinding
