import RecordBinding.Proofs.Cache.Residence

namespace RecordBinding

variable {κ β τ : Type}

/-- A request of a caller who has the cache to himself. A build that a request leads to takes a span of
time, and succeeds or fails. -/
inductive CacheCommand (κ β τ : Type) where
  | get (key : κ) (result : BuildResult β) (span : τ)
  | has (key : κ)
  | advance (span : τ)
  | invalidate (key : κ)
  | clear

def CacheCommand.toStep : CacheCommand κ β τ → CacheStep κ β τ
  | .get key result span => .get key result [.advance span]
  | .has key => .has key
  | .advance span => .advance span
  | .invalidate key => .invalidate key
  | .clear => .clear

/-- What the caller learns: what a request comes to, with the keys whose builds it began, and whether a
key can be used. -/
inductive CacheObservation (κ β : Type) where
  | got (result : BuildResult β) (built : List κ)
  | has (found : Bool)

/-- Sizes are left out, which tell of entries that nobody can use. -/
def CacheAnswer.observed? : CacheAnswer κ β → Option (CacheObservation κ β)
  | .got (.done result) built _ _ => some (.got result built)
  | .got (.awaits _) _ _ _ => none
  | .has found => some (.has found)
  | .size _ => none

/-- A map that removes nothing on its own; what has been idle for too long cannot be used. -/
structure IdleMap (κ β τ : Type) [BEq κ] where
  idleTime : τ
  clock : τ
  stored : κ → Option (CacheEntry β τ)
  congr {key other : κ} (h : (key == other) = true) : stored key = stored other

namespace IdleMap

variable [BEq κ]

def empty (idleTime clock : τ) : IdleMap κ β τ :=
  ⟨idleTime, clock, fun _ => none, fun _ => rfl⟩

section Operations

variable [EquivBEq κ]

def store (m : IdleMap κ β τ) (key : κ) (value : β) : IdleMap κ β τ where
  idleTime := m.idleTime
  clock := m.clock
  stored other := if key == other then some ⟨value, m.clock⟩ else m.stored other
  congr h := by rw [BEq.congr_right h, m.congr h]

def forget (m : IdleMap κ β τ) (key : κ) : IdleMap κ β τ where
  idleTime := m.idleTime
  clock := m.clock
  stored other := if key == other then none else m.stored other
  congr h := by rw [BEq.congr_right h, m.congr h]

omit [EquivBEq κ] in
def forgetAll (m : IdleMap κ β τ) : IdleMap κ β τ :=
  { m with stored := fun _ => none, congr := fun _ => rfl }

variable [AddCommGroup τ] [LinearOrder τ]

/-- The entry of a key, if it was accessed within the idle time. -/
def usable? (m : IdleMap κ β τ) (key : κ) : Option (CacheEntry β τ) :=
  (m.stored key).filter fun entry => decide (m.clock - entry.lastAccess < m.idleTime)

def advance (m : IdleMap κ β τ) (span : τ) : IdleMap κ β τ :=
  { m with clock := m.clock + span }

def perform (m : IdleMap κ β τ) :
    CacheCommand κ β τ → Option (CacheObservation κ β) × IdleMap κ β τ
  | .get key result span =>
      match m.usable? key, result with
      | some entry, _ => (some (.got (.ok entry.value) []), m.store key entry.value)
      | none, .ok value =>
          (some (.got (.ok value) [key]), (m.advance span).store key value)
      | none, .error failure => (some (.got (.error failure) [key]), m.advance span)
  | .has key => (some (.has (m.usable? key).isSome), m)
  | .advance span => (none, m.advance span)
  | .invalidate key => (none, m.forget key)
  | .clear => (none, m.forgetAll)

def performAll (m : IdleMap κ β τ) :
    List (CacheCommand κ β τ) → List (Option (CacheObservation κ β)) × IdleMap κ β τ
  | [] => ([], m)
  | command :: rest =>
      let (seen, m) := m.perform command
      let (later, m) := m.performAll rest
      (seen :: later, m)

end Operations

variable [AddCommGroup τ] [LinearOrder τ] {m : IdleMap κ β τ} {key : κ}

theorem usable?_of_stored_none (h : m.stored key = none) : m.usable? key = none := by
  rw [usable?, h]
  rfl

theorem usable?_congr {m' : IdleMap κ β τ} (hstored : m'.stored key = m.stored key)
    (hidle : m'.idleTime = m.idleTime) (hclock : m'.clock = m.clock) :
    m'.usable? key = m.usable? key := by
  rw [usable?, usable?, hidle, hclock, hstored]

theorem usable?_advance [IsOrderedAddMonoid τ] (h : m.usable? key = none) {span : τ}
    (hspan : 0 ≤ span) : (m.advance span).usable? key = none := by
  rw [usable?, Option.filter_eq_none_iff] at h ⊢
  intro entry hentry
  have hidle := h entry hentry
  simp only [decide_eq_true_eq, advance] at hidle ⊢
  grind

variable [EquivBEq κ]

omit [AddCommGroup τ] [LinearOrder τ] in
theorem store_stored (value : β) (other : κ) :
    (m.store key value).stored other =
      if key == other then some ⟨value, m.clock⟩ else m.stored other :=
  rfl

omit [AddCommGroup τ] [LinearOrder τ] in
theorem forget_stored (other : κ) :
    (m.forget key).stored other = if key == other then none else m.stored other :=
  rfl

theorem usable?_store_of_ne {other : κ} (hkey : (other == key) = false) (value : β) :
    (m.store other value).usable? key = m.usable? key :=
  usable?_congr (by simp [store, hkey]) rfl rfl

theorem usable?_forget (h : m.usable? key = none) (other : κ) :
    (m.forget other).usable? key = none := by
  cases hkey : other == key with
  | true => exact usable?_of_stored_none (by simp [forget, hkey])
  | false =>
      have hstored : (m.forget other).stored key = m.stored key := by
        simp [forget, hkey]
      exact (usable?_congr hstored rfl rfl).trans h

theorem usable?_perform [IsOrderedAddMonoid τ] (h : m.usable? key = none)
    {command : CacheCommand κ β τ} (hforward : command.toStep.Forward)
    (hbuild : ∀ other value span, command = .get other (.ok value) span → (other == key) = false) :
    (m.perform command).2.usable? key = none := by
  cases command with
  | get other result span =>
      have hlater : (m.advance span).usable? key = none := usable?_advance h hforward.1
      dsimp only [perform]
      split
      · next entry hentry =>
          have hkey : (other == key) = false := by
            rw [Bool.eq_false_iff]
            intro hkey
            rw [usable?, m.congr hkey, ← usable?, h] at hentry
            cases hentry
          exact (usable?_store_of_ne hkey entry.value).trans h
      · next value _ =>
          exact (usable?_store_of_ne (hbuild other value span rfl) value).trans hlater
      · exact hlater
  | has other => exact h
  | advance span => exact usable?_advance h hforward
  | invalidate other => exact usable?_forget h other
  | clear => exact usable?_of_stored_none rfl

theorem usable?_performAll [IsOrderedAddMonoid τ] (h : m.usable? key = none)
    {commands : List (CacheCommand κ β τ)}
    (hforward : ∀ command ∈ commands, command.toStep.Forward)
    (hbuild : ∀ other value span, .get other (.ok value) span ∈ commands → (other == key) = false) :
    (m.performAll commands).2.usable? key = none := by
  induction commands generalizing m with
  | nil => exact h
  | cons command rest ih =>
      have hfirst := usable?_perform h (hforward command (List.mem_cons_self ..))
        fun other value span hcommand => hbuild other value span (hcommand ▸ List.mem_cons_self ..)
      exact ih hfirst (fun command hmem => hforward command (List.mem_cons_of_mem _ hmem))
        fun other value span hmem => hbuild other value span (List.mem_cons_of_mem _ hmem)

end IdleMap

namespace CacheRun

variable [BEq κ]

section Mirrors

variable [AddCommGroup τ] [LinearOrder τ]

/-- A run with no build under way holds what a map holds, except for entries that cannot be used any
more. -/
structure Mirrors (run : CacheRun κ β τ) (m : IdleMap κ β τ) : Prop where
  clock : run.clock = m.clock
  idle : run.cache.idleTime = m.idleTime
  pending : run.cache.pending = []
  distinct : run.cache.Distinct
  entries : ∀ key, run.cache.entry? key = m.stored key ∨
    run.cache.entry? key = none ∧ m.usable? key = none

namespace Mirrors

variable {run : CacheRun κ β τ} {m : IdleMap κ β τ}

theorem congr (h : run.Mirrors m) {run' : CacheRun κ β τ} (hclock : run'.clock = run.clock)
    (hidle : run'.cache.idleTime = run.cache.idleTime)
    (hpending : run'.cache.pending = run.cache.pending)
    (hentries : run'.cache.entries = run.cache.entries) : run'.Mirrors m where
  clock := hclock.trans h.clock
  idle := hidle.trans h.idle
  pending := hpending.trans h.pending
  distinct := h.distinct.of_sublist (hentries ▸ .refl _)
  entries key := by
    rw [Cache.entry?_congr _ hentries]
    exact h.entries key

theorem clear (h : run.Mirrors m) :
    Mirrors { run with cache := run.cache.clear } m.forgetAll where
  clock := h.clock
  idle := h.idle
  pending := rfl
  distinct := .nil
  entries _ := .inl rfl

variable [EquivBEq κ]

theorem eraseEntry (h : run.Mirrors m) {key : κ} (hunusable : m.usable? key = none) :
    Mirrors { run with cache := run.cache.eraseEntry key } m where
  clock := h.clock
  idle := h.idle
  pending := h.pending
  distinct := h.distinct.of_sublist List.filter_sublist
  entries other := by
    rw [Cache.entry?_eraseEntry]
    split
    · next hkey =>
        -- The map keeps the entry, but nobody can use it any more.
        rw [IdleMap.usable?, m.congr hkey] at hunusable
        exact .inr ⟨rfl, hunusable⟩
    · exact h.entries other

theorem store (h : run.Mirrors m) (key : κ) (value : β) :
    Mirrors { run with cache := run.cache.setEntry key ⟨value, run.clock⟩ } (m.store key value) where
  clock := h.clock
  idle := (run.cache.setEntry_idleTime _ _).trans h.idle
  pending := (run.cache.setEntry_pending _ _).trans h.pending
  distinct := h.distinct.setEntry key _
  entries other := by
    rw [Cache.entry?_setEntry, IdleMap.store_stored, h.clock]
    cases hkey : key == other with
    | true => exact .inl rfl
    | false =>
        rw [IdleMap.usable?_store_of_ne hkey]
        exact h.entries other

theorem invalidate (h : run.Mirrors m) (key : κ) :
    Mirrors { run with cache := run.cache.invalidate key } (m.forget key) where
  clock := h.clock
  idle := h.idle
  pending := by
    rw [Cache.invalidate, h.pending]
    rfl
  distinct := h.distinct.of_sublist List.filter_sublist
  entries other := by
    rw [Cache.entry?_invalidate, IdleMap.forget_stored]
    split
    · exact .inl rfl
    · refine (h.entries other).imp_right (And.imp_right fun hunusable => ?_)
      exact IdleMap.usable?_forget hunusable key

variable [TimeScale τ] [TimeScale.IsExact τ]

omit [EquivBEq κ] in
theorem advance [IsOrderedAddMonoid τ] (h : run.Mirrors m) {span : τ} (hspan : 0 ≤ span) :
    Mirrors { run with clock := TimeScale.add run.clock span } (m.advance span) where
  clock := by rw [TimeScale.IsExact.add_eq, h.clock, IdleMap.advance]
  idle := h.idle
  pending := h.pending
  distinct := h.distinct
  entries key := (h.entries key).imp_right <| And.imp_right fun hunusable =>
    IdleMap.usable?_advance hunusable hspan

omit [EquivBEq κ] in
theorem usable? (h : run.Mirrors m) (key : κ) :
    m.usable? key = (run.cache.entry? key).filter fun entry =>
      !run.cache.isExpired run.clock entry := by
  have hfresh : ∀ entry, decide (m.clock - entry.lastAccess < m.idleTime) =
      !run.cache.isExpired run.clock entry := by
    intro entry
    rw [← h.clock, ← h.idle, Bool.eq_iff_iff, decide_eq_true_iff, Bool.not_eq_true',
      Bool.eq_false_iff, ne_eq, Cache.isExpired_iff, not_le]
  rcases h.entries key with hsame | ⟨hnone, hunusable⟩
  · rw [IdleMap.usable?, hsame]
    exact congrArg (Option.filter · _) (funext hfresh)
  · rw [hunusable, hnone]
    rfl

omit [EquivBEq κ] in
theorem has (h : run.Mirrors m) (key : κ) :
    run.cache.has key run.clock = (m.usable? key).isSome := by
  rw [h.usable?, Cache.has]
  cases run.cache.entry? key with
  | none => rfl
  | some entry =>
      cases hfresh : run.cache.isExpired run.clock entry <;> simp [Option.filter, hfresh]

theorem sweep (h : run.Mirrors m) : Mirrors { run with cache := run.cache.sweep run.clock } m where
  clock := h.clock
  idle := (run.cache.sweep_idleTime _).trans h.idle
  pending := (run.cache.keeps_sweep _).pending.trans h.pending
  distinct := h.distinct.of_sublist (run.cache.sublist_sweep _)
  entries key := by
    rcases Cache.entry?_sweep_cases h.distinct key run.clock with
      hsame | ⟨hnone, entry, hentry, hexpired⟩
    · rw [hsame]
      exact h.entries key
    · refine .inr ⟨hnone, ?_⟩
      rw [h.usable?, hentry]
      simp [Option.filter, hexpired]

theorem hit (h : run.Mirrors m) {key : κ} {entry : CacheEntry β τ}
    (husable : m.usable? key = some entry) :
    (run.cache.lookup key run.clock).1.outcome = .hit entry.value ∧
      Mirrors { run with cache := (run.cache.lookup key run.clock).2 }
        (m.store key entry.value) := by
  rw [h.usable?, Option.filter_eq_some_iff] at husable
  obtain ⟨hentry, hfresh⟩ := husable
  rw [Bool.not_eq_true'] at hfresh
  rw [Cache.lookup_of_entry? hentry hfresh]
  exact ⟨rfl, h.sweep.store key entry.value⟩

theorem miss (h : run.Mirrors m) {key : κ} (hunusable : m.usable? key = none) :
    ∃ ticket, ticket.key = key ∧ (run.cache.lookup key run.clock).1.outcome = .run ticket ∧
      (run.cache.lookup key run.clock).2.isCurrent ticket = true ∧
      Mirrors { run with cache := (run.cache.lookup key run.clock).2.release ticket } m := by
  have hidle : ∀ entry, run.cache.entry? key = some entry →
      run.cache.isExpired run.clock entry = true := by
    intro entry hentry
    rw [h.usable?, hentry, Option.filter_eq_none_iff] at hunusable
    simpa using hunusable entry rfl
  obtain ⟨houtcome, hcache⟩ := Cache.lookup_of_idle h.distinct hidle
  rw [houtcome, hcache]
  have hswept := h.sweep.eraseEntry hunusable
  obtain ⟨hjoined, hreleased⟩ := Cache.release_joinBuild hswept.pending key
  refine ⟨_, rfl, hjoined, ?_, ?_⟩
  · rw [Cache.isCurrent, Cache.joinBuild_generation]
    exact beq_self_eq_true _
  · exact hswept.congr rfl (by rw [hreleased]) (by rw [hreleased]) (by rw [hreleased])

end Mirrors

end Mirrors

variable [TimeScale τ]

theorem steps_toStep (run : CacheRun κ β τ) (command : CacheCommand κ β τ)
    (rest : List (CacheStep κ β τ)) :
    run.steps (command.toStep :: rest) =
      (⟨(run.step command.toStep).1 :: ((run.step command.toStep).2.steps rest).1.answers,
        ((run.step command.toStep).2.steps rest).1.joined⟩,
        ((run.step command.toStep).2.steps rest).2) := by
  cases command <;> rfl

theorem step_get_of_hit {run : CacheRun κ β τ} {key : κ} {value : β}
    (h : (run.cache.lookup key run.clock).1.outcome = .hit value) (result : BuildResult β)
    (during : List (CacheStep κ β τ)) : run.step (.get key result during) =
      (.got (.done (.ok value)) [] none [],
        { run with cache := (run.cache.lookup key run.clock).2 }) := by
  unfold step
  generalize run.cache.lookup key run.clock = looked at h
  rcases looked with ⟨⟨outcome, swept, expired⟩, cache⟩
  cases h
  rfl

theorem step_get_of_run {run : CacheRun κ β τ} {key : κ} {ticket : BuildTicket κ}
    (h : (run.cache.lookup key run.clock).1.outcome = .run ticket) (result : BuildResult β)
    (span : τ) : ∃ answers, run.step (.get key result [.advance span]) =
      (.got (.done result) [ticket.key] (some answers) [],
        complete ⟨(run.cache.lookup key run.clock).2, TimeScale.add run.clock span,
          run.begun ++ [ticket.key], run.results⟩ ticket result) := by
  unfold step
  generalize run.cache.lookup key run.clock = looked at h
  rcases looked with ⟨⟨outcome, swept, expired⟩, cache⟩
  cases h
  have hbegun : (run.begun ++ [ticket.key]).drop run.begun.length = [ticket.key] :=
    List.drop_left
  exact ⟨[.size cache.size], congrArg
    (fun built => (CacheAnswer.got (.done result) built (some [.size cache.size]) [], _)) hbegun⟩

variable [AddCommGroup τ] [LinearOrder τ] [TimeScale.IsExact τ] [IsOrderedAddMonoid τ] [EquivBEq κ]
  {run : CacheRun κ β τ} {m : IdleMap κ β τ}

/-- A command is answered as on the map, and the run mirrors the map afterwards. -/
theorem Mirrors.step (h : run.Mirrors m) {command : CacheCommand κ β τ}
    (hforward : command.toStep.Forward) :
    (∀ ended : CacheRun κ β τ, (ended.settleAnswer (run.step command.toStep).1).observed? =
        (m.perform command).1) ∧
      (run.step command.toStep).2.Mirrors (m.perform command).2 := by
  cases command with
  | get key result span =>
      dsimp only [CacheCommand.toStep, IdleMap.perform]
      cases husable : m.usable? key with
      | some entry =>
          obtain ⟨houtcome, hmirrors⟩ := h.hit husable
          rw [step_get_of_hit houtcome]
          exact ⟨fun _ => rfl, hmirrors⟩
      | none =>
          obtain ⟨ticket, rfl, houtcome, hcurrent, hmirrors⟩ := h.miss husable
          obtain ⟨answers, hstep⟩ := step_get_of_run houtcome result span
          rw [hstep]
          have hlater := hmirrors.advance hforward.1
          cases result with
          | ok value =>
              -- Nobody cleared the cache during the build, so its value is stored.
              refine ⟨fun _ => rfl, ?_⟩
              have hstored := hlater.store ticket.key value
              rw [← Cache.publish_of_isCurrent _ hcurrent] at hstored
              exact hstored.congr rfl rfl rfl rfl
          | error failure => exact ⟨fun _ => rfl, hlater.congr rfl rfl rfl rfl⟩
  | has key =>
      refine ⟨fun _ => ?_, h⟩
      exact congrArg (fun found => some (CacheObservation.has found)) (h.has key)
  | advance span => exact ⟨fun _ => rfl, h.advance hforward⟩
  | invalidate key => exact ⟨fun _ => rfl, h.invalidate key⟩
  | clear => exact ⟨fun _ => rfl, h.clear⟩

theorem Mirrors.steps (h : run.Mirrors m) {commands : List (CacheCommand κ β τ)}
    (hforward : ∀ command ∈ commands, command.toStep.Forward) :
    (∀ ended : CacheRun κ β τ,
      (ended.settleAnswers (run.steps (commands.map (·.toStep))).1.answers).map (·.observed?) =
        (m.performAll commands).1) ∧
      (run.steps (commands.map (·.toStep))).2.Mirrors (m.performAll commands).2 := by
  induction commands generalizing run m with
  | nil => exact ⟨fun _ => rfl, h⟩
  | cons command rest ih =>
      obtain ⟨hseen, hfirst⟩ := h.step (hforward command (List.mem_cons_self ..))
      obtain ⟨hlater, hrest⟩ := ih hfirst
        fun command hmem => hforward command (List.mem_cons_of_mem _ hmem)
      rw [List.map_cons, steps_toStep]
      exact ⟨fun ended => congrArg₂ List.cons (hseen ended) (hlater ended), hrest⟩

omit [TimeScale.IsExact τ] [IsOrderedAddMonoid τ] [EquivBEq κ] in
theorem mirrors_start (idleTime clock : τ) :
    (start idleTime clock : CacheRun κ β τ).Mirrors (.empty idleTime clock) :=
  ⟨rfl, rfl, rfl, .nil, fun _ => .inl rfl⟩

end CacheRun

/-- Idle expiry is exact and sweeps are invisible: a caller who has the cache to himself learns what he
would learn from a map that never sweeps. A key that cannot be used stays so until a build for it
succeeds, whatever builds for it fail. -/
theorem Cache.answers_as_map [BEq κ] [EquivBEq κ] [AddCommGroup τ] [LinearOrder τ]
    [IsOrderedAddMonoid τ] [TimeScale τ] [TimeScale.IsExact τ] (idleTime start : τ)
    (commands : List (CacheCommand κ β τ))
    (hforward : ∀ command ∈ commands, command.toStep.Forward) :
    (runSchedule idleTime start (commands.map (·.toStep))).map (·.observed?) =
        ((IdleMap.empty idleTime start).performAll commands).1 ∧
      ∀ (earlier later : List (CacheCommand κ β τ)) (key : κ), commands = earlier ++ later →
        (∀ other value span, .get other (.ok value) span ∈ later → (other == key) = false) →
        let run := ((CacheRun.start idleTime start).steps (earlier.map (·.toStep))).2
        let ended := (run.steps (later.map (·.toStep))).2
        run.cache.has key run.clock = false → ended.cache.has key ended.clock = false := by
  have hstart := CacheRun.mirrors_start (κ := κ) (β := β) idleTime start
  refine ⟨(hstart.steps hforward).1 _, ?_⟩
  rintro earlier later key rfl hbuild
  dsimp only
  have hrun := (hstart.steps fun command hmem => hforward command (List.mem_append_left _ hmem)).2
  have hlater : ∀ command ∈ later, command.toStep.Forward :=
    fun command hmem => hforward command (List.mem_append_right _ hmem)
  rw [hrun.has, (hrun.steps hlater).2.has]
  simp only [Option.isSome_eq_false_iff, Option.isNone_iff_eq_none]
  exact fun hunusable => IdleMap.usable?_performAll hunusable hlater hbuild

/-- An entry expires exactly after its idle time, and a failing rebuild does not bring it back. -/
theorem Cache.answers_as_map_rebuild :
    let earlier : List (CacheCommand Nat Nat Int) :=
      [.get 1 (.ok 100) 9, .advance 9, .has 1, .advance 1]
    let later : List (CacheCommand Nat Nat Int) := [.get 1 (.error (.misuse .typeError)) 5, .has 1]
    let run := ((CacheRun.start 10 0).steps (earlier.map (·.toStep))).2
    let ended := (run.steps (later.map (·.toStep))).2
    (runSchedule 10 0 ((earlier ++ later).map (·.toStep))).map (·.observed?) =
        [some (.got (.ok 100) [1]), none, some (.has true), none,
          some (.got (.error (.misuse .typeError)) [1]), some (.has false)] ∧
      run.cache.has 1 run.clock = false ∧ ended.cache.has 1 ended.clock = false := by
  intro earlier later run ended
  have hforward : ∀ command ∈ earlier ++ later, command.toStep.Forward := by
    simp [earlier, later, CacheCommand.toStep, CacheStep.Forward, CacheStep.AllForward]
  obtain ⟨hanswers, hunusable⟩ := Cache.answers_as_map 10 0 (earlier ++ later) hforward
  refine ⟨hanswers.trans rfl, rfl, hunusable earlier later 1 rfl ?_ rfl⟩
  simp [later]

end RecordBinding
