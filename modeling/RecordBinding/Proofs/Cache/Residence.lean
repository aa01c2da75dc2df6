import RecordBinding.Cache.Schedule
import RecordBinding.Proofs.Cache.Entries

namespace RecordBinding

variable {κ β τ : Type} [AddCommGroup τ] [LinearOrder τ]

mutual

/-- The clock does not go back in a step, nor while its build runs. -/
def CacheStep.Forward : CacheStep κ β τ → Prop
  | .get _ _ during => AllForward during
  | .advance span => 0 ≤ span
  | _ => True

def CacheStep.AllForward : List (CacheStep κ β τ) → Prop
  | [] => True
  | step :: rest => Forward step ∧ AllForward rest

end

namespace Cache

section

variable [BEq κ] [TimeScale τ]

/-- What sections under the lock lead to when their readings of the clock never go back, with the last
reading. -/
inductive Timely (idleTime start : τ) : τ → Cache κ β τ → Prop
  | empty : Timely idleTime start start (Cache.empty idleTime start)
  | wait {now later : τ} {c : Cache κ β τ} (h : Timely idleTime start now c)
      (hlater : now ≤ later) : Timely idleTime start later c
  | lookup {now : τ} {c : Cache κ β τ} (h : Timely idleTime start now c) (key : κ) :
      Timely idleTime start now (c.lookup key now).2
  | publish {now : τ} {c : Cache κ β τ} (h : Timely idleTime start now c)
      (ticket : BuildTicket κ) (value : β) : Timely idleTime start now (c.publish ticket value now)
  | abandon {now : τ} {c : Cache κ β τ} (h : Timely idleTime start now c)
      (ticket : BuildTicket κ) : Timely idleTime start now (c.abandon ticket)
  | invalidate {now : τ} {c : Cache κ β τ} (h : Timely idleTime start now c) (key : κ) :
      Timely idleTime start now (c.invalidate key)
  | clear {now : τ} {c : Cache κ β τ} (h : Timely idleTime start now c) :
      Timely idleTime start now c.clear

end

/-- The next sweep is at most one idle time away, and no entry will be as old as two before it. -/
structure Recent (idleTime now : τ) (c : Cache κ β τ) : Prop where
  idle : c.idleTime = idleTime
  due : c.nextSweep ≤ now + idleTime
  recent : ∀ stored ∈ c.entries, c.nextSweep < stored.2.lastAccess + (idleTime + idleTime)

namespace Recent

variable [IsOrderedAddMonoid τ] {c c' : Cache κ β τ} {idleTime now later : τ}

theorem wait (h : c.Recent idleTime now) (hlater : now ≤ later) : c.Recent idleTime later := by
  refine ⟨h.idle, ?_, h.recent⟩
  have hdue := h.due
  grind

theorem of_mem (h : c.Recent idleTime now) (hpositive : 0 < idleTime)
    (hidle : c'.idleTime = c.idleTime) (hsweep : c'.nextSweep = c.nextSweep)
    (hentries : ∀ stored ∈ c'.entries, stored ∈ c.entries ∨ stored.2.lastAccess = now) :
    c'.Recent idleTime now := by
  refine ⟨hidle.trans h.idle, hsweep ▸ h.due, ?_⟩
  intro stored hstored
  rw [hsweep]
  rcases hentries stored hstored with hold | hnew
  · exact h.recent stored hold
  · have hdue := h.due
    grind

variable [TimeScale τ] [TimeScale.IsExact τ]

/-- After a sweep the next one lies ahead, and what was left is younger than one idle time. -/
theorem sweep (h : c.Recent idleTime now) (hpositive : 0 < idleTime) :
    (c.sweep now).Recent idleTime now ∧ now ≤ (c.sweep now).nextSweep := by
  by_cases hdue : TimeScale.before now c.nextSweep = true
  · rw [Cache.sweep, if_pos hdue]
    exact ⟨h, ((TimeScale.IsExact.before_iff _ _).1 hdue).le⟩
  · rw [Cache.sweep, if_neg hdue, h.idle, TimeScale.IsExact.add_eq]
    refine ⟨⟨rfl, le_rfl, fun stored hstored => ?_⟩, by grind⟩
    have hkept : ¬ c.isExpired now stored.2 = true := by
      simpa using (List.mem_filter.1 hstored).2
    rw [isExpired_iff, h.idle] at hkept
    dsimp only
    grind

variable [BEq κ]

theorem lookup (h : c.Recent idleTime now) (hpositive : 0 < idleTime) (key : κ) :
    (c.lookup key now).2.Recent idleTime now ∧ now ≤ (c.lookup key now).2.nextSweep := by
  obtain ⟨hswept, hahead⟩ := h.sweep hpositive
  have hsweep := c.lookup_nextSweep key now
  refine ⟨hswept.of_mem hpositive ?_ hsweep fun stored => c.mem_lookup, hsweep ▸ hahead⟩
  rw [lookup_idleTime, sweep_idleTime]

end Recent

namespace Timely

variable [IsOrderedAddMonoid τ] [BEq κ] [TimeScale τ] [TimeScale.IsExact τ] {c : Cache κ β τ}
  {idleTime start now : τ}

theorem recent (h : c.Timely idleTime start now) (hpositive : 0 < idleTime) :
    c.Recent idleTime now := by
  induction h with
  | empty =>
      refine ⟨rfl, ?_, by simp [Cache.empty]⟩
      exact (TimeScale.IsExact.add_eq start idleTime).le
  | wait _ hlater ih => exact ih.wait hlater
  | lookup _ key ih => exact (ih.lookup hpositive key).1
  | @publish now c _ ticket value ih =>
      refine ih.of_mem hpositive (c.publish_idleTime ..) (c.publish_nextSweep ..) ?_
      intro stored hstored
      exact (c.mem_publish hstored).imp_right fun hnew => by rw [hnew]
  | @abandon now c _ ticket ih =>
      refine ih.of_mem hpositive (c.release_idleTime ticket) (c.release_nextSweep ticket) ?_
      intro stored hstored
      exact .inl (by rwa [Cache.abandon, release_entries] at hstored)
  | invalidate _ key ih =>
      exact ih.of_mem hpositive rfl rfl fun stored hstored => .inl (List.mem_of_mem_filter hstored)
  | clear _ ih => exact ih.of_mem hpositive rfl rfl fun stored hstored => nomatch hstored

end Timely

end Cache

namespace CacheRun

variable [BEq κ] [TimeScale τ] {idleTime start : τ}

/-- The cache of a run is one that sections in the order of the clock lead to. -/
def Timely (idleTime start : τ) (run : CacheRun κ β τ) : Prop :=
  run.cache.Timely idleTime start run.clock

variable {run : CacheRun κ β τ}

omit [AddCommGroup τ] in
theorem Timely.complete (h : run.Timely idleTime start) (ticket : BuildTicket κ)
    (result : BuildResult β) : (run.complete ticket result).Timely idleTime start := by
  cases result with
  | ok value => exact Cache.Timely.publish h ticket value
  | error failure => exact Cache.Timely.abandon h ticket

omit [AddCommGroup τ] in
theorem Timely.lookup (h : run.Timely idleTime start) (key : κ) :
    Timely idleTime start { run with cache := (run.cache.lookup key run.clock).2 } :=
  Cache.Timely.lookup h key

omit [AddCommGroup τ] in
theorem Timely.join (h : run.Timely idleTime start) (key : κ) (value : β) :
    (run.join key value).2.Timely idleTime start := by
  have hlooked := h.lookup key
  unfold CacheRun.join
  generalize run.cache.lookup key run.clock = looked at hlooked
  rcases looked with ⟨⟨outcome, swept, expired⟩, cache⟩
  cases outcome with
  | hit stored => exact hlooked
  | wait build => exact hlooked
  | run ticket =>
      have hbegun : (begin { run with cache } ticket).Timely idleTime start := hlooked
      exact hbegun.complete ticket (.ok value)

theorem Timely.advance [IsOrderedAddMonoid τ] [TimeScale.IsExact τ]
    (h : run.Timely idleTime start) {span : τ} (hspan : 0 ≤ span) :
    Timely idleTime start { run with clock := TimeScale.add run.clock span } := by
  refine Cache.Timely.wait h ?_
  rw [TimeScale.IsExact.add_eq]
  exact le_add_of_nonneg_right hspan

-- A build runs the steps that take place during it, so that steps and schedules go together.
mutual

theorem Timely.step [IsOrderedAddMonoid τ] [TimeScale.IsExact τ] {run : CacheRun κ β τ}
    (h : run.Timely idleTime start) :
    (step : CacheStep κ β τ) → step.Forward → (run.step step).2.Timely idleTime start
  | .get key result during, hforward => by
      have hlooked := h.lookup key
      unfold CacheRun.step
      generalize run.cache.lookup key run.clock = looked at hlooked
      rcases looked with ⟨⟨outcome, swept, expired⟩, cache⟩
      cases outcome with
      | hit stored => exact hlooked
      | wait build => exact hlooked
      | run ticket =>
          have hbegun : (begin { run with cache } ticket).Timely idleTime start := hlooked
          exact (hbegun.steps during hforward).complete ticket result
  | .join key value, _ => h.join key value
  | .has _, _ => h
  | .size, _ => h
  | .advance _, hspan => h.advance hspan
  | .invalidate key, _ => Cache.Timely.invalidate h key
  | .clear, _ => Cache.Timely.clear h

theorem Timely.steps [IsOrderedAddMonoid τ] [TimeScale.IsExact τ] {run : CacheRun κ β τ}
    (h : run.Timely idleTime start) :
    (schedule : List (CacheStep κ β τ)) → CacheStep.AllForward schedule →
      (run.steps schedule).2.Timely idleTime start
  | [], _ => h
  | step :: rest, ⟨hstep, hrest⟩ => by
      have hfirst := h.step step hstep
      cases step <;> exact hfirst.steps rest hrest

end

end CacheRun

/-- Idle entries do not accumulate. In whatever order sections follow one another, as long as their
readings of the clock do not go back, what a lookup leaves was accessed less than two idle times before.
Any schedule leads to such a cache, whatever happens during its builds. -/
theorem Cache.lookup_leaves_recent [BEq κ] [IsOrderedAddMonoid τ] [TimeScale τ]
    [TimeScale.IsExact τ] {idleTime : τ} (hpositive : 0 < idleTime) (start : τ) :
    (∀ (c : Cache κ β τ) (now : τ), c.Timely idleTime start now → ∀ key,
      ∀ stored ∈ (c.lookup key now).2.entries,
        now - (idleTime + idleTime) < stored.2.lastAccess) ∧
    ∀ schedule : List (CacheStep κ β τ), CacheStep.AllForward schedule →
      ((CacheRun.start idleTime start).steps schedule).2.Timely idleTime start := by
  constructor
  · intro c now htimely key stored hstored
    obtain ⟨hrecent, hahead⟩ := (htimely.recent hpositive).lookup hpositive key
    have hyoung := hrecent.recent stored hstored
    grind
  · have hstart : (CacheRun.start idleTime start : CacheRun κ β τ).Timely idleTime start :=
      .empty
    exact hstart.steps

/-- An entry that has been idle for too long stays until the next sweep, which is then due soon. -/
theorem Cache.lookup_leaves_recent_expired :
    ∃ c : Cache Nat Nat Int, c.Timely 10 0 19 ∧ c.has 1 19 = false ∧
      (c.lookup 3 19).2.entries.map (fun stored => (stored.1, stored.2.lastAccess)) = [(1, 9)] ∧
      ∀ stored ∈ (c.lookup 3 19).2.entries, (19 : Int) - (10 + 10) < stored.2.lastAccess := by
  have hrecent := @Cache.lookup_leaves_recent Nat Nat Int _ _ _ _ _ _ 10 (by decide) 0
  have htimely := hrecent.2
    [.get 1 (.ok 100) [.advance 9], .advance 1, .get 2 (.error (.misuse .typeError)) [], .advance 9]
    (by simp [CacheStep.AllForward, CacheStep.Forward])
  refine ⟨_, htimely, ?_, ?_, ?_⟩
  · decide
  · decide
  · exact hrecent.1 _ _ htimely 3

end RecordBinding
