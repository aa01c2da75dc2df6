import RecordBinding.Cache.Basic
import RecordBinding.Error
/-!
Schedules of requests to a cache. A request that has to build may be followed by further steps while
its build runs, of the same caller or of others who join in; those who wait for a build share its
outcome.
-/

namespace RecordBinding

abbrev BuildResult (β : Type) := Except Failure β

/-- A step of a schedule. `get` asks for a key; if that leads to a build, the steps `during` take place
before the build ends with the given result. `join` is another caller, whose build would end at
once. -/
inductive CacheStep (κ β τ : Type) where
  | get (key : κ) (result : BuildResult β) (during : List (CacheStep κ β τ))
  | join (key : κ) (value : β)
  | has (key : κ)
  | size
  | advance (span : τ)
  | invalidate (key : κ)
  | clear

/-- The outcome of a request: known, or that of a build still under way. -/
inductive Settlement (β : Type) where
  | done (result : BuildResult β)
  | awaits (build : Nat)

/-- The answer to a step. A request tells which keys' builds were begun since it started, itself
included, what the steps during its build answered, and what those who joined got. -/
inductive CacheAnswer (κ β : Type) where
  | got (outcome : Settlement β) (built : List κ) (during : Option (List (CacheAnswer κ β)))
      (joined : List (Settlement β))
  | has (found : Bool)
  | size (count : Nat)

/-- The state of a schedule: the cache, its clock, the keys of the builds begun, and the results of the
builds ended. -/
structure CacheRun (κ β τ : Type) where
  cache : Cache κ β τ
  clock : τ
  begun : List κ
  results : List (Nat × BuildResult β)

namespace CacheRun

variable {κ β τ : Type} [BEq κ] [TimeScale τ]

def start (idleTime clock : τ) : CacheRun κ β τ :=
  ⟨Cache.empty idleTime clock, clock, [], []⟩

def begin (run : CacheRun κ β τ) (ticket : BuildTicket κ) : CacheRun κ β τ :=
  { run with begun := run.begun ++ [ticket.key] }

def complete (run : CacheRun κ β τ) (ticket : BuildTicket κ) (result : BuildResult β) :
    CacheRun κ β τ :=
  let cache :=
    match result with
    | .ok value => run.cache.publish ticket value run.clock
    | .error _ => run.cache.abandon ticket
  { run with cache, results := (ticket.build, result) :: run.results }

/-- Another caller asks for a key. -/
def join (run : CacheRun κ β τ) (key : κ) (value : β) : Settlement β × CacheRun κ β τ :=
  let (found, cache) := run.cache.lookup key run.clock
  let run := { run with cache }
  match found.outcome with
  | .hit stored => (.done (.ok stored), run)
  | .wait build => (.awaits build, run)
  | .run ticket => (.done (.ok value), (run.begin ticket).complete ticket (.ok value))

/-- The answers of the steps during a build, and the outcomes of those who joined. -/
structure Progress (κ β : Type) where
  answers : List (CacheAnswer κ β)
  joined : List (Settlement β)

mutual

/-- Takes a step that is not a join; a join on its own is answered like a request. -/
def step (run : CacheRun κ β τ) : CacheStep κ β τ → CacheAnswer κ β × CacheRun κ β τ
  | .get key result during =>
      let (found, cache) := run.cache.lookup key run.clock
      let looked := { run with cache }
      match found.outcome with
      | .hit stored => (.got (.done (.ok stored)) [] none [], looked)
      | .wait build => (.got (.awaits build) [] none [], looked)
      | .run ticket =>
          let (progress, inner) := steps (looked.begin ticket) during
          let ended := inner.complete ticket result
          (.got (.done result) (ended.begun.drop run.begun.length)
            (if during.isEmpty then none else some progress.answers) progress.joined, ended)
  | .join key value =>
      let (outcome, run) := run.join key value
      (.got outcome [] none [], run)
  | .has key => (.has (run.cache.has key run.clock), run)
  | .size => (.size run.cache.size, run)
  | .advance span =>
      let run := { run with clock := TimeScale.add run.clock span }
      (.size run.cache.size, run)
  | .invalidate key =>
      let run := { run with cache := run.cache.invalidate key }
      (.size run.cache.size, run)
  | .clear =>
      let run := { run with cache := run.cache.clear }
      (.size run.cache.size, run)

def steps (run : CacheRun κ β τ) : List (CacheStep κ β τ) → Progress κ β × CacheRun κ β τ
  | [] => (⟨[], []⟩, run)
  | s :: rest =>
      match s with
      | .join key value =>
          let (outcome, run) := run.join key value
          let (progress, run) := steps run rest
          (⟨progress.answers, outcome :: progress.joined⟩, run)
      | s =>
          let (answer, run) := step run s
          let (progress, run) := steps run rest
          (⟨answer :: progress.answers, progress.joined⟩, run)

end

/-- The outcome of a request once all builds have ended. -/
def settle (run : CacheRun κ β τ) : Settlement β → Settlement β
  | .done result => .done result
  | .awaits build =>
      match run.results.lookup build with
      | some result => .done result
      | none => .awaits build

mutual

def settleAnswer (run : CacheRun κ β τ) : CacheAnswer κ β → CacheAnswer κ β
  | .got outcome built none joined =>
      .got (run.settle outcome) built none (joined.map run.settle)
  | .got outcome built (some during) joined =>
      .got (run.settle outcome) built (some (settleAnswers run during)) (joined.map run.settle)
  | answer => answer

def settleAnswers (run : CacheRun κ β τ) : List (CacheAnswer κ β) → List (CacheAnswer κ β)
  | [] => []
  | answer :: rest => settleAnswer run answer :: settleAnswers run rest

end

end CacheRun

/-- The answers to the steps of a schedule on a new cache. -/
def runSchedule {κ β τ : Type} [BEq κ] [TimeScale τ] (idleTime clock : τ)
    (schedule : List (CacheStep κ β τ)) : List (CacheAnswer κ β) :=
  let (progress, run) := (CacheRun.start idleTime clock).steps schedule
  run.settleAnswers progress.answers

end RecordBinding
