import RecordBinding.Proofs.Binding.RoundTrip

namespace RecordBinding

/-- A call of one of the methods that a binding drives. -/
inductive UserCall where
  | start
  | set (property : String) (target value : Value)
  | get (property : String) (target : Value)
  | probe (property : String) (target : Value)
  | truth (property : String) (answer : Value)
  | finish (target : Value)

variable {σ τ : Type}

/-- The action with a note of the call that it carries out. -/
def Action.noted {α : Type} (call : UserCall) (action : Action σ α) :
    Action (σ × List UserCall) α :=
  fun (s, calls) =>
    let (result, s) := action.run s
    (result, s, calls ++ [call])

/-- Access to the same property, with a note of each call of a user's method. -/
def Accessor.recorded (a : Accessor σ) : Accessor (σ × List UserCall) where
  name := a.name
  type := a.type
  owner := a.owner
  metadata := a.metadata
  getter target := (a.getter target).noted (.get a.name target)
  setter target value := (a.setter target value).noted (.set a.name target value)
  probe := a.probe.map fun probe target => (probe target).noted (.probe a.name target)
  truth answer := (a.truth answer).noted (.truth a.name answer)

/-- The same binding, with a note of each call of a user's method. -/
def Binding.recorded (b : Binding σ) : Binding (σ × List UserCall) where
  serial := b.serial
  variant := b.variant
  type := b.type
  definition := b.definition
  implementation := b.implementation
  builderClass := b.builderClass
  accessors := b.accessors.map Accessor.recorded
  start := b.start.noted .start
  finish := b.finish.map fun build target => (build target).noted (.finish target)

section Calls

variable (wrap : ∀ {α : Type}, UserCall → Action σ α → Action τ α)

/-- Access to the same property, with each call of a user's method wrapped. -/
def Accessor.mapCalls (a : Accessor σ) : Accessor τ where
  name := a.name
  type := a.type
  owner := a.owner
  metadata := a.metadata
  getter target := wrap (.get a.name target) (a.getter target)
  setter target value := wrap (.set a.name target value) (a.setter target value)
  probe := a.probe.map fun probe target => wrap (.probe a.name target) (probe target)
  truth answer := wrap (.truth a.name answer) (a.truth answer)

/-- The same binding, with each call of a user's method wrapped. -/
def Binding.mapCalls (b : Binding σ) : Binding τ where
  serial := b.serial
  variant := b.variant
  type := b.type
  definition := b.definition
  implementation := b.implementation
  builderClass := b.builderClass
  accessors := b.accessors.map (Accessor.mapCalls wrap)
  start := wrap .start b.start
  finish := b.finish.map fun build target => wrap (.finish target) (build target)

end Calls

/-- An immutable binding ends with a build, a modifiable one with its target. -/
def Binding.EndsByVariant (b : Binding σ) : Prop :=
  match b.variant with
  | .immutable => ∃ build, b.finish = some build
  | .modifiable => b.finish = none

namespace SessionCommand

/-- The writes before the first finish. -/
def writesBefore : List SessionCommand → List (String × Value)
  | [] => []
  | write name value :: rest => (name, value) :: writesBefore rest
  | finish :: _ => []

/-- The commands after the first finish, if there is one. -/
def afterFinish? : List SessionCommand → Option (List SessionCommand)
  | [] => none
  | write _ _ :: rest => afterFinish? rest
  | finish :: rest => some rest

theorem eq_writesBefore_append (commands : List SessionCommand) :
    commands = ((writesBefore commands).map fun w => write w.1 w.2) ++
      match afterFinish? commands with
      | none => []
      | some rest => finish :: rest := by
  induction commands with
  | nil => rfl
  | cons command rest ih =>
      cases command with
      | write name value =>
          simp only [writesBefore, afterFinish?, List.map_cons, List.cons_append]
          exact congrArg (write name value :: ·) ih
      | finish => rfl

end SessionCommand

namespace Binding

/-- The answer of a finished session to a command. -/
def closedOutcome (b : Binding σ) : SessionCommand → Except Failure Value
  | .write name _ =>
      if b.has name then .error (.construction ⟨.sessionClosed, .set, b.type, none⟩)
      else .error (.construction ⟨.unknownProperty, .set, b.type, some name⟩)
  | .finish => .error (.construction ⟨.sessionClosed, .set, b.type, none⟩)

/-- Writes to a target, one after the other: what is answered to each, and the state that they lead to.
A write that fails is followed by the next one like any other. -/
inductive Writes (b : Binding σ) (target : Value) :
    σ → List (String × Value) → List (Except Failure Value) → σ → Prop
  | nil (s : σ) : Writes b target s [] [] s
  | unknown {s s' : σ} {name : String} {value : Value} {rest : List (String × Value)}
      {outcomes : List (Except Failure Value)} (hname : b.has name = false)
      (h : Writes b target s rest outcomes s') :
      Writes b target s ((name, value) :: rest)
        (.error (.construction ⟨.unknownProperty, .set, b.type, some name⟩) :: outcomes) s'
  | known {s s₁ s' : σ} {name : String} {value : Value} {rest : List (String × Value)}
      {outcomes : List (Except Failure Value)} {a : Accessor σ} {result : Except Failure Unit}
      (ha : b.accessor name = .ok a) (hset : (a.setter target value).run s = (result, s₁))
      (h : Writes b target s₁ rest outcomes s') :
      Writes b target s ((name, value) :: rest)
        ((result.mapError (Failure.guard .set a.owner (some name))).map (fun _ => .null) :: outcomes)
        s'

variable {b : Binding σ}

theorem mem_of_accessor {name : String} {a : Accessor σ} (h : b.accessor name = .ok a) :
    a ∈ b.accessors := by
  unfold accessor at h
  split at h
  · next hfind =>
      cases h
      exact List.mem_of_find?_eq_some hfind
  · cases h

theorem accessor_cases (b : Binding σ) (name : String) :
    (∃ a, b.accessor name = .ok a ∧ a.name = name ∧ b.has name = true) ∨
      (b.accessor name = .error (.construction ⟨.unknownProperty, .set, b.type, some name⟩) ∧
        b.has name = false) := by
  unfold accessor has names
  cases hfind : b.accessors.find? fun a => a.name == name with
  | some a =>
      have hfound := List.find?_some hfind
      have hname : a.name = name := eq_of_beq hfound
      refine .inl ⟨a, rfl, hname, ?_⟩
      exact List.contains_iff_mem.2 (List.mem_map.2 ⟨a, List.mem_of_find?_eq_some hfind, hname⟩)
  | none =>
      refine .inr ⟨rfl, ?_⟩
      simpa using hfind

theorem accessor_mapCalls (wrap : ∀ {α : Type}, UserCall → Action σ α → Action τ α) (b : Binding σ)
    (name : String) :
    (b.mapCalls wrap).accessor name = (b.accessor name).map (Accessor.mapCalls wrap) := by
  have hname : (fun a : Accessor τ => a.name == name) ∘ Accessor.mapCalls wrap =
      fun a : Accessor σ => a.name == name := rfl
  simp only [accessor, mapCalls, List.find?_map, hname]
  cases b.accessors.find? fun a => a.name == name <;> rfl

theorem accessor_recorded (b : Binding σ) (name : String) :
    b.recorded.accessor name = (b.accessor name).map Accessor.recorded :=
  b.accessor_mapCalls Action.noted name

end Binding

theorem Action.run_noted {α : Type} (call : UserCall) (action : Action σ α) (s : σ)
    (calls : List UserCall) :
    (action.noted call).run (s, calls) =
      ((action.run s).1, (action.run s).2, calls ++ [call]) := rfl

namespace Session

variable {b : Binding σ} {target : Value}

/-- The calls of user's methods that commands to a session lead to. -/
def calls (s : Session σ) : List SessionCommand → List UserCall
  | [] => []
  | .write name value :: rest =>
      (match s.target with
        | some target => if s.binding.has name then [.set name target value] else []
        | none => []) ++ s.calls rest
  | .finish :: rest =>
      (match s.target with
        | some target => if s.binding.finish.isSome then [.finish target] else []
        | none => []) ++ s.close.calls rest

/-- The session on the binding that notes its calls. -/
def recorded (s : Session σ) : Session (σ × List UserCall) :=
  ⟨s.binding.recorded, s.target⟩

theorem run_write (b : Binding σ) (target : Option Value) (name : String) (value : Value)
    (state : σ) :
    (write ⟨b, target⟩ name value).run state =
      match b.accessor name, target with
      | .error failure, _ => (.error failure, state)
      | .ok _, none => (.error (closedError ⟨b, none⟩), state)
      | .ok a, some target => (a.set target value).run state := by
  unfold write
  rw [Action.run_bind]
  cases b.accessor name with
  | error failure => rfl
  | ok a => cases target <;> rfl

theorem run_result (b : Binding σ) (target : Option Value) (state : σ) :
    (result ⟨b, target⟩).run state =
      match target, b.finish with
      | none, _ => (.error (closedError ⟨b, none⟩), state)
      | some target, some build =>
          (Action.guarded .build b.implementation none (build target)).run state
      | some target, none => (.ok target, state) := by
  unfold result
  rw [Action.run_bind]
  cases target with
  | none => rfl
  | some target => cases b.finish <;> rfl

theorem session_perform (s : Session σ) (command : SessionCommand) (state : σ) :
    (s.perform command state).2.1 = match command with
      | .write _ _ => s
      | .finish => s.close := by
  cases command <;> rfl

theorem perform_recorded (s : Session σ) (command : SessionCommand) (state : σ)
    (noted : List UserCall) :
    s.recorded.perform command (state, noted) =
      let (outcome, s', state') := s.perform command state
      (outcome, s'.recorded, state', noted ++ s.calls [command]) := by
  obtain ⟨b, target⟩ := s
  cases command with
  | write name value =>
      simp only [perform, recorded, run_write, b.accessor_recorded]
      rcases b.accessor_cases name with ⟨a, ha, rfl, hhas⟩ | ⟨ha, hhas⟩
      · cases target <;> simp [ha, calls, hhas, Except.map, Accessor.set, Accessor.recorded,
          Action.run_guarded, Action.run_noted, closedError, Binding.recorded]
      · cases target <;> simp [ha, calls, hhas, Except.map]
  | finish =>
      simp only [perform, recorded, run_result]
      cases target with
      | none => simp [calls, closedError, close, Binding.recorded]
      | some target =>
          cases hfinish : b.finish <;> simp [calls, hfinish, close, Binding.recorded,
            Action.run_guarded, Action.run_noted]

theorem performAll_recorded (s : Session σ) (commands : List SessionCommand) (state : σ)
    (noted : List UserCall) :
    s.recorded.performAll commands (state, noted) =
      let (outcomes, s', state') := s.performAll commands state
      (outcomes, s'.recorded, state', noted ++ s.calls commands) := by
  induction commands generalizing s state noted with
  | nil => simp [performAll, calls]
  | cons command rest ih =>
      have hcalls : s.calls (command :: rest) =
          s.calls [command] ++ (s.perform command state).2.1.calls rest := by
        rw [session_perform]
        cases command <;> simp [calls]
      rw [performAll, performAll, perform_recorded, hcalls]
      rcases s.perform command state with ⟨outcome, s', state'⟩
      dsimp only
      rw [ih]
      simp

theorem performAll_closed (b : Binding σ) (commands : List SessionCommand) (state : σ) :
    performAll ⟨b, none⟩ commands state = (commands.map b.closedOutcome, ⟨b, none⟩, state) := by
  induction commands with
  | nil => rfl
  | cons command rest ih =>
      have hstep : perform ⟨b, none⟩ command state =
          (b.closedOutcome command, ⟨b, none⟩, state) := by
        cases command with
        | write name value =>
            rcases b.accessor_cases name with ⟨a, ha, -, hhas⟩ | ⟨ha, hhas⟩
            · simp only [perform, run_write, ha, Binding.closedOutcome, hhas, if_true]
              rfl
            · simp only [perform, run_write, ha, Binding.closedOutcome, hhas]
              rfl
        | finish =>
            simp only [perform, run_result]
            rfl
      rw [performAll, hstep]
      dsimp only
      rw [ih]
      rfl

theorem calls_closed (b : Binding σ) (commands : List SessionCommand) :
    calls ⟨b, none⟩ commands = [] := by
  induction commands with
  | nil => rfl
  | cons command rest ih => cases command <;> simpa [calls, close] using ih

theorem performAll_writes (b : Binding σ) (target : Value) (writes : List (String × Value))
    (state : σ) :
    ∃ outcomes state', b.Writes target state writes outcomes state' ∧
      performAll ⟨b, some target⟩ (writes.map fun w => .write w.1 w.2) state =
        (outcomes, ⟨b, some target⟩, state') := by
  induction writes generalizing state with
  | nil => exact ⟨[], state, .nil state, rfl⟩
  | cons w writes ih =>
      obtain ⟨name, value⟩ := w
      rcases b.accessor_cases name with ⟨a, ha, hname, -⟩ | ⟨ha, hhas⟩
      · rcases hset : (a.setter target value).run state with ⟨result, state₁⟩
        obtain ⟨outcomes, state', hwrites, hperform⟩ := ih state₁
        refine ⟨_, state', .known ha hset hwrites, ?_⟩
        simp only [List.map_cons, performAll, perform, run_write, ha, Accessor.set,
          Action.run_guarded, hset, hname, hperform]
      · obtain ⟨outcomes, state', hwrites, hperform⟩ := ih state
        refine ⟨_, state', .unknown hhas hwrites, ?_⟩
        simp only [List.map_cons, performAll, perform, run_write, ha, hperform]
        rfl

theorem calls_writes_append (b : Binding σ) (target : Value) (writes : List (String × Value))
    (rest : List SessionCommand) :
    calls ⟨b, some target⟩ ((writes.map fun w => .write w.1 w.2) ++ rest) =
      ((writes.filter fun w => b.has w.1).map fun w => .set w.1 target w.2) ++
        calls ⟨b, some target⟩ rest := by
  induction writes with
  | nil => rfl
  | cons w writes ih =>
      rw [List.map_cons, List.cons_append, calls, ih, List.filter_cons]
      cases b.has w.1 <;> rfl

end Session

theorem Registration.bind_endsByVariant {u : Universe} {r : Registration} {resolved : TypeExpr}
    {w w' : World} {b : Binding World} (h : (r.bind u resolved).run w = (.ok b, w')) :
    b.variant = r.variant ∧ b.EndsByVariant := by
  unfold bind at h
  cases hvariant : r.variant with
  | immutable =>
      rw [hvariant] at h
      unfold Action.bindImmutable at h
      obtain ⟨_, _, _, h⟩ := Action.run_bind_ok h
      obtain ⟨_, _, _, h⟩ := Action.run_bind_ok h
      obtain ⟨_, _, _, h⟩ := Action.run_bind_ok h
      obtain ⟨_, _, _, h⟩ := Action.run_bind_ok h
      obtain ⟨_, _, _, h⟩ := Action.run_bind_ok h
      obtain ⟨_, _, _, h⟩ := Action.run_bind_ok h
      cases h
      exact ⟨rfl, _, rfl⟩
  | modifiable =>
      rw [hvariant] at h
      unfold Action.bindModifiable at h
      obtain ⟨_, _, _, h⟩ := Action.run_bind_ok h
      obtain ⟨_, _, _, h⟩ := Action.run_bind_ok h
      obtain ⟨_, _, _, h⟩ := Action.run_bind_ok h
      obtain ⟨_, _, _, h⟩ := Action.run_bind_ok h
      cases h
      exact ⟨rfl, rfl⟩

namespace Binding

variable {b : Binding σ}

/-- The calls of a session with a target: one of the setter for each write of a property before the
first finish, and one of the build for that finish. -/
def sessionCalls (b : Binding σ) (target : Value) (commands : List SessionCommand) :
    List UserCall :=
  (((SessionCommand.writesBefore commands).filter fun w => b.has w.1).map
    fun w => .set w.1 target w.2) ++
    if (SessionCommand.afterFinish? commands).isSome && b.variant == .immutable then
      [.finish target]
    else []

theorem EndsByVariant.isSome_finish (h : b.EndsByVariant) :
    b.finish.isSome = (b.variant == .immutable) := by
  unfold EndsByVariant at h
  split at h
  · next hvariant =>
      obtain ⟨build, hbuild⟩ := h
      rw [hbuild, hvariant]
      rfl
  · next hvariant =>
      rw [h, hvariant]
      rfl

theorem calls_eq_sessionCalls (hends : b.EndsByVariant) (target : Value)
    (commands : List SessionCommand) :
    Session.calls ⟨b, some target⟩ commands = b.sessionCalls target commands := by
  conv => lhs; rw [SessionCommand.eq_writesBefore_append commands]
  rw [Session.calls_writes_append, sessionCalls]
  cases SessionCommand.afterFinish? commands with
  | none => rfl
  | some rest =>
      have hclosed : (Session.close ⟨b, some target⟩).calls rest = [] := Session.calls_closed b rest
      simp only [Session.calls, hclosed, hends.isSome_finish, List.append_nil, Option.isSome_some,
        Bool.true_and]

/-- What becomes of a session with a target. Before the first finish it is open and writes to the
target, whatever comes of the writes. The first finish builds, or gives the target itself; afterwards
the session is closed, and nothing but errors comes of it. -/
theorem performAll_cases (hends : b.EndsByVariant) (target : Value)
    (commands : List SessionCommand) (s : σ) :
    ∃ outcomes s₁, b.Writes target s (SessionCommand.writesBefore commands) outcomes s₁ ∧
      match SessionCommand.afterFinish? commands with
      | none => Session.performAll ⟨b, some target⟩ commands s = (outcomes, ⟨b, some target⟩, s₁)
      | some rest => ∃ final s₂,
          Session.performAll ⟨b, some target⟩ commands s =
            (outcomes ++ final :: rest.map b.closedOutcome, ⟨b, none⟩, s₂) ∧
          match b.variant with
          | .immutable => ∃ build, b.finish = some build ∧
              (Action.guarded .build b.implementation none (build target)).run s₁ = (final, s₂)
          | .modifiable => final = .ok target ∧ s₂ = s₁ := by
  obtain ⟨outcomes, s₁, hwrites, hperform⟩ :=
    Session.performAll_writes b target (SessionCommand.writesBefore commands) s
  refine ⟨outcomes, s₁, hwrites, ?_⟩
  have hcommands := SessionCommand.eq_writesBefore_append commands
  cases hafter : SessionCommand.afterFinish? commands with
  | none =>
      rw [hafter, List.append_nil] at hcommands
      rw [hcommands]
      exact hperform
  | some rest =>
      rw [hafter] at hcommands
      rcases hresult : (Session.result ⟨b, some target⟩).run s₁ with ⟨final, s₂⟩
      refine ⟨final, s₂, ?_, ?_⟩
      · rw [hcommands, Session.performAll_append, hperform]
        dsimp only
        rw [Session.performAll, Session.perform, hresult]
        dsimp only
        rw [show Session.close ⟨b, some target⟩ = ⟨b, none⟩ from rfl, Session.performAll_closed]
      · unfold EndsByVariant at hends
        split at hends
        · obtain ⟨build, hbuild⟩ := hends
          rw [Session.run_result, hbuild] at hresult
          exact ⟨build, hbuild, hresult⟩
        · rw [Session.run_result, hends] at hresult
          cases hresult
          exact ⟨rfl, rfl⟩

theorem run_open (b : Binding σ) (s : σ) :
    b.open.run s =
      ((((b.start.run s).1.mapError (Failure.guard .create b.implementation none)).map
        fun target => ⟨b, some target⟩), (b.start.run s).2) := by
  unfold Binding.open
  rw [Action.run_bind, Action.run_guarded]
  rcases b.start.run s with ⟨_ | _, s'⟩ <;> rfl

/-- Bindings that are made end by their variant, and so a session on one goes its course: it takes writes
until the first finish, which builds once or gives the target, and nothing but errors afterwards. -/
theorem session_life_cycle :
    (∀ (u : Universe) (r : Registration) (resolved : TypeExpr) (w w' : World) (made : Binding World),
      (r.bind u resolved).run w = (.ok made, w') → made.variant = r.variant ∧ made.EndsByVariant) ∧
    ∀ {σ : Type} (b : Binding σ), b.EndsByVariant → ∀ s : σ,
      match b.start.run s with
      | (.error failure, s₁) =>
          b.open.run s = (.error (failure.guard .create b.implementation none), s₁) ∧
          b.recorded.open.run (s, []) =
            (.error (failure.guard .create b.implementation none), s₁, [.start])
      | (.ok target, s₁) =>
          b.open.run s = (.ok ⟨b, some target⟩, s₁) ∧
          b.recorded.open.run (s, []) = (.ok ⟨b.recorded, some target⟩, s₁, [.start]) ∧
          ∀ commands,
            let run := Session.performAll ⟨b, some target⟩ commands s₁
            Session.performAll ⟨b.recorded, some target⟩ commands (s₁, [.start]) =
              (run.1, run.2.1.recorded, run.2.2, .start :: b.sessionCalls target commands) ∧
            ∃ outcomes s₂, b.Writes target s₁ (SessionCommand.writesBefore commands) outcomes s₂ ∧
              match SessionCommand.afterFinish? commands with
              | none => run = (outcomes, ⟨b, some target⟩, s₂)
              | some rest => ∃ final s₃,
                  run = (outcomes ++ final :: rest.map b.closedOutcome, ⟨b, none⟩, s₃) ∧
                  match b.variant with
                  | .immutable => ∃ build, b.finish = some build ∧
                      (Action.guarded .build b.implementation none (build target)).run s₂ =
                        (final, s₃)
                  | .modifiable => final = .ok target ∧ s₃ = s₂ := by
  refine ⟨fun u r resolved w w' made hmade => Registration.bind_endsByVariant hmade,
    fun {_} b hends s => ?_⟩
  have hstart : b.recorded.start.run (s, []) =
      ((b.start.run s).1, (b.start.run s).2, [.start]) := Action.run_noted .start b.start s []
  rcases hrun : b.start.run s with ⟨failure | target, s₁⟩
  · rw [run_open, run_open, hstart, hrun]
    exact ⟨rfl, rfl⟩
  · rw [run_open, run_open, hstart, hrun]
    refine ⟨rfl, rfl, fun commands => ⟨?_, performAll_cases hends target commands s₁⟩⟩
    have hrecorded := Session.performAll_recorded ⟨b, some target⟩ commands s₁ [.start]
    rw [calls_eq_sessionCalls hends] at hrecorded
    exact hrecorded

/-- A binding whose setter and build fail, and count how often they are called. -/
def failing : Binding Nat where
  serial := 0
  variant := .immutable
  type := .cls (.declared "Vase")
  definition := .cls (.declared "Vase")
  implementation := .cls (.declared "Vase")
  builderClass := none
  accessors :=
    [{ name := "size"
       type := .cls .any
       owner := .cls (.declared "Vase")
       metadata := []
       getter := fun _ => pure .null
       setter := fun _ _ count => (.error (.misuse .typeError), count + 1)
       probe := none }]
  start := fun count => (.ok (.object "Clay" 0), count + 1)
  finish := some fun _ count => (.error (.misuse .valueError), count + 1)

/-- A session on it, and one on a binding that is made for jugs. -/
theorem session_life_cycle_failing :
    let commands : List SessionCommand :=
      [.write "size" .null, .write "lid" .null, .write "size" (.bool true), .finish,
        .write "size" .null, .write "lid" .null, .finish]
    let target : Value := .object "Clay" 0
    let vase : TypeExpr := .cls (.declared "Vase")
    let failed fault operation property : Except Failure Value :=
      .error (.construction ⟨fault, operation, vase, property⟩)
    failing.EndsByVariant ∧ failing.open.run 0 = (.ok ⟨failing, some target⟩, 1) ∧
      Session.performAll ⟨failing.recorded, some target⟩ commands (1, [.start]) =
        ([failed (.stepFailed (some .typeError)) .set (some "size"),
            failed .unknownProperty .set (some "lid"),
            failed (.stepFailed (some .typeError)) .set (some "size"),
            failed (.stepFailed (some .valueError)) .build none,
            failed .sessionClosed .set none,
            failed .unknownProperty .set (some "lid"),
            failed .sessionClosed .set none],
          ⟨failing.recorded, none⟩, 4,
          [.start, .set "size" target .null, .set "size" target (.bool true), .finish target]) ∧
      ∃ b w w₁ jug, (jugRegistration.bind vessels (.cls (.declared "Jug"))).run {} = (.ok b, w) ∧
        b.EndsByVariant ∧ b.open.run w = (.ok ⟨b, some jug⟩, w₁) ∧
        (Session.performAll ⟨b.recorded, some jug⟩ [.write "volume" .null, .finish] (w₁, [.start])).2.2.2 =
          [.start, .set "volume" jug .null, .finish jug] := by
  intro commands target vase failed
  have hends : failing.EndsByVariant := ⟨_, rfl⟩
  obtain ⟨hopen, -, hrun⟩ := session_life_cycle.2 failing hends 0
  obtain ⟨hcalls, -⟩ := hrun commands
  refine ⟨hends, hopen, hcalls, ?_⟩
  obtain ⟨b, w, w₁, jug, hbind, hstart⟩ :
      ∃ b w w₁ jug, (jugRegistration.bind vessels (.cls (.declared "Jug"))).run {} = (.ok b, w) ∧
        b.start.run w = (.ok jug, w₁) ∧ b.has "volume" = true := ⟨_, _, _, _, rfl, rfl, rfl⟩
  obtain ⟨hvariant, hmade⟩ := session_life_cycle.1 vessels jugRegistration _ _ _ b hbind
  have hcourse := session_life_cycle.2 b hmade w
  rw [hstart.1] at hcourse
  obtain ⟨hopened, -, hrun⟩ := hcourse
  refine ⟨b, w, w₁, jug, hbind, hmade, hopened, ?_⟩
  rw [(hrun [.write "volume" .null, .finish]).1]
  simp [sessionCalls, SessionCommand.writesBefore, SessionCommand.afterFinish?, hstart.2, hvariant,
    jugRegistration]

end Binding

end RecordBinding
