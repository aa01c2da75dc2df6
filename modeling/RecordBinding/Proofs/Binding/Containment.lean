import RecordBinding.Proofs.Binding.LifeCycle
import RecordBinding.Proofs.Declaration.Evaluation

namespace RecordBinding

variable {σ τ α β : Type}

/-- What can be asked of a binding and of the sessions opened on it, which are numbered in order. -/
inductive BindingRequest where
  | open
  | session (number : Nat) (command : SessionCommand)
  | set (property : String) (target value : Value)
  | get (property : String) (target : Value)
  | isPresent (property : String) (target : Value)
  | read (target : Value)

namespace Binding

/-- Answers a request, given the targets of the sessions. A command to a session that was never opened
does nothing. -/
def answer (b : Binding σ) (request : BindingRequest) (targets : List (Option Value)) (s : σ) :
    Except Failure Unit × List (Option Value) × σ :=
  let use {α : Type} (action : Action σ α) :=
    ((action.run s).1.map fun _ => (), targets, (action.run s).2)
  match request with
  | .open =>
      match b.open.run s with
      | (.ok session, s) => (.ok (), targets ++ [session.target], s)
      | (.error failure, s) => (.error failure, targets, s)
  | .session number command =>
      match targets[number]? with
      | some target =>
          let (outcome, session, s) := Session.perform ⟨b, target⟩ command s
          (outcome.map fun _ => (), targets.set number session.target, s)
      | none => (.ok (), targets, s)
  | .set property target value => use do (← Action.ofExcept (b.accessor property)).set target value
  | .get property target => use do (← Action.ofExcept (b.accessor property)).get target
  | .isPresent property target => use do (← Action.ofExcept (b.accessor property)).isPresent target
  | .read target => use (b.read target)

/-- Answers requests one after the other, whatever their outcomes. -/
def answerAll (b : Binding σ) : List BindingRequest → List (Option Value) → σ →
    List (Except Failure Unit) × List (Option Value) × σ
  | [], targets, s => ([], targets, s)
  | request :: rest, targets, s =>
      let (outcome, targets, s) := b.answer request targets s
      let (outcomes, targets, s) := b.answerAll rest targets s
      (outcome :: outcomes, targets, s)

end Binding

/-- A call of a user's method that was made, with the failure that it raised, if any. -/
abbrev CallNote := UserCall × Option Failure

def failure? : Except Failure α → Option Failure
  | .ok _ => none
  | .error failure => some failure

/-- The action with a note of the call that it carries out and of the failure of that call. -/
def Action.traced (call : UserCall) (action : Action σ α) : Action (σ × List CallNote) α :=
  fun (s, notes) =>
    let (result, s) := action.run s
    (result, s, notes ++ [(call, failure? result)])

/-- The same binding, with a note of each call of a user's method and of its failure. -/
def Binding.traced (b : Binding σ) : Binding (σ × List CallNote) :=
  b.mapCalls Action.traced

/-- The step of a construction that a call is, and the property that it is for. To ask whether the answer
of a probe counts as true is no step. -/
def UserCall.step? : UserCall → Option (Operation × Option String)
  | start => some (.create, none)
  | set property _ _ => some (.set, some property)
  | get property _ => some (.get, some property)
  | probe property _ => some (.isSet, some property)
  | truth _ _ => none
  | finish _ => some (.build, none)

/-- What escapes when a call raises a failure. A structural failure of a step becomes an error of the
construction that names the step and the property, unless it is one already; any other failure escapes as
it is. -/
def Escapes (call : UserCall) (raised escaped : Failure) : Prop :=
  match call.step? with
  | some (operation, property) =>
      if raised.kind.isStructural && !raised.kind.isConstruction then
        ∃ target, escaped =
          .construction ⟨.stepFailed (some raised.kind), operation, target, property⟩
      else escaped = raised
  | none => escaped = raised

/-- How an outcome comes about by the calls that were made for it: none of them raised anything; or there
were none, as what was asked for is refused; or the last one raised what escapes. -/
inductive Contained (refuses : Failure → Prop) : Except Failure α → List CallNote → Prop
  | ok {a : α} {notes : List CallNote} (h : ∀ note ∈ notes, note.2 = none) :
      Contained refuses (.ok a) notes
  | refused {failure : Failure} (h : refuses failure) : Contained refuses (.error failure) []
  | raised {earlier : List CallNote} {call : UserCall} {failure escaped : Failure}
      (hearlier : ∀ note ∈ earlier, note.2 = none) (h : Escapes call failure escaped) :
      Contained refuses (.error escaped) (earlier ++ [(call, some failure)])

/-- The failures with which a binding refuses what is asked of it. -/
inductive Binding.Refuses (b : Binding σ) : Failure → Prop
  | unknown (name : String) :
      Refuses b (.construction ⟨.unknownProperty, .set, b.type, some name⟩)
  | closed : Refuses b (.construction ⟨.sessionClosed, .set, b.type, none⟩)

theorem Action.run_traced (call : UserCall) (action : Action σ α) (s : σ) (notes : List CallNote) :
    (action.traced call).run (s, notes) =
      ((action.run s).1, (action.run s).2, notes ++ [(call, failure? (action.run s).1)]) := rfl

theorem Escapes.guard {call : UserCall} {operation : Operation} {property : Option String}
    (h : call.step? = some (operation, property)) (failure : Failure) (target : TypeExpr) :
    Escapes call failure (failure.guard operation target property) := by
  unfold Escapes Failure.guard
  rw [h]
  dsimp only
  cases failure.kind.isConstruction with
  | true => simp
  | false =>
      cases failure.kind.isStructural with
      | true => exact ⟨target, rfl⟩
      | false => simp

namespace Contained

variable {refuses : Failure → Prop} {outcome : Except Failure α} {notes : List CallNote}

theorem map (h : Contained refuses outcome notes) (f : α → β) :
    Contained refuses (outcome.map f) notes := by
  cases h with
  | ok h => exact .ok h
  | refused h => exact .refused h
  | raised hearlier h => exact .raised hearlier h

theorem mono {refuses' : Failure → Prop} (h : Contained refuses outcome notes)
    (hrefuses : ∀ failure, refuses failure → refuses' failure) :
    Contained refuses' outcome notes := by
  cases h with
  | ok h => exact .ok h
  | refused h => exact .refused (hrefuses _ h)
  | raised hearlier h => exact .raised hearlier h

theorem append {earlier : List CallNote} (hearlier : ∀ note ∈ earlier, note.2 = none)
    (h : Contained (fun _ => False) outcome notes) :
    Contained refuses outcome (earlier ++ notes) := by
  cases h with
  | ok h => exact .ok (List.forall_mem_append.2 ⟨hearlier, h⟩)
  | refused h => exact h.elim
  | raised hnotes h =>
      rw [← List.append_assoc]
      exact .raised (List.forall_mem_append.2 ⟨hearlier, hnotes⟩) h

end Contained

/-- A structural failure that escapes escapes as it was raised, and it was raised by the question whether an
answer counts as true, or as an error of a construction. -/
theorem Escapes.eq_of_isStructural {call : UserCall} {raised escaped : Failure}
    (h : Escapes call raised escaped) (hstructural : escaped.kind.isStructural = true) :
    raised = escaped ∧
      ((∃ property answer, call = .truth property answer) ∨ escaped.kind.isConstruction = true) := by
  unfold Escapes at h
  cases hstep : call.step? with
  | some step =>
      rw [hstep] at h
      dsimp only at h
      split at h
      · obtain ⟨target, rfl⟩ := h
        cases hstructural
      · next hraised =>
          subst h
          rw [hstructural, Bool.true_and, Bool.not_eq_true', Bool.not_eq_false] at hraised
          exact ⟨rfl, .inr hraised⟩
  | none =>
      rw [hstep] at h
      cases call with
      | truth property answer => exact ⟨h.symm, .inl ⟨property, answer, rfl⟩⟩
      | _ => cases hstep

theorem Contained.of_isStructural {refuses : Failure → Prop} {failure : Failure}
    {notes : List CallNote} (hrefuses : ∀ e, refuses e → e.kind.isStructural = false)
    (h : Contained refuses (.error failure : Except Failure α) notes)
    (hstructural : failure.kind.isStructural = true) :
    ∃ earlier call, notes = earlier ++ [(call, some failure)] ∧
      ((∃ property answer, call = .truth property answer) ∨ failure.kind.isConstruction = true) := by
  cases h with
  | refused h =>
      rw [hrefuses failure h] at hstructural
      cases hstructural
  | @raised earlier call _ _ _ h =>
      obtain ⟨rfl, hcause⟩ := h.eq_of_isStructural hstructural
      exact ⟨earlier, call, rfl, hcause⟩

/-- The first action does what the second one does, and notes calls by which its outcome comes about. -/
def Action.Traces (refuses : Failure → Prop) (x : Action (σ × List CallNote) α)
    (y : Action σ α) : Prop :=
  ∀ s notes, ∃ made, x.run (s, notes) = ((y.run s).1, (y.run s).2, notes ++ made) ∧
    Contained refuses (y.run s).1 made

namespace Action.Traces

variable {refuses : Failure → Prop} {x : Action (σ × List CallNote) α} {y : Action σ α}

theorem mono {refuses' : Failure → Prop} (h : Traces refuses x y)
    (hrefuses : ∀ failure, refuses failure → refuses' failure) : Traces refuses' x y := by
  intro s notes
  obtain ⟨made, hrun, hmade⟩ := h s notes
  exact ⟨made, hrun, hmade.mono hrefuses⟩

theorem pure (a : α) :
    Traces refuses (Pure.pure a : Action (σ × List CallNote) α) (Pure.pure a) := by
  intro s notes
  exact ⟨[], by rw [List.append_nil]; rfl, .ok (List.forall_mem_nil _)⟩

theorem refused {failure : Failure} (h : refuses failure) :
    Traces refuses (ofExcept (.error failure) : Action (σ × List CallNote) α)
      (ofExcept (.error failure)) := by
  intro s notes
  exact ⟨[], by rw [List.append_nil]; rfl, .refused h⟩

theorem bind {f : α → Action (σ × List CallNote) β} {g : α → Action σ β} (h : Traces refuses x y)
    (hf : ∀ a, Traces (fun _ => False) (f a) (g a)) : Traces refuses (x >>= f) (y >>= g) := by
  intro s notes
  obtain ⟨made, hrun, hmade⟩ := h s notes
  rw [run_bind, run_bind, hrun]
  rcases hy : y.run s with ⟨failure | a, s'⟩
  · rw [hy] at hmade
    refine ⟨made, rfl, ?_⟩
    cases hmade with
    | refused h => exact .refused h
    | raised hearlier h => exact .raised hearlier h
  · rw [hy] at hmade
    cases hmade with
    | ok hquiet =>
        obtain ⟨later, hlater, hcontained⟩ := hf a s' (notes ++ made)
        exact ⟨made ++ later, by rw [← List.append_assoc]; exact hlater, hcontained.append hquiet⟩

theorem guarded {call : UserCall} {operation : Operation} {property : Option String}
    (h : call.step? = some (operation, property)) (target : TypeExpr) (action : Action σ α) :
    Traces refuses (Action.guarded operation target property (action.traced call))
      (Action.guarded operation target property action) := by
  intro s notes
  rw [run_guarded, run_guarded, run_traced]
  refine ⟨_, rfl, ?_⟩
  cases (action.run s).1 with
  | ok a => exact .ok (List.forall_mem_singleton.2 rfl)
  | error failure => exact .raised (List.forall_mem_nil _) (.guard h failure target)

theorem unguarded {call : UserCall} (h : call.step? = none) (action : Action σ α) :
    Traces refuses (action.traced call) action := by
  intro s notes
  rw [run_traced]
  refine ⟨_, rfl, ?_⟩
  cases (action.run s).1 with
  | ok a => exact .ok (List.forall_mem_singleton.2 rfl)
  | error failure => exact .raised (List.forall_mem_nil _) (by unfold Escapes; rw [h])

theorem mapM {γ δ : Type} {wrap : γ → δ} {f : δ → Action (σ × List CallNote) α}
    {g : γ → Action σ α} (h : ∀ c, Traces (fun _ => False) (f (wrap c)) (g c)) (cs : List γ) :
    Traces (fun _ => False) ((cs.map wrap).mapM f) (cs.mapM g) := by
  induction cs with
  | nil => exact pure []
  | cons c cs ih =>
      rw [List.map_cons, List.mapM_cons, List.mapM_cons]
      exact (h c).bind fun a => ih.bind fun as => pure (a :: as)

end Action.Traces

namespace Accessor

open RecordBinding.Action (Traces)

variable {refuses : Failure → Prop}

theorem set_traces (a : Accessor σ) (target value : Value) :
    Traces refuses ((a.mapCalls Action.traced).set target value) (a.set target value) :=
  .guarded rfl a.owner (a.setter target value)

theorem isPresent_traces (a : Accessor σ) (target : Value) :
    Traces refuses ((a.mapCalls Action.traced).isPresent target) (a.isPresent target) := by
  unfold isPresent
  cases hprobe : a.probe with
  | none =>
      have hnone : (a.mapCalls Action.traced).probe = none := by simp [mapCalls, hprobe]
      rw [hnone]
      exact .pure true
  | some probe =>
      have hsome : (a.mapCalls Action.traced).probe =
          some fun target => (probe target).traced (.probe a.name target) := by
        simp [mapCalls, hprobe]
      rw [hsome]
      exact (Traces.guarded rfl a.owner (probe target)).bind fun answer =>
        .unguarded rfl (a.truth answer)

theorem get_traces (a : Accessor σ) (target : Value) :
    Traces refuses ((a.mapCalls Action.traced).get target) (a.get target) := by
  refine (a.isPresent_traces target).bind fun present => ?_
  cases present with
  | true => exact .guarded rfl a.owner (a.getter target)
  | false => exact .pure Value.absent

theorem run_get_of_unset {a : Accessor σ} {probe : Value → Action σ Value} (hprobe : a.probe = some probe)
    {target answer : Value} {s s₁ s₂ : σ} (hanswer : (probe target).run s = (.ok answer, s₁))
    (hfalse : (a.truth answer).run s₁ = (.ok false, s₂)) :
    (a.get target).run s = (.ok .absent, s₂) := by
  unfold get isPresent
  rw [hprobe]
  simp only [Action.run_bind, Action.run_guarded, hanswer, Except.mapError, hfalse]
  rfl

end Accessor

namespace Binding

open RecordBinding.Action (Traces)

variable {b : Binding σ}

theorem chosen_traces {name : String} {f : Accessor (σ × List CallNote) → Action (σ × List CallNote) α}
    {g : Accessor σ → Action σ α}
    (h : ∀ a, Traces b.Refuses (f (a.mapCalls Action.traced)) (g a)) :
    Traces b.Refuses (Action.ofExcept (b.traced.accessor name) >>= f)
      (Action.ofExcept (b.accessor name) >>= g) := by
  rw [traced, accessor_mapCalls]
  rcases b.accessor_cases name with ⟨a, ha, -⟩ | ⟨ha, -⟩
  · rw [ha]
    exact h a
  · rw [ha]
    exact Traces.refused (.unknown name)

theorem write_traces (target : Option Value) (name : String) (value : Value) :
    Traces b.Refuses (Session.write ⟨b.traced, target⟩ name value)
      (Session.write ⟨b, target⟩ name value) := by
  refine chosen_traces fun a => ?_
  cases target with
  | none => exact Traces.refused .closed
  | some target => exact a.set_traces target value

theorem result_traces (target : Option Value) :
    Traces b.Refuses (Session.result ⟨b.traced, target⟩) (Session.result ⟨b, target⟩) := by
  intro s notes
  rw [Session.run_result, Session.run_result]
  cases target with
  | none => exact Traces.refused (α := Value) .closed s notes
  | some target =>
      have hfinish : b.traced.finish =
          b.finish.map fun build target => (build target).traced (.finish target) := rfl
      rw [hfinish]
      cases b.finish with
      | none => exact Traces.pure target s notes
      | some build => exact Traces.guarded rfl b.implementation (build target) s notes

theorem perform_traced (target : Option Value) (command : SessionCommand) (s : σ)
    (notes : List CallNote) :
    let done := Session.perform ⟨b, target⟩ command s
    ∃ made, Session.perform ⟨b.traced, target⟩ command (s, notes) =
        (done.1, ⟨b.traced, done.2.1.target⟩, done.2.2, notes ++ made) ∧
      Contained b.Refuses done.1 made := by
  cases command with
  | write name value =>
      obtain ⟨made, hrun, hmade⟩ := write_traces (b := b) target name value s notes
      refine ⟨made, ?_, hmade.map _⟩
      rw [Session.perform, hrun]
      rfl
  | finish =>
      obtain ⟨made, hrun, hmade⟩ := result_traces (b := b) target s notes
      refine ⟨made, ?_, hmade⟩
      rw [Session.perform, hrun]
      rfl

theorem read_traces (target : Value) : Traces b.Refuses (b.traced.read target) (b.read target) := by
  have hget : ∀ a : Accessor σ, Traces (fun _ => False)
      (do return (a.name, ← (a.mapCalls Action.traced).get target)) (do return (a.name, ← a.get target)) :=
    fun a => (a.get_traces target).bind fun value => .pure (a.name, value)
  exact (Traces.mapM hget b.accessors).mono fun _ => False.elim

/-- The calls made for one request, and how its outcome comes about by them. -/
theorem answer_traced (request : BindingRequest) (targets : List (Option Value)) (s : σ)
    (notes : List CallNote) :
    let answered := b.answer request targets s
    ∃ made, b.traced.answer request targets (s, notes) =
        (answered.1, answered.2.1, answered.2.2, notes ++ made) ∧
      Contained b.Refuses answered.1 made := by
  have huse : ∀ {α : Type} {x : Action (σ × List CallNote) α} {y : Action σ α},
      Traces b.Refuses x y →
      ∃ made, ((x.run (s, notes)).1.map (fun _ => ()), targets, (x.run (s, notes)).2) =
          ((y.run s).1.map (fun _ => ()), targets, (y.run s).2, notes ++ made) ∧
        Contained b.Refuses ((y.run s).1.map fun _ => ()) made := by
    intro α x y h
    obtain ⟨made, hrun, hmade⟩ := h s notes
    exact ⟨made, by rw [hrun], hmade.map _⟩
  cases request with
  | «open» =>
      have htraced : b.traced.start.run (s, notes) =
          ((b.start.run s).1, (b.start.run s).2, notes ++ [(.start, failure? (b.start.run s).1)]) :=
        Action.run_traced .start b.start s notes
      simp only [answer, run_open, htraced]
      rcases b.start.run s with ⟨failure | target, s'⟩
      · exact ⟨_, rfl, .raised (List.forall_mem_nil _) (.guard rfl failure b.implementation)⟩
      · exact ⟨_, rfl, .ok (List.forall_mem_singleton.2 rfl)⟩
  | session number command =>
      simp only [answer]
      cases targets[number]? with
      | none => exact ⟨[], by rw [List.append_nil], .ok (List.forall_mem_nil _)⟩
      | some target =>
          obtain ⟨made, hrun, hmade⟩ := perform_traced (b := b) target command s notes
          refine ⟨made, ?_, hmade.map _⟩
          dsimp only
          rw [hrun]
  | set property target value => exact huse (chosen_traces fun a => a.set_traces target value)
  | get property target => exact huse (chosen_traces fun a => a.get_traces target)
  | isPresent property target => exact huse (chosen_traces fun a => a.isPresent_traces target)
  | read target => exact huse (read_traces target)

theorem answerAll_traced (requests : List BindingRequest) (targets : List (Option Value)) (s : σ)
    (notes : List CallNote) :
    ∃ (steps : List (Except Failure Unit × List CallNote)) (targets' : List (Option Value)) (s' : σ),
      b.answerAll requests targets s = (steps.map (·.1), targets', s') ∧
      b.traced.answerAll requests targets (s, notes) =
        (steps.map (·.1), targets', s', notes ++ steps.flatMap (·.2)) ∧
      ∀ step ∈ steps, Contained b.Refuses step.1 step.2 := by
  induction requests generalizing targets s notes with
  | nil => exact ⟨[], targets, s, rfl, by rw [List.flatMap_nil, List.append_nil]; rfl, nofun⟩
  | cons request requests ih =>
      obtain ⟨made, hanswer, hmade⟩ := answer_traced (b := b) request targets s notes
      rcases hplain : b.answer request targets s with ⟨outcome, targets₁, s₁⟩
      rw [hplain] at hanswer hmade
      obtain ⟨steps, targets', s', hrest, htraced, hsteps⟩ := ih targets₁ s₁ (notes ++ made)
      refine ⟨(outcome, made) :: steps, targets', s', ?_, ?_, List.forall_mem_cons.2 ⟨hmade, hsteps⟩⟩
      · rw [answerAll, hplain]
        dsimp only
        rw [hrest, List.map_cons]
      · rw [answerAll, hanswer]
        dsimp only
        rw [htraced, List.map_cons, List.flatMap_cons, List.append_assoc]

theorem Refuses.not_isStructural {failure : Failure} (h : b.Refuses failure) :
    failure.kind.isStructural = false := by
  cases h <;> rfl

/-- What comes of any requests to a binding, with the calls of users' methods made for each. A structural
failure of a step becomes an error of the construction for that step; other failures, and errors of a
construction that are structural too, escape as they are, and no call follows one that raised something. The
exception is the question whether the answer of a probe counts as true, which is not guarded. An answer that
counts as false keeps the getter from being called. -/
theorem containment (b : Binding σ) (requests : List BindingRequest) (s : σ) :
    (∃ (steps : List (Except Failure Unit × List CallNote)) (targets : List (Option Value)) (s' : σ),
      b.answerAll requests [] s = (steps.map (·.1), targets, s') ∧
      b.traced.answerAll requests [] (s, []) =
        (steps.map (·.1), targets, s', steps.flatMap (·.2)) ∧
      ∀ step ∈ steps, Contained b.Refuses step.1 step.2 ∧
        ∀ failure, step.1 = .error failure → failure.kind.isStructural = true →
          ∃ earlier call, step.2 = earlier ++ [(call, some failure)] ∧
            ((∃ property answer, call = .truth property answer) ∨
              failure.kind.isConstruction = true)) ∧
    ∀ a ∈ b.accessors, ∀ probe, a.probe = some probe →
      ∀ target answer s s₁ s₂ notes, (probe target).run s = (.ok answer, s₁) →
        (a.truth answer).run s₁ = (.ok false, s₂) →
          ((a.mapCalls Action.traced).get target).run (s, notes) =
            (.ok .absent, s₂, notes ++ [(.probe a.name target, none), (.truth a.name answer, none)]) := by
  constructor
  · obtain ⟨steps, targets, s', hplain, htraced, hsteps⟩ := answerAll_traced (b := b) requests [] s []
    refine ⟨steps, targets, s', hplain, htraced, fun step hstep => ⟨hsteps step hstep, ?_⟩⟩
    rintro failure hfailure hstructural
    have hcontained := hsteps step hstep
    rw [hfailure] at hcontained
    exact hcontained.of_isStructural (fun _ h => h.not_isStructural) hstructural
  · rintro a - probe hprobe target answer s s₁ s₂ notes hanswer hfalse
    have hsome : (a.mapCalls Action.traced).probe =
        some fun target => (probe target).traced (.probe a.name target) := by
      simp [Accessor.mapCalls, hprobe]
    have htruth : (a.mapCalls Action.traced).truth answer =
        (a.truth answer).traced (.truth a.name answer) := rfl
    have hprobed : ((probe target).traced (.probe a.name target)).run (s, notes) =
        (.ok answer, s₁, notes ++ [(.probe a.name target, none)]) := by
      rw [Action.run_traced, hanswer]
      rfl
    refine Accessor.run_get_of_unset hsome hprobed ?_
    rw [htruth, Action.run_traced, hfalse, List.append_assoc]
    rfl

/-- A lamp whose probe answers with an instance that cannot tell whether it counts as true. -/
def lamps : ModuleDeclaration :=
  let self : Parameter := ⟨"self", .positional, false, none⟩
  let bool : Option TypeSource := some (.name "bool")
  { name := "lamps"
    types := []
    classes :=
      [⟨"Answer", .concrete, [], [],
          [⟨"__bool__", .method ⟨"Answer.__bool__", "__bool__", [self], none,
            .fail .typeError "undecided"⟩, false⟩], []⟩,
        ⟨"Lamp", .protocol, [], [],
          [⟨"lit", .method ⟨"Lamp.lit", "lit", [self], bool, .nothing⟩, false⟩], []⟩,
        ⟨"Bulb", .concrete, [], [.name "Lamp"],
          [⟨"lit", .method ⟨"Bulb.lit", "lit", [self], bool, .get "lit" (some (.bool false))⟩, false⟩,
            ⟨"setLit", .method ⟨"Bulb.setLit", "setLit",
              [self, ⟨"value", .positional, false, bool⟩], none, .set "lit"⟩, false⟩,
            ⟨"litIsSet", .method ⟨"Bulb.litIsSet", "litIsSet", [self], none, .create "Answer"⟩, false⟩,
            ⟨"create", .staticMethod ⟨"Bulb.create", "create", [], none, .create "Bulb"⟩, false⟩],
          []⟩]
    functions := []
    values := [] }

/-- A structural failure does escape when the answer of a probe fails to tell whether it is true. -/
theorem containment_misses_truth :
    let lamp : TypeExpr := .cls (.declared "Lamp")
    let bulb : TypeExpr := .cls (.declared "Bulb")
    ∃ b w, (Action.bindModifiable lamps.toUniverse bulb lamp bulb none).run {} = (.ok b, w) ∧
      (b.answerAll [.open, .get "lit" (.object "Bulb" 0)] [] w).1.map Failure.kindOf? =
        [none, some .typeError] := by
  intro lamp bulb
  let bound := (Action.bindModifiable lamps.toUniverse bulb lamp bulb none).run {}
  have hkinds : (bound.1.toOption.map fun b =>
      (b.answerAll [.open, .get "lit" (.object "Bulb" 0)] [] bound.2).1.map Failure.kindOf?) =
        some [none, some .typeError] := by decide +kernel
  obtain ⟨b, hb, hkinds⟩ := Option.map_eq_some_iff.1 hkinds
  exact ⟨b, bound.2, Prod.ext (ok_of_toOption hb) rfl, hkinds⟩

end Binding

end RecordBinding
