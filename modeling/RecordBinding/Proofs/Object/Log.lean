import RecordBinding.Proofs.Object.Simulation

namespace RecordBinding

/-- Two worlds differ at most in their logs. -/
structure World.SameButLog (w w' : World) : Prop where
  states : w.states = w'.states
  trace : w.trace = w'.trace
  bindingsBuilt : w.bindingsBuilt = w'.bindingsBuilt

namespace World.SameButLog

variable {w w' w'' : World}

theorem refl (w : World) : w.SameButLog w := ⟨rfl, rfl, rfl⟩

theorem trans (h : w.SameButLog w') (h' : w'.SameButLog w'') : w.SameButLog w'' :=
  ⟨h.states.trans h'.states, h.trace.trans h'.trace, h.bindingsBuilt.trans h'.bindingsBuilt⟩

theorem state? (h : w.SameButLog w') (v : Value) : w.state? v = w'.state? v := by
  cases v <;> simp [World.state?, h.states]

end World.SameButLog

namespace Action

variable {α β : Type} {u : Universe}

/-- From worlds that differ in their logs an action ends with one outcome, in worlds that differ in their
logs. -/
def IgnoresLog (x : Action World α) : Prop :=
  Simulates World.SameButLog World.SameButLog (fun a b w w' => a = b ∧ w.SameButLog w') x x

namespace IgnoresLog

variable {x : Action World α} {f : α → Action World β}

theorem pure (a : α) : (Pure.pure a : Action World α).IgnoresLog :=
  Simulates.pure fun _ _ h => ⟨rfl, h⟩

theorem throw (failure : Failure) : (throw failure : Action World α).IgnoresLog :=
  Simulates.throw fun _ _ h => h

theorem ofExcept (result : Except Failure α) : (ofExcept result).IgnoresLog := by
  cases result with
  | ok a => exact pure a
  | error failure => exact throw failure

theorem bind (h : x.IgnoresLog) (hf : ∀ a, (f a).IgnoresLog) : (x >>= f).IgnoresLog := by
  refine Simulates.bind h fun a b w w' hab => ?_
  obtain ⟨rfl, hw⟩ := hab
  exact hf a w w' hw

theorem discard (h : x.IgnoresLog) : (discard x).IgnoresLog := by
  rw [show Functor.discard x = x >>= fun _ => Pure.pure PUnit.unit from rfl]
  exact h.bind fun _ => pure _

theorem guarded (h : x.IgnoresLog) (operation : Operation) (target : TypeExpr)
    (property : Option String) : (guarded operation target property x).IgnoresLog :=
  Simulates.guarded h operation target property

end IgnoresLog

open IgnoresLog

theorem called_ignoresLog (label : String) : (called label).IgnoresLog :=
  fun _ _ h => .ok ⟨rfl, h.states, congrArg (·.push label) h.trace, h.bindingsBuilt⟩

theorem allocate_ignoresLog (className : String) (fields : Fields) :
    (allocate className fields).IgnoresLog :=
  fun _ _ h => .ok ⟨by rw [h.states], congrArg (·.push fields) h.states, h.trace, h.bindingsBuilt⟩

theorem fieldsOf_ignoresLog (v : Value) : (fieldsOf v).IgnoresLog := by
  intro w w' h
  rw [run_fieldsOf, run_fieldsOf, h.state? v]
  cases w'.state? v with
  | none => exact .error h
  | some fields => exact .ok ⟨rfl, h⟩

theorem setField_ignoresLog (v : Value) (key : String) (field : Value) :
    (setField v key field).IgnoresLog := by
  refine (fieldsOf_ignoresLog v).bind fun fields => ?_
  cases v with
  | object className id =>
      exact fun w w' h => .ok
        ⟨rfl, congrArg (·.setIfInBounds id (fields.set key field)) h.states, h.trace, h.bindingsBuilt⟩
  | _ => exact pure _

theorem instantiate_ignoresLog (u : Universe) (c : ClassId) : (instantiate u c).IgnoresLog := by
  unfold instantiate
  split
  · exact pure _
  · exact pure _
  · split
    · split
      · exact throw _
      · exact allocate_ignoresLog _ _
    · exact throw _
  · exact throw _

theorem callType_ignoresLog (u : Universe) (t : TypeExpr) : (callType u t).IgnoresLog := by
  fun_induction callType u t with
  | case1 c => exact instantiate_ignoresLog u c
  | case2 c => exact instantiate_ignoresLog u c
  | case3 inner _ ih => exact ih
  | case4 => exact throw _

theorem setFields_ignoresLog (built : Value) (fields : Fields) :
    (forIn fields PUnit.unit fun entry _ => do
      setField built entry.1 entry.2
      return ForInStep.yield PUnit.unit : Action World PUnit).IgnoresLog := by
  induction fields with
  | nil => exact pure _
  | cons entry fields ih =>
      rw [List.forIn_cons, bind_assoc]
      simp only [pure_bind]
      exact (setField_ignoresLog built entry.1 entry.2).bind fun _ => ih

theorem runBody_ignoresLog (u : Universe) (body : Body) (args : List Value) :
    (runBody u body args).IgnoresLog := by
  unfold runBody
  extract_lets receiver
  clear_value receiver
  cases body with
  | nothing => exact pure _
  | get key fallback =>
      refine (fieldsOf_ignoresLog receiver).bind fun fields => ?_
      split
      · exact pure _
      · exact pure _
      · exact throw _
  | isSet key => exact (fieldsOf_ignoresLog _).bind fun fields => pure _
  | set key => exact (setField_ignoresLog _ _ _).bind fun _ => pure _
  | create name =>
      dsimp only
      split
      · exact instantiate_ignoresLog u _
      · exact throw _
  | createFirst =>
      dsimp only
      split
      · exact callType_ignoresLog u _
      · exact throw _
  | first => exact pure _
  | build name needed =>
      refine (fieldsOf_ignoresLog _).bind fun fields => ?_
      split
      · exact throw _
      · split
        · refine (instantiate_ignoresLog u _).bind fun built => ?_
          exact (setFields_ignoresLog built fields).bind fun _ => pure _
        · exact throw _
  | give value => exact pure _
  | fail kind message => exact throw _

theorem callFunction_ignoresLog (u : Universe) (f : Function) (args : List Value) :
    (callFunction u f args).IgnoresLog := by
  unfold callFunction
  split
  · exact (called_ignoresLog f.label).bind fun _ => runBody_ignoresLog u f.body args
  · exact throw _

end Action

theorem Attribute.call_ignoresLog (u : Universe) (target : Attribute) (args : List Value) :
    (target.call u args).IgnoresLog := by
  unfold Attribute.call
  split
  · exact Action.callFunction_ignoresLog u _ _
  · split
    · exact .throw _
    · exact Action.callFunction_ignoresLog u _ _
  · exact .throw _
  · split
    · exact Action.callType_ignoresLog u _
    · exact .throw _
  · exact .throw _

theorem Attribute.ofInstance_ignoresLog (u : Universe) (c : ClassId) (self : Value) (member : Member) :
    (Attribute.ofInstance u c self member).IgnoresLog := by
  unfold Attribute.ofInstance
  split
  · exact .pure _
  · exact (Action.callFunction_ignoresLog u _ _).bind fun _ => .pure _
  · exact .throw _
  · exact .pure _
  · exact .pure _

theorem Action.getAttribute_ignoresLog (u : Universe) (target : Value) (name : String) :
    (getAttribute u target name).IgnoresLog := by
  unfold getAttribute
  split
  · dsimp only
    split
    · exact Attribute.ofInstance_ignoresLog u _ _ _
    · exact .throw _
  · split
    · exact .pure _
    · exact .throw _
  · exact .throw _

end RecordBinding
