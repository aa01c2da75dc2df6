import Mathlib.Data.List.Nodup
import RecordBinding.Proofs.Object.Agreement

namespace RecordBinding

namespace Fields

variable {fields other : Fields}

theorem get?_eq_none_of_not_mem {key : String} (h : key ∉ fields.map (·.1)) :
    fields.get? key = none := by
  induction fields with
  | nil => rfl
  | cons entry fields ih =>
      rw [List.map_cons, List.mem_cons, not_or] at h
      rw [get?_cons, if_neg h.1]
      exact ih h.2

theorem nodup_keys_set (h : (fields.map (·.1)).Nodup) (key : String) (value : Value) :
    ((fields.set key value).map (·.1)).Nodup := by
  rw [keys_set]
  split
  · exact h
  · next hnew =>
      refine List.nodup_append.2 ⟨h, List.nodup_singleton key, ?_⟩
      rintro old hold _ hkey rfl
      cases List.mem_singleton.1 hkey
      obtain ⟨entry, hentry, rfl⟩ := List.mem_map.1 hold
      refine hnew ?_
      rw [has, get?]
      exact List.lookup_isSome_iff.2 ⟨entry, hentry, beq_self_eq_true _⟩

theorem nodup_keys_setAll (h : (fields.map (·.1)).Nodup) (other : Fields) :
    ((fields.setAll other).map (·.1)).Nodup := by
  induction other generalizing fields with
  | nil => exact h
  | cons entry other ih => exact ih (nodup_keys_set h entry.1 entry.2)

theorem get?_setAll (h : (other.map (·.1)).Nodup) (fields : Fields) (key : String) :
    (fields.setAll other).get? key = (other.get? key).or (fields.get? key) := by
  induction other generalizing fields with
  | nil => rfl
  | cons entry other ih =>
      rw [List.map_cons, List.nodup_cons] at h
      change ((fields.set entry.1 entry.2).setAll other).get? key = _
      rw [ih h.2, get?_set, get?_cons]
      by_cases hkey : key = entry.1
      · rw [if_pos hkey, if_pos hkey, get?_eq_none_of_not_mem (hkey ▸ h.1)]
        rfl
      · rw [if_neg hkey, if_neg hkey]

end Fields

namespace World

variable {w : World} {className : String} {id : Nat} {fields : Fields}

theorem state?_push (w : World) (className : String) (fields : Fields) :
    ({ w with states := w.states.push fields } : World).state? (.object className w.states.size) =
      some fields :=
  Array.getElem?_push_size

theorem state?_set (h : w.state? (.object className id) = some fields) (new : Fields) :
    ({ w with states := w.states.setIfInBounds id new } : World).state? (.object className id) =
      some new := by
  have hid : id < w.states.size := (Array.getElem?_eq_some_iff.1 h).1
  exact Array.getElem?_setIfInBounds_self_of_lt hid

end World

/-- A function takes so many arguments, the receiver among them, and has a body. -/
structure Function.Does (f : Function) (arity : Nat) (body : Body) : Prop where
  body : f.body = body
  binds : f.parameters.binds arity = true

/-- A class has instances. -/
def Universe.HasInstances (u : Universe) (className : String) : Prop :=
  ∃ info, u.classes.find? (.declared className) = some info ∧ info.isContract = false

namespace Action

variable {u : Universe} {w : World} {f : Function} {className : String} {id : Nat}
  {fields : Fields}

theorem run_mapM_traced {α γ : Type} {f : γ → Action World α} {outcome : γ → Except Failure α}
    {cs : List γ} (h : ∀ c ∈ cs, ∀ trace, ∃ trace',
      (f c).run { w with trace } = (outcome c, { w with trace := trace' })) (trace : Array String) :
    ∃ trace', (cs.mapM f).run { w with trace } = (cs.mapM outcome, { w with trace := trace' }) := by
  induction cs generalizing trace with
  | nil => exact ⟨trace, rfl⟩
  | cons c cs ih =>
      obtain ⟨trace₁, hhead⟩ := h c List.mem_cons_self trace
      obtain ⟨trace₂, htail⟩ := ih (fun other hother => h other (List.mem_cons_of_mem _ hother)) trace₁
      rw [List.mapM_cons, List.mapM_cons, run_bind, hhead]
      rcases outcome c with failure | a
      · exact ⟨trace₁, rfl⟩
      · dsimp only
        rw [run_bind, htail]
        rcases cs.mapM outcome with failure | as
        · exact ⟨trace₂, rfl⟩
        · exact ⟨trace₂, rfl⟩

/-- A world after a call of a function, with the states given. -/
def afterCall (w : World) (f : Function) (states : Array Fields) : World :=
  { w with states, trace := w.trace.push f.label }

theorem run_fieldsOf_ok {v : Value} (h : w.state? v = some fields) :
    (fieldsOf v).run w = (.ok fields, w) := by
  rw [run_fieldsOf, h]
  rfl

theorem run_setField (h : w.state? (.object className id) = some fields) (key : String)
    (value : Value) :
    (setField (.object className id) key value).run w =
      (.ok (), { w with states := w.states.setIfInBounds id (fields.set key value) }) := by
  unfold setField
  rw [run_bind, run_fieldsOf_ok h]
  rfl

theorem run_instantiate (h : u.HasInstances className) (w : World) :
    (instantiate u (.declared className)).run w =
      (.ok (.object className w.states.size),
        { w with states := w.states.push (u.initialFields (.declared className)) }) := by
  obtain ⟨info, hfind, hcontract⟩ := h
  unfold instantiate
  rw [hfind]
  dsimp only
  rw [hcontract]
  rfl

theorem run_callFunction {args : List Value} {body : Body} (h : f.Does args.length body)
    (w : World) :
    (callFunction u f args).run w = (runBody u body args).run (afterCall w f w.states) := by
  unfold callFunction
  rw [if_pos h.binds, run_bind, h.body]
  rfl

theorem run_callFunction_get {key : String} {fallback : Option Value}
    (h : f.Does 1 (.get key fallback)) (hstate : w.state? (.object className id) = some fields) :
    (callFunction u f [.object className id]).run w =
      (match (fields.get? key).or fallback with
        | some value => .ok value
        | none => .error (.raised .keyError key), afterCall w f w.states) := by
  have hcalled : (afterCall w f w.states).state? (.object className id) = some fields := hstate
  rw [run_callFunction h]
  change (fieldsOf (.object className id) >>= _ : Action World Value).run _ = _
  rw [run_bind, run_fieldsOf_ok hcalled]
  dsimp only
  cases fields.get? key <;> cases fallback <;> rfl

theorem run_callFunction_isSet {key : String} (h : f.Does 1 (.isSet key))
    (hstate : w.state? (.object className id) = some fields) :
    (callFunction u f [.object className id]).run w =
      (.ok (.bool (fields.has key)), afterCall w f w.states) := by
  have hcalled : (afterCall w f w.states).state? (.object className id) = some fields := hstate
  rw [run_callFunction h]
  change (fieldsOf (.object className id) >>= _ : Action World Value).run _ = _
  rw [run_bind, run_fieldsOf_ok hcalled]
  rfl

theorem run_callFunction_set {key : String} (h : f.Does 2 (.set key)) (value : Value)
    (hstate : w.state? (.object className id) = some fields) :
    (callFunction u f [.object className id, value]).run w =
      (.ok (.object className id),
        afterCall w f (w.states.setIfInBounds id (fields.set key value))) := by
  have hcalled : (afterCall w f w.states).state? (.object className id) = some fields := hstate
  rw [run_callFunction h]
  change (setField (.object className id) key value >>= _ : Action World Value).run _ = _
  rw [run_bind, run_setField hcalled]
  rfl

theorem run_setFields_eq (other : Fields) (h : w.state? (.object className id) = some fields) :
    (forIn other PUnit.unit fun entry _ => do
        setField (.object className id) entry.1 entry.2
        return ForInStep.yield PUnit.unit : Action World PUnit).run w =
      (.ok PUnit.unit, { w with states := w.states.setIfInBounds id (fields.setAll other) }) := by
  induction other generalizing w fields with
  | nil =>
      have hkept : w.states.setIfInBounds id fields = w.states := by
        refine Array.ext_getElem? fun k => ?_
        rw [Array.getElem?_setIfInBounds]
        split
        · next hk =>
            rw [if_pos (Array.getElem?_eq_some_iff.1 h).1, ← hk]
            exact h.symm
        · rfl
      change (Except.ok PUnit.unit, w) = (_, { w with states := w.states.setIfInBounds id fields })
      rw [hkept]
  | cons entry other ih =>
      have hset := World.state?_set h (fields.set entry.1 entry.2)
      rw [List.forIn_cons, bind_assoc, run_bind, run_setField h]
      simp only [pure_bind]
      rw [ih hset]
      dsimp only
      rw [Array.setIfInBounds_setIfInBounds]
      rfl

theorem run_setFields (other : Fields) (h : w.state? (.object className id) = some fields) :
    ∃ w', (forIn other PUnit.unit fun entry _ => do
        setField (.object className id) entry.1 entry.2
        return ForInStep.yield PUnit.unit : Action World PUnit).run w = (.ok PUnit.unit, w') ∧
      w'.state? (.object className id) = some (fields.setAll other) :=
  ⟨_, run_setFields_eq other h, World.state?_set h _⟩

theorem run_callFunction_build {name made : String} (h : f.Does 1 (.build name []))
    (hname : u.classNamed? name = some (.declared made)) (hinstances : u.HasInstances made)
    (hstate : w.state? (.object className id) = some fields) :
    ∃ built w', (callFunction u f [.object className id]).run w = (.ok (.object made built), w') ∧
      w'.state? (.object made built) =
        some ((u.initialFields (.declared made)).setAll fields) := by
  have hcalled : (afterCall w f w.states).state? (.object className id) = some fields := hstate
  obtain ⟨w', hcopy, hbuilt⟩ := run_setFields fields
    (World.state?_push (afterCall w f w.states) made (u.initialFields (.declared made)))
  refine ⟨_, w', ?_, hbuilt⟩
  rw [run_callFunction h]
  change (fieldsOf (.object className id) >>= _ : Action World Value).run _ = _
  rw [run_bind, run_fieldsOf_ok hcalled]
  dsimp only [List.find?_nil]
  rw [hname]
  dsimp only
  rw [run_bind, run_instantiate hinstances]
  dsimp only
  rw [run_bind, hcopy]
  rfl

end Action

end RecordBinding
