import RecordBinding.Proofs.Object.Bodies

namespace RecordBinding

namespace World

/-- An instance has the same state in two worlds. -/
def SameAt (id : Nat) (w w' : World) : Prop :=
  w.states[id]? = w'.states[id]?

/-- A value is an instance that came into being on the way from one world to another. -/
def Creates (w w₁ : World) (v : Value) : Prop :=
  ∃ className id fields, v = .object className id ∧ w.states.size ≤ id ∧ w₁.states[id]? = some fields

end World

/-- Two calls, from one world each, end alike: with one failure, with one value that neither of them
created, or with an instance that each of them created, of one class and in one state. -/
inductive SameEnd (w w' : World) : Except Failure Value × World → Except Failure Value × World → Prop
  | fails {failure : Failure} {w₁ w₁' : World} : SameEnd w w' (.error failure, w₁) (.error failure, w₁')
  | answers {v : Value} {w₁ w₁' : World} (h : ¬ w.Creates w₁ v) (h' : ¬ w'.Creates w₁' v) :
      SameEnd w w' (.ok v, w₁) (.ok v, w₁')
  | creates {className : String} {id id' : Nat} {fields : Fields} {w₁ w₁' : World}
      (hid : w.states.size ≤ id) (hstate : w₁.states[id]? = some fields)
      (hid' : w'.states.size ≤ id') (hstate' : w₁'.states[id']? = some fields) :
      SameEnd w w' (.ok (.object className id), w₁) (.ok (.object className id'), w₁')

namespace Action

/-- An action keeps to an instance: it reads the state of no other one, and changes that of no other one,
but it may make new ones. -/
structure KeepsTo (id : Nat) (x : Action World Value) : Prop where
  reads : ∀ w w', id < w.states.size → id < w'.states.size → w.SameAt id w' →
    SameEnd w w' (x.run w) (x.run w') ∧ (x.run w).2.SameAt id (x.run w').2
  others : ∀ w k, k < w.states.size → k ≠ id → (x.run w).2.SameAt k w
  grows : ∀ w, w.states.size ≤ (x.run w).2.states.size

end Action

/-- What may come of a call that keeps to its receiver: a failure, an answer, another state of the
receiver, or a new instance. -/
inductive Effect where
  | fail (failure : Failure)
  | answer (v : Value)
  | write (fields : Fields)
  | create (className : String) (fields : Fields)

/-- The result of an effect, and the states of the instances after it. -/
def Effect.run (className : String) (id : Nat) :
    Effect → Array Fields → Except Failure Value × Array Fields
  | fail failure, states => (.error failure, states)
  | answer v, states => (.ok v, states)
  | write fields, states => (.ok (.object className id), states.setIfInBounds id fields)
  | create made fields, states => (.ok (.object made states.size), states.push fields)

namespace Action

/-- An action has an effect that depends on the state of one instance. -/
def HasEffect (className : String) (id : Nat) (x : Action World Value)
    (effect : Option Fields → Effect) : Prop :=
  ∀ w, ((x.run w).1, (x.run w).2.states) = (effect w.states[id]?).run className id w.states

theorem HasEffect.keepsTo {className : String} {id : Nat} {x : Action World Value}
    {effect : Option Fields → Effect} (h : HasEffect className id x effect) : KeepsTo id x := by
  refine ⟨fun w w' hid hid' hsame => ?reads, fun w k hk hne => ?others, fun w => ?grows⟩
  case reads =>
    have hrun := h w
    have hrun' := h w'
    rw [← show w.states[id]? = w'.states[id]? from hsame] at hrun'
    generalize x.run w = ended at hrun ⊢
    generalize x.run w' = ended' at hrun' ⊢
    obtain ⟨result, w₁⟩ := ended
    obtain ⟨result', w₁'⟩ := ended'
    -- an instance in a state that was not added was there before
    have hold : ∀ {w w₁ : World} {v : Value}, w₁.states.size = w.states.size → ¬ w.Creates w₁ v := by
      rintro w w₁ v hsize ⟨_, k, fields, -, hk, hstate⟩
      have hlt := (Array.getElem?_eq_some_iff.1 hstate).1
      omega
    unfold World.SameAt at hsame ⊢
    cases heffect : effect w.states[id]? with
    | fail failure =>
        rw [heffect] at hrun hrun'
        obtain ⟨rfl, hstates⟩ := Prod.mk.inj hrun
        obtain ⟨rfl, hstates'⟩ := Prod.mk.inj hrun'
        exact ⟨.fails, by rw [hstates, hstates', hsame]⟩
    | answer v =>
        rw [heffect] at hrun hrun'
        obtain ⟨rfl, hstates⟩ := Prod.mk.inj hrun
        obtain ⟨rfl, hstates'⟩ := Prod.mk.inj hrun'
        exact ⟨.answers (hold (congrArg _ hstates)) (hold (congrArg _ hstates')),
          by rw [hstates, hstates', hsame]⟩
    | write fields =>
        rw [heffect] at hrun hrun'
        obtain ⟨rfl, hstates⟩ := Prod.mk.inj hrun
        obtain ⟨rfl, hstates'⟩ := Prod.mk.inj hrun'
        refine ⟨.answers (hold ?_) (hold ?_), ?_⟩
        · exact (congrArg _ hstates).trans Array.size_setIfInBounds
        · exact (congrArg _ hstates').trans Array.size_setIfInBounds
        · rw [hstates, hstates', Array.getElem?_setIfInBounds_self_of_lt hid,
            Array.getElem?_setIfInBounds_self_of_lt hid']
    | create made fields =>
        rw [heffect] at hrun hrun'
        obtain ⟨rfl, hstates⟩ := Prod.mk.inj hrun
        obtain ⟨rfl, hstates'⟩ := Prod.mk.inj hrun'
        refine ⟨.creates (Nat.le_refl _) (hstates ▸ Array.getElem?_push_size) (Nat.le_refl _)
          (hstates' ▸ Array.getElem?_push_size), ?_⟩
        rw [hstates, hstates', Array.getElem?_push, Array.getElem?_push, if_neg (Nat.ne_of_lt hid),
          if_neg (Nat.ne_of_lt hid'), hsame]
  case others =>
    rw [World.SameAt, show (x.run w).2.states = _ from congrArg Prod.snd (h w)]
    cases effect w.states[id]? with
    | fail failure => rfl
    | answer v => rfl
    | write fields => exact Array.getElem?_setIfInBounds_ne hne.symm
    | create made fields =>
        dsimp only [Effect.run]
        rw [Array.getElem?_push, if_neg (Nat.ne_of_lt hk)]
  case grows =>
    rw [show (x.run w).2.states = _ from congrArg Prod.snd (h w)]
    cases effect w.states[id]? <;> simp [Effect.run]

theorem KeepsTo.of_error {x : Action World Value} {failure : Failure}
    (h : ∀ w, x.run w = (.error failure, w)) (id : Nat) : KeepsTo id x := by
  have heffect : HasEffect "" id x fun _ => .fail failure := fun w => by rw [h]; rfl
  exact heffect.keepsTo

section Calls

variable {u : Universe}

theorem instantiate_cases (u : Universe) (c : ClassId) :
    (∃ failure, ∀ w, (instantiate u c).run w = (.error failure, w)) ∨
      (∃ v, (∀ w : World, w.state? v = none) ∧ ∀ w, (instantiate u c).run w = (.ok v, w)) ∨
      ∃ made fields, ∀ w, (instantiate u c).run w =
        (.ok (.object made w.states.size), { w with states := w.states.push fields }) := by
  unfold instantiate
  split
  · next b => exact .inr (.inl ⟨emptyOf b, fun w => by cases b <;> rfl, fun w => rfl⟩)
  · exact .inr (.inl ⟨_, fun w => rfl, fun w => rfl⟩)
  · split
    · split
      · exact .inl ⟨_, fun w => rfl⟩
      · exact .inr (.inr ⟨_, _, fun w => rfl⟩)
    · exact .inl ⟨_, fun w => rfl⟩
  · exact .inl ⟨_, fun w => rfl⟩

variable {className : String} {id : Nat}

theorem exists_hasEffect_instantiate (u : Universe) (c : ClassId) :
    ∃ effect, HasEffect className id (instantiate u c) effect := by
  rcases instantiate_cases u c with ⟨failure, hrun⟩ | ⟨v, -, hrun⟩ | ⟨made, fields, hrun⟩
  · exact ⟨fun _ => .fail failure, fun w => by rw [hrun]; rfl⟩
  · exact ⟨fun _ => .answer v, fun w => by rw [hrun]; rfl⟩
  · exact ⟨fun _ => .create made fields, fun w => by rw [hrun]; rfl⟩

theorem run_setFields_none {v : Value} {w : World} (h : w.state? v = none) (other : Fields) :
    (forIn other PUnit.unit fun entry _ => do
        setField v entry.1 entry.2
        return ForInStep.yield PUnit.unit : Action World PUnit).run w =
      (if other.isEmpty then .ok PUnit.unit else .error (.misuse .attributeError), w) := by
  cases other with
  | nil => rfl
  | cons entry other =>
      have hset : (setField v entry.1 entry.2).run w = (.error (.misuse .attributeError), w) := by
        unfold setField
        rw [run_bind, run_fieldsOf, h]
        rfl
      rw [List.forIn_cons, bind_assoc, run_bind, hset]
      rfl

section Build

variable {u : Universe} {name : String} {needed : List String} {v : Value} {args : List Value} {w : World}
  {fields : Fields}

theorem run_build_of_none (h : w.state? v = none) :
    (runBody u (.build name needed) (v :: args)).run w = (.error (.misuse .attributeError), w) := by
  unfold runBody
  dsimp only [List.headD_cons]
  rw [run_bind, run_fieldsOf, h]
  rfl

theorem run_build_of_missing (h : w.state? v = some fields) {key : String}
    (hmissing : (needed.find? fun key => !fields.has key) = some key) :
    (runBody u (.build name needed) (v :: args)).run w =
      (.error (.raised .valueError ("missing " ++ key)), w) := by
  unfold runBody
  dsimp only [List.headD_cons]
  rw [run_bind, run_fieldsOf_ok h]
  simp only [hmissing]
  rfl

theorem run_build_of_unknown (h : w.state? v = some fields)
    (hmissing : (needed.find? fun key => !fields.has key) = none) (hname : u.classNamed? name = none) :
    (runBody u (.build name needed) (v :: args)).run w = (.error (.misuse (.other "NameError")), w) := by
  unfold runBody
  dsimp only [List.headD_cons]
  rw [run_bind, run_fieldsOf_ok h]
  simp only [hmissing, hname]
  rfl

theorem run_build (h : w.state? v = some fields)
    (hmissing : (needed.find? fun key => !fields.has key) = none) {c : ClassId}
    (hname : u.classNamed? name = some c) :
    (runBody u (.build name needed) (v :: args)).run w =
      (do
        let made ← instantiate u c
        for entry in fields do
          setField made entry.1 entry.2
        return made : Action World Value).run w := by
  unfold runBody
  dsimp only [List.headD_cons]
  rw [run_bind, run_fieldsOf_ok h]
  simp only [hmissing, hname]

end Build

theorem exists_hasEffect_build (u : Universe) (name : String) (needed : List String) (args : List Value) :
    ∃ effect, HasEffect className id
      (runBody u (.build name needed) (.object className id :: args)) effect := by
  let missing (fields : Fields) := needed.find? fun key => !fields.has key
  let built (fill : Fields → Effect) : Option Fields → Effect := fun state =>
    state.elim (.fail (.misuse .attributeError)) fun fields =>
      (missing fields).elim (fill fields) fun key => .fail (.raised .valueError ("missing " ++ key))
  -- what remains is the effect on the states once no key is missing
  have hbuilt : ∀ fill : Fields → Effect, (∀ (w : World) (fields : Fields),
      w.state? (.object className id) = some fields → missing fields = none →
      let ended := (runBody u (.build name needed) (.object className id :: args)).run w
      (ended.1, ended.2.states) = (fill fields).run className id w.states) →
      ∃ effect, HasEffect className id
        (runBody u (.build name needed) (.object className id :: args)) effect := by
    intro fill hfill
    refine ⟨built fill, fun w => ?_⟩
    cases hstate : w.states[id]? with
    | none =>
        rw [run_build_of_none (v := .object className id) hstate]
        rfl
    | some fields =>
        dsimp only [built, Option.elim]
        change _ = ((missing fields).elim (fill fields) _).run className id w.states
        cases hmissing : missing fields with
        | some key =>
            rw [run_build_of_missing (v := .object className id) hstate hmissing]
            rfl
        | none => exact hfill w fields hstate hmissing
  cases hname : u.classNamed? name with
  | none =>
      refine hbuilt (fun _ => .fail (.misuse (.other "NameError"))) fun w fields hstate hmissing => ?_
      rw [run_build_of_unknown hstate hmissing hname]
      rfl
  | some c =>
      rcases instantiate_cases u c with ⟨failure, hrun⟩ | ⟨v, hv, hrun⟩ | ⟨made, initial, hrun⟩
      · refine hbuilt (fun _ => .fail failure) fun w fields hstate hmissing => ?_
        rw [run_build hstate hmissing hname, run_bind, hrun]
        rfl
      · refine hbuilt (fun fields => if fields.isEmpty then .answer v else .fail (.misuse .attributeError))
          fun w fields hstate hmissing => ?_
        rw [run_build hstate hmissing hname, run_bind, hrun]
        dsimp only
        rw [run_bind, run_setFields_none (hv w)]
        cases fields <;> rfl
      · refine hbuilt (fun fields => .create made (initial.setAll fields)) fun w fields hstate hmissing => ?_
        rw [run_build hstate hmissing hname, run_bind, hrun]
        dsimp only
        rw [run_bind, run_setFields_eq fields (World.state?_push w made initial)]
        have hset : (w.states.push initial).setIfInBounds w.states.size (initial.setAll fields) =
            w.states.push (initial.setAll fields) := by
          simp [Array.setIfInBounds, Array.set_push]
        exact congrArg (Except.ok (Value.object made w.states.size), ·) hset

theorem exists_hasEffect_runBody (u : Universe) (body : Body) (args : List Value) :
    ∃ effect, HasEffect className id (runBody u body (.object className id :: args)) effect := by
  have hfields : ∀ w : World, (fieldsOf (.object className id)).run w =
      (w.states[id]?.elim (.error (.misuse .attributeError)) .ok, w) := fun w => run_fieldsOf _ w
  unfold runBody
  dsimp only [List.headD_cons, List.tail_cons]
  cases body with
  | nothing => exact ⟨fun _ => .answer .null, fun w => rfl⟩
  | get key fallback =>
      refine ⟨fun state => state.elim (.fail (.misuse .attributeError)) fun fields =>
        ((fields.get? key).or fallback).elim (.fail (.raised .keyError key)) .answer, fun w => ?_⟩
      dsimp only
      rw [run_bind, hfields]
      cases w.states[id]? with
      | none => rfl
      | some fields =>
          dsimp only [Option.elim]
          cases fields.get? key <;> cases fallback <;> rfl
  | isSet key =>
      refine ⟨fun state => state.elim (.fail (.misuse .attributeError)) fun fields =>
        .answer (.bool (fields.has key)), fun w => ?_⟩
      dsimp only
      rw [run_bind, hfields]
      cases w.states[id]? <;> rfl
  | set key =>
      refine ⟨fun state => state.elim (.fail (.misuse .attributeError)) fun fields =>
        .write (fields.set key (args.headD .null)), fun w => ?_⟩
      dsimp only
      unfold setField
      rw [bind_assoc, run_bind, hfields]
      cases w.states[id]? <;> rfl
  | create name =>
      dsimp only
      split
      · exact exists_hasEffect_instantiate u _
      · exact ⟨fun _ => .fail _, fun w => rfl⟩
  | createFirst => exact ⟨fun _ => .fail _, fun w => rfl⟩
  | first => exact ⟨fun _ => .answer _, fun w => rfl⟩
  | build name needed => exact exists_hasEffect_build u name needed args
  | give value => exact ⟨fun _ => .answer value, fun w => rfl⟩
  | fail kind message => exact ⟨fun _ => .fail _, fun w => rfl⟩

theorem callFunction_keepsTo (u : Universe) (f : Function) (className : String) (id : Nat)
    (args : List Value) : KeepsTo id (callFunction u f (.object className id :: args)) := by
  obtain ⟨effect, heffect⟩ : ∃ effect,
      HasEffect className id (runBody u f.body (.object className id :: args)) effect :=
    exists_hasEffect_runBody u f.body args
  unfold callFunction
  split
  · have hcalled : HasEffect className id
        (called f.label >>= fun _ => runBody u f.body (.object className id :: args)) effect := by
      intro w
      rw [run_bind]
      exact heffect { w with trace := w.trace.push f.label }
    exact hcalled.keepsTo
  · exact .of_error (fun w => rfl) id

end Calls

end Action

end RecordBinding
