import Mathlib.Data.List.Forall2
import RecordBinding.Object.Call

namespace RecordBinding

theorem exists_of_mem_right {α β : Type} {r : α → β → Prop} {xs : List α} {ys : List β}
    (h : List.Forall₂ r xs ys) {y : β} (hy : y ∈ ys) : ∃ x ∈ xs, r x y := by
  induction h with
  | nil => cases hy
  | @cons x z xs zs hxz _ ih =>
      rcases List.mem_cons.1 hy with rfl | hy
      · exact ⟨x, List.mem_cons_self, hxz⟩
      · obtain ⟨x', hx', hr⟩ := ih hy
        exact ⟨x', List.mem_cons_of_mem _ hx', hr⟩

/-- The kind of the failure that a computation ends with. -/
def Failure.kindOf? {α : Type} : Except Failure α → Option ErrorKind
  | .error failure => some failure.kind
  | .ok _ => none

theorem Failure.exists_of_kindOf? {α : Type} {x : Except Failure α} {kind : ErrorKind}
    (h : kindOf? x = some kind) : ∃ failure, x = .error failure ∧ failure.kind = kind := by
  cases x with
  | error failure => exact ⟨failure, rfl, Option.some.inj h⟩
  | ok a => cases h

/-- Two outcomes agree: both succeed with related results, or both fail with errors of one kind. -/
inductive Agree {α β : Type} (r : α → β → Prop) : Except Failure α → Except Failure β → Prop
  | ok {a : α} {b : β} (h : r a b) : Agree r (.ok a) (.ok b)
  | error {e e' : Failure} (h : e.kind = e'.kind) : Agree r (.error e) (.error e')

namespace Agree

variable {α β γ : Type} {r : α → β → Prop} {x : Except Failure α} {y : Except Failure β}

theorem mono {q : α → β → Prop} (h : Agree r x y) (hrq : ∀ a b, r a b → q a b) : Agree q x y := by
  cases h with
  | ok h => exact .ok (hrq _ _ h)
  | error h => exact .error h

theorem refl {r : α → α → Prop} (hr : ∀ a, r a a) (x : Except Failure α) : Agree r x x := by
  cases x with
  | ok a => exact .ok (hr a)
  | error e => exact .error rfl

theorem exists_ok_right {a : α} (h : Agree r (.ok a) y) : ∃ b, y = .ok b ∧ r a b := by
  cases h with
  | ok h => exact ⟨_, rfl, h⟩

theorem exists_ok_left {b : β} (h : Agree r x (.ok b)) : ∃ a, x = .ok a ∧ r a b := by
  cases h with
  | ok h => exact ⟨_, rfl, h⟩

theorem map_some (h : Agree r x y) :
    Agree (fun found b => ∃ a, found = some a ∧ r a b) (x.map some) y := by
  cases h with
  | ok h => exact .ok ⟨_, rfl, h⟩
  | error h => exact .error h

theorem bind {α' β' : Type} {q : α' → β' → Prop} {f : α → Except Failure α'}
    {g : β → Except Failure β'} (h : Agree r x y) (hfg : ∀ a b, r a b → Agree q (f a) (g b)) :
    Agree q (x >>= f) (y >>= g) := by
  cases h with
  | ok h => exact hfg _ _ h
  | error h => exact .error h

end Agree

namespace Action

variable {σ τ α β : Type}

theorem run_bind (x : Action σ α) (f : α → Action σ β) (s : σ) :
    (x >>= f).run s =
      match x.run s with
      | (.ok a, s) => (f a).run s
      | (.error e, s) => (.error e, s) := by
  change (ExceptT.bind x f) s = _
  simp only [ExceptT.bind, ExceptT.mk, bind, StateT.bind, ExceptT.run]
  rcases x s with ⟨result, s'⟩
  cases result <;> rfl

theorem run_bind_ok {x : Action σ α} {f : α → Action σ β} {s s' : σ} {b : β}
    (h : (x >>= f).run s = (.ok b, s')) :
    ∃ a t, x.run s = (.ok a, t) ∧ (f a).run t = (.ok b, s') := by
  rw [run_bind] at h
  rcases hx : x.run s with ⟨a | a, t⟩
  · rw [hx] at h
    cases h
  · rw [hx] at h
    exact ⟨a, t, rfl, h⟩

theorem exists_of_isOk {x : Action σ α} {s : σ} (h : (x.run s).1.isOk = true) :
    ∃ a s', x.run s = (.ok a, s') := by
  rcases hx : x.run s with ⟨failure | a, s'⟩
  · rw [hx] at h
    cases h
  · exact ⟨a, s', rfl⟩

theorem run_map (f : α → β) (action : Action σ α) (s : σ) :
    (f <$> action).run s = ((action.run s).1.map f, (action.run s).2) := by
  rw [map_eq_pure_bind, run_bind]
  rcases action.run s with ⟨_ | _, _⟩ <;> rfl

theorem run_fieldsOf (v : Value) (w : World) :
    (fieldsOf v).run w = ((w.state? v).elim (.error (.misuse .attributeError)) .ok, w) := by
  have hget : (get : Action World World).run w = (.ok w, w) := rfl
  unfold fieldsOf
  rw [run_bind, hget]
  dsimp only
  cases w.state? v <;> rfl

theorem run_ofExcept_ok {x : Except Failure α} {s s' : σ} {a : α}
    (h : (ofExcept x).run s = (.ok a, s')) : x = .ok a :=
  congrArg Prod.fst h

theorem run_mapM_ok {γ : Type} {f : γ → Action σ α} {cs : List γ} {as : List α} {s s' : σ}
    (h : (cs.mapM f).run s = (.ok as, s')) :
    List.Forall₂ (fun c a => ∃ t t', (f c).run t = (.ok a, t')) cs as := by
  induction cs generalizing as s with
  | nil =>
      cases h
      exact .nil
  | cons c cs ih =>
      rw [List.mapM_cons] at h
      obtain ⟨a, t, hhead, h⟩ := run_bind_ok h
      obtain ⟨rest, t', htail, h⟩ := run_bind_ok h
      cases h
      exact .cons ⟨s, t, hhead⟩ (ih htail)

/-- Two actions are similar when they end alike, whatever the states are that they start from. -/
def Similar (r : α → β → Prop) (x : Action σ α) (y : Action τ β) : Prop :=
  ∀ s t, Agree r (x.run s).1 (y.run t).1

namespace Similar

variable {r : α → β → Prop} {x : Action σ α} {y : Action τ β}

theorem pure {a : α} {b : β} (h : r a b) :
    Similar r (Pure.pure a : Action σ α) (Pure.pure b : Action τ β) :=
  fun _ _ => .ok h

theorem throw {e e' : Failure} (h : e.kind = e'.kind) :
    Similar r (throw e : Action σ α) (throw e' : Action τ β) :=
  fun _ _ => .error h

theorem ofExcept {a : Except Failure α} {b : Except Failure β} (h : Agree r a b) :
    Similar r (ofExcept a : Action σ α) (Action.ofExcept b : Action τ β) :=
  fun _ _ => h

theorem after {α' β' : Type} {q : α' → β' → Prop} {f : α → Action σ α'} {g : β → Action τ β'} {s : σ}
    {t : τ} (h : Agree r (x.run s).1 (y.run t).1) (hfg : ∀ a b, r a b → Similar q (f a) (g b)) :
    Agree q ((x >>= f).run s).1 ((y >>= g).run t).1 := by
  rw [run_bind, run_bind]
  rcases hx : x.run s with ⟨a, s'⟩
  rcases hy : y.run t with ⟨b, t'⟩
  rw [hx, hy] at h
  cases h with
  | ok hab => exact hfg _ _ hab s' t'
  | error he => exact .error he

theorem bind {α' β' : Type} {q : α' → β' → Prop} {f : α → Action σ α'} {g : β → Action τ β'}
    (h : Similar r x y) (hfg : ∀ a b, r a b → Similar q (f a) (g b)) :
    Similar q (x >>= f) (y >>= g) :=
  fun s t => after (h s t) hfg

theorem mapM {γ δ : Type} {p : γ → δ → Prop} {f : γ → Action σ α} {g : δ → Action τ β}
    {cs : List γ} {ds : List δ} (h : List.Forall₂ p cs ds)
    (hfg : ∀ c d, p c d → Similar r (f c) (g d)) :
    Similar (List.Forall₂ r) (cs.mapM f) (ds.mapM g) := by
  induction h with
  | nil => exact pure .nil
  | cons hcd _ ih =>
      rw [List.mapM_cons, List.mapM_cons]
      exact (hfg _ _ hcd).bind fun a b hab => ih.bind fun as bs habs => pure (.cons hab habs)

end Similar

end Action

end RecordBinding
