import RecordBinding.Binding.Accessor
import RecordBinding.Proofs.Object.Agreement

namespace RecordBinding

variable {σ τ α β : Type}

/-- Two runs end alike: with results and states that are related, or with one and the same failure in
states that are. -/
inductive EndAlike (E : σ → τ → Prop) (Q : α → β → σ → τ → Prop) :
    Except Failure α × σ → Except Failure β × τ → Prop
  | ok {a : α} {b : β} {s : σ} {t : τ} (h : Q a b s t) : EndAlike E Q (.ok a, s) (.ok b, t)
  | error {failure : Failure} {s : σ} {t : τ} (h : E s t) :
      EndAlike E Q (.error failure, s) (.error failure, t)

theorem EndAlike.eq_and {R : σ → τ → Prop} {ended : Except Failure α × σ} {ended' : Except Failure α × τ}
    (h : EndAlike R (fun a b s t => a = b ∧ R s t) ended ended') :
    ended.1 = ended'.1 ∧ R ended.2 ended'.2 := by
  cases h with
  | ok h => exact ⟨congrArg Except.ok h.1, h.2⟩
  | error h => exact ⟨rfl, h⟩

namespace Action

/-- From states that `P` relates two actions end alike. -/
def Simulates (E P : σ → τ → Prop) (Q : α → β → σ → τ → Prop) (x : Action σ α) (y : Action τ β) :
    Prop :=
  ∀ s t, P s t → EndAlike E Q (x.run s) (y.run t)

namespace Simulates

variable {E P : σ → τ → Prop} {Q : α → β → σ → τ → Prop} {x : Action σ α} {y : Action τ β}

theorem pure {a : α} {b : β} (h : ∀ s t, P s t → Q a b s t) :
    Simulates E P Q (Pure.pure a) (Pure.pure b) :=
  fun s t hst => .ok (h s t hst)

theorem throw {failure : Failure} (h : ∀ s t, P s t → E s t) :
    Simulates E P Q (throw failure) (throw failure) :=
  fun s t hst => .error (h s t hst)

theorem bind {α' β' : Type} {Q' : α' → β' → σ → τ → Prop} {f : α → Action σ α'} {g : β → Action τ β'}
    (h : Simulates E P Q x y) (hfg : ∀ a b, Simulates E (Q a b) Q' (f a) (g b)) :
    Simulates E P Q' (x >>= f) (y >>= g) := by
  intro s t hst
  have hends := h s t hst
  rw [run_bind, run_bind]
  generalize x.run s = ended at hends
  generalize y.run t = ended' at hends
  cases hends with
  | ok hab => exact hfg _ _ _ _ hab
  | error hE => exact .error hE

theorem guarded (h : Simulates E P Q x y) (operation : Operation) (target : TypeExpr)
    (property : Option String) :
    Simulates E P Q (guarded operation target property x) (Action.guarded operation target property y) := by
  intro s t hst
  have hends := h s t hst
  unfold Action.guarded
  dsimp only [ExceptT.run] at hends ⊢
  generalize x s = ended at hends
  generalize y t = ended' at hends
  cases hends with
  | ok hab => exact .ok hab
  | error hE => exact .error hE

end Simulates

end Action

end RecordBinding
