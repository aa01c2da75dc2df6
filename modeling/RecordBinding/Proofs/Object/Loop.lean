import RecordBinding.Proofs.Object.Agreement

namespace RecordBinding

/-- The members of a list lead from one state to another, one after the other. -/
inductive Steps {α σ : Type} (step : α → σ → σ → Prop) : List α → σ → σ → Prop
  | nil {s : σ} : Steps step [] s s
  | cons {a : α} {rest : List α} {s s₁ s₂ : σ} (h : step a s s₁) (hrest : Steps step rest s₁ s₂) :
      Steps step (a :: rest) s s₂

namespace Action

variable {σ ω α : Type} {f : α → Action σ Unit}

theorem forM_cons (a : α) (l : List α) : (a :: l).forM f = f a >>= fun _ => l.forM f := rfl

end Action

end RecordBinding
