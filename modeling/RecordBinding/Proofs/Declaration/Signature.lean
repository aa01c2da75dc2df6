import Mathlib.Tactic.ByContra
import RecordBinding.Declaration.Function

namespace RecordBinding

def Parameter.Collects (p : Parameter) : Prop :=
  p.kind = .rest ∨ p.kind = .keywordRest

instance (p : Parameter) : Decidable p.Collects :=
  inferInstanceAs (Decidable (_ ∨ _))

theorem Parameter.not_collects_of_isPositional {p : Parameter} (h : p.isPositional = true) :
    ¬ p.Collects := by
  rintro (hkind | hkind) <;> simp [isPositional, hkind] at h

/-- What holds of the parameters of every function that can be written: those that take positional
arguments come first, and those that collect the rest have no default. -/
structure Signature.IsLegal (parameters : Signature) : Prop where
  positional : parameters.Pairwise fun p q => q.isPositional = true → p.isPositional = true
  collecting : ∀ p ∈ parameters, p.Collects → p.hasDefault = false

instance (parameters : Signature) : Decidable parameters.IsLegal :=
  have : DecidableRel fun p q : Parameter => q.isPositional = true → p.isPositional = true :=
    fun p q => inferInstanceAs (Decidable (q.isPositional = true → p.isPositional = true))
  decidable_of_iff
    ((parameters.Pairwise fun p q => q.isPositional = true → p.isPositional = true) ∧
      ∀ p ∈ parameters, p.Collects → p.hasDefault = false)
    ⟨fun h => ⟨h.1, h.2⟩, fun h => ⟨h.positional, h.collecting⟩⟩

namespace Signature

theorem binds_zero_iff {parameters : Signature} (hcollecting : ∀ p ∈ parameters, ¬ p.Collects) :
    binds parameters 0 = true ↔ ∀ p ∈ parameters, p.hasDefault = true := by
  induction parameters with
  | nil => simp [binds]
  | cons p ps ih =>
      obtain ⟨hp, hps⟩ := List.forall_mem_cons.1 hcollecting
      cases hkind : p.kind with
      | rest => exact absurd (.inl hkind) hp
      | keywordRest => exact absurd (.inr hkind) hp
      | _ => simp [binds, hkind, ih hps]

theorem binds_eq_false_of_not_positional {parameters : Signature} {count : Nat}
    (hcollecting : ∀ p ∈ parameters, ¬ p.Collects)
    (hpositional : ∀ p ∈ parameters, p.isPositional = false) :
    binds parameters (count + 1) = false := by
  induction parameters with
  | nil => rfl
  | cons p ps ih =>
      obtain ⟨hp, hps⟩ := List.forall_mem_cons.1 hcollecting
      obtain ⟨hkeyword, hkeywords⟩ := List.forall_mem_cons.1 hpositional
      cases hkind : p.kind with
      | rest => exact absurd (.inl hkind) hp
      | keywordRest => exact absurd (.inr hkind) hp
      | keywordOnly => simp [binds, hkind, ih hps hkeywords]
      | _ => simp [Parameter.isPositional, hkind] at hkeyword

theorem binds_cons_succ {p : Parameter} (hp : p.isPositional = true) (parameters : Signature)
    (count : Nat) : binds (p :: parameters) (count + 1) = binds parameters count := by
  cases hkind : p.kind <;> simp_all [Parameter.isPositional, binds]

theorem takes_zero_iff {parameters : Signature} :
    parameters.takes 0 = true ↔ ∀ p ∈ parameters, p.hasDefault = true := by
  have hrequired : parameters.filter Parameter.isRequired = [] ↔
      ∀ p ∈ parameters, p.hasDefault = true := by
    simp [List.filter_eq_nil_iff, Parameter.isRequired]
  rw [← hrequired, takes]
  constructor
  · intro h
    simpa using (Bool.and_eq_true_iff.1 (Bool.and_eq_true_iff.1 h).1).2
  · intro h
    simp [h]

theorem takesExactly_zero_iff {parameters : Signature} (hlegal : parameters.IsLegal) :
    parameters.takesExactly 0 false = true ↔
      parameters.binds 1 = true ∧ ∀ p ∈ parameters, ¬ p.Collects := by
  cases parameters with
  | nil => simp [takesExactly, binds]
  | cons self others =>
      have htakes : takesExactly (self :: others) 0 false = true ↔
          self.isPositional = true ∧ ∀ p ∈ others, p.hasDefault = true := by
        rw [← takes_zero_iff, ← Bool.and_eq_true_iff]
        rfl
      rw [htakes]
      constructor
      · rintro ⟨hpositional, hdefault⟩
        have hcollecting : ∀ p ∈ others, ¬ p.Collects := by
          intro p hp hcollects
          have hnone := hlegal.collecting p (List.mem_cons_of_mem _ hp) hcollects
          rw [hdefault p hp] at hnone
          cases hnone
        rw [binds_cons_succ hpositional, binds_zero_iff hcollecting]
        exact ⟨hdefault, List.forall_mem_cons.2
          ⟨Parameter.not_collects_of_isPositional hpositional, hcollecting⟩⟩
      · rintro ⟨hcall, hcollecting⟩
        have hpositional : self.isPositional = true := by
          -- Otherwise nobody could take the receiver, as nothing positional comes later.
          by_contra hkeyword
          have hall : ∀ p ∈ self :: others, p.isPositional = false := by
            have hlater := (List.pairwise_cons.1 hlegal.positional).1
            refine List.forall_mem_cons.2 ⟨Bool.eq_false_iff.2 hkeyword, fun p hp => ?_⟩
            rw [Bool.eq_false_iff]
            exact fun h => hkeyword (hlater p hp h)
          rw [binds_eq_false_of_not_positional hcollecting hall] at hcall
          cases hcall
        rw [binds_cons_succ hpositional,
          binds_zero_iff (List.forall_mem_cons.1 hcollecting).2] at hcall
        exact ⟨hpositional, hcall⟩

end Signature

/-- A legal signature in which every positional parameter behind one with a default has a default
itself. -/
structure Signature.IsWellFormed (parameters : Signature) : Prop extends
    Signature.IsLegal parameters where
  defaults : parameters.Pairwise fun p q =>
    p.hasDefault = true ∧ q.isPositional = true → q.hasDefault = true

instance (parameters : Signature) : Decidable parameters.IsWellFormed :=
  have : DecidableRel fun p q : Parameter =>
      p.hasDefault = true ∧ q.isPositional = true → q.hasDefault = true :=
    fun _ _ => inferInstanceAs (Decidable (_ ∧ _ → _))
  decidable_of_iff
    (parameters.IsLegal ∧ parameters.Pairwise fun p q =>
      p.hasDefault = true ∧ q.isPositional = true → q.hasDefault = true)
    ⟨fun h => ⟨h.1, h.2⟩, fun h => ⟨h.toIsLegal, h.defaults⟩⟩

namespace Signature

variable {p : Parameter} {parameters : Signature}

theorem IsLegal.tail (h : IsLegal (p :: parameters)) : parameters.IsLegal :=
  ⟨(List.pairwise_cons.1 h.positional).2,
    fun q hq => h.collecting q (List.mem_cons_of_mem _ hq)⟩

theorem IsWellFormed.tail (h : IsWellFormed (p :: parameters)) : parameters.IsWellFormed :=
  ⟨h.toIsLegal.tail, (List.pairwise_cons.1 h.defaults).2⟩

theorem takes_iff {count : Nat} :
    parameters.takes count = true ↔
      (∀ q ∈ parameters, q.hasDefault = false → q.isPositional = true) ∧
        (parameters.filter Parameter.isRequired).length ≤ count ∧
          count ≤ (parameters.filter Parameter.isPositional).length := by
  rw [takes, Bool.and_eq_true, Bool.and_eq_true, decide_eq_true_iff, decide_eq_true_iff, and_assoc]
  simp [Parameter.isRequired, or_iff_not_imp_left]

theorem takes_cons_of_not_positional (hp : p.isPositional = false) (count : Nat) :
    takes (p :: parameters) count = (p.hasDefault && takes parameters count) := by
  rw [Bool.eq_iff_iff, Bool.and_eq_true, takes_iff, takes_iff]
  cases hdefault : p.hasDefault <;> simp [Parameter.isRequired, hp, hdefault]

theorem takes_cons_zero (hp : p.isPositional = true) :
    takes (p :: parameters) 0 = (p.hasDefault && takes parameters 0) := by
  rw [Bool.eq_iff_iff, Bool.and_eq_true, takes_iff, takes_iff]
  cases hdefault : p.hasDefault <;> simp [Parameter.isRequired, hp, hdefault]

theorem takes_cons_succ (hp : p.isPositional = true)
    (hdefaults : ∀ q ∈ parameters, p.hasDefault = true ∧ q.isPositional = true → q.hasDefault = true)
    (count : Nat) : takes (p :: parameters) (count + 1) = takes parameters count := by
  rw [Bool.eq_iff_iff, takes_iff, takes_iff]
  cases hdefault : p.hasDefault with
  | false => simp [Parameter.isRequired, hp, hdefault]
  | true =>
      have hnone : (∀ q ∈ parameters, q.hasDefault = false → q.isPositional = true) →
          parameters.filter Parameter.isRequired = [] := by
        intro hrequired
        rw [List.filter_eq_nil_iff]
        intro q hq hneeded
        have hlacks : q.hasDefault = false := by simpa [Parameter.isRequired] using hneeded
        rw [hdefaults q hq ⟨hdefault, hrequired q hq hlacks⟩] at hlacks
        cases hlacks
      simp only [List.forall_mem_cons, List.filter_cons, Parameter.isRequired, hp, hdefault]
      grind

/-- The parameters take exactly the counts of positional arguments that a call goes through with,
unless one of them collects arguments. -/
theorem takes_iff_binds (h : parameters.IsWellFormed) (count : Nat) :
    parameters.takes count = true ↔
      (∀ q ∈ parameters, ¬ q.Collects) ∧ parameters.binds count = true := by
  induction parameters generalizing count with
  | nil => simp [takes, binds]
  | cons p ps ih =>
      have hdefaults := (List.pairwise_cons.1 h.defaults).1
      have htail := ih h.tail
      have hcollects : p.Collects → takes (p :: ps) count = false := by
        intro hp
        have hkeyword : p.isPositional = false := by
          rcases hp with hp | hp <;> simp [Parameter.isPositional, hp]
        rw [takes_cons_of_not_positional hkeyword,
          h.collecting p List.mem_cons_self hp, Bool.false_and]
      rw [List.forall_mem_cons]
      cases hkind : p.kind with
      | rest | keywordRest =>
          have hp : p.Collects := by simp [Parameter.Collects, hkind]
          simp [hcollects hp, hp]
      | keywordOnly =>
          have hp : ¬ p.Collects := by simp [Parameter.Collects, hkind]
          rw [takes_cons_of_not_positional (by simp [Parameter.isPositional, hkind])]
          simp only [Bool.and_eq_true, htail, binds, hkind, hp, not_false_eq_true, true_and]
          exact and_left_comm
      | positionalOnly | positional =>
          have hpositional : p.isPositional = true := by simp [Parameter.isPositional, hkind]
          have hp := Parameter.not_collects_of_isPositional hpositional
          cases count with
          | zero =>
              rw [takes_cons_zero hpositional]
              simp only [Bool.and_eq_true, htail, binds, hkind, hp, not_false_eq_true, true_and]
              exact and_left_comm
          | succ count =>
              rw [takes_cons_succ hpositional hdefaults, htail, binds_cons_succ hpositional]
              simp only [hp, not_false_eq_true, true_and]

theorem takesExactly_bound_iff (h : parameters.IsWellFormed) (count : Nat) :
    parameters.takesExactly count true = true ↔
      (∀ q ∈ parameters, ¬ q.Collects) ∧ parameters.binds count = true :=
  takes_iff_binds h count

theorem takesExactly_iff (h : parameters.IsWellFormed) (count : Nat) :
    parameters.takesExactly count false = true ↔
      (∀ q ∈ parameters, ¬ q.Collects) ∧
        (∃ first ∈ parameters.head?, first.isPositional = true) ∧
          parameters.binds (count + 1) = true := by
  cases parameters with
  | nil => simp [takesExactly]
  | cons self others =>
      have htakes : takesExactly (self :: others) count false =
          (self.isPositional && takes others count) := rfl
      rw [htakes, Bool.and_eq_true, takes_iff_binds h.tail, List.forall_mem_cons]
      simp only [List.head?_cons, Option.mem_some_iff, exists_eq_left']
      constructor
      · rintro ⟨hself, hcollecting, hbinds⟩
        exact ⟨⟨Parameter.not_collects_of_isPositional hself, hcollecting⟩, hself,
          (binds_cons_succ hself others count).trans hbinds⟩
      · rintro ⟨⟨-, hcollecting⟩, hself, hbinds⟩
        exact ⟨hself, hcollecting, (binds_cons_succ hself others count).symm.trans hbinds⟩

end Signature

end RecordBinding
