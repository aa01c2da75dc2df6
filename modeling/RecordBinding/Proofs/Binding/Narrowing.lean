import RecordBinding.Proofs.Binding.Congruence
import RecordBinding.Proofs.Universe.Narrowing

namespace RecordBinding

namespace Action

variable {σ τ α β : Type}

/-- When the first action succeeds, from any state, the second one does from any state, with a related
result. -/
def Leads (r : α → β → Prop) (x : Action σ α) (y : Action τ β) : Prop :=
  ∀ s t a, (x.run s).1 = .ok a → ∃ b, (y.run t).1 = .ok b ∧ r a b

theorem Similar.leads {r : α → β → Prop} {x : Action σ α} {y : Action τ β} (h : Similar r x y) :
    Leads r x y := by
  intro s t a ha
  have hagree := h s t
  rw [ha] at hagree
  exact hagree.exists_ok_right

namespace Leads

variable {r : α → β → Prop} {x : Action σ α} {y : Action τ β}

theorem pure {a : α} {b : β} (h : r a b) :
    Leads r (Pure.pure a : Action σ α) (Pure.pure b : Action τ β) :=
  (Similar.pure h).leads

theorem throw (r : α → β → Prop) (e : Failure) (y : Action τ β) :
    Leads r (throw e : Action σ α) y := by
  rintro s t a ⟨⟩

theorem ofExcept {a : Except Failure α} {b : Except Failure β}
    (h : ∀ x, a = .ok x → ∃ y, b = .ok y ∧ r x y) :
    Leads r (ofExcept a : Action σ α) (Action.ofExcept b : Action τ β) :=
  fun _ _ => h

theorem after {α' β' : Type} {q : α' → β' → Prop} {f : α → Action σ α'} {g : β → Action τ β'} {s : σ}
    {t : τ} (h : ∀ a, (x.run s).1 = .ok a → ∃ b, (y.run t).1 = .ok b ∧ r a b)
    (hfg : ∀ a b, r a b → Leads q (f a) (g b)) {a' : α'} (ha' : ((x >>= f).run s).1 = .ok a') :
    ∃ b', ((y >>= g).run t).1 = .ok b' ∧ q a' b' := by
  have hrun : (x >>= f).run s = (.ok a', ((x >>= f).run s).2) := Prod.ext ha' rfl
  obtain ⟨a, s', hx, hf⟩ := run_bind_ok hrun
  obtain ⟨b, hy, hab⟩ := h a (congrArg Prod.fst hx)
  obtain ⟨b', hg, hab'⟩ := hfg a b hab s' (y.run t).2 a' (congrArg Prod.fst hf)
  refine ⟨b', ?_, hab'⟩
  rw [run_bind, show y.run t = (.ok b, (y.run t).2) from Prod.ext hy rfl]
  exact hg

theorem bind {α' β' : Type} {q : α' → β' → Prop} {f : α → Action σ α'} {g : β → Action τ β'}
    (h : Leads r x y) (hfg : ∀ a b, r a b → Leads q (f a) (g b)) :
    Leads q (x >>= f) (y >>= g) :=
  fun s t _ ha' => after (h s t) hfg ha'

theorem mapM {γ δ : Type} {p : γ → δ → Prop} {f : γ → Action σ α} {g : δ → Action τ β}
    {cs : List γ} {ds : List δ} (h : List.Forall₂ p cs ds)
    (hfg : ∀ c d, p c d → Leads r (f c) (g d)) :
    Leads (List.Forall₂ r) (cs.mapM f) (ds.mapM g) := by
  induction h with
  | nil => exact pure .nil
  | cons hcd _ ih =>
      rw [List.mapM_cons, List.mapM_cons]
      exact (hfg _ _ hcd).bind fun a b hab => ih.bind fun as bs habs => pure (.cons hab habs)

end Leads

end Action

namespace Universe

variable {u : Universe}

theorem admits_iff {supplied hint : TypeExpr} :
    u.admits supplied hint = true ↔
      supplied.isUnresolved = true ∨ hint.isUnresolved = true ∨
        (hint.erase ≠ .protocol ∧ u.classes.isProtocol hint.erase = true) ∨
          u.classes.Below supplied.erase hint.erase := by
  unfold admits
  split
  · next hunresolved =>
      rw [Bool.or_eq_true] at hunresolved
      exact iff_of_true rfl (hunresolved.imp_right .inl)
  · next hresolved =>
      rw [Bool.or_eq_true, not_or] at hresolved
      simp only [hresolved.1, hresolved.2, Classes.Below, inherits]
      split
      · next hsame => simp [hsame]
      · next hother =>
          split
          · next hprotocol => simp_all
          · next hchecked => simp_all

theorem admits_narrows (hordered : u.classes.IsOrdered) {p q : DeclaredProperty}
    (h : p.Narrows u.classes q) {hint : TypeExpr} (hp : u.admits p.type hint = true) :
    u.admits q.type hint = true := by
  rw [admits_iff] at hp ⊢
  rcases hp with hp | hp | hp | hp
  · exact .inl (h.unresolved hp)
  · exact .inr (.inl hp)
  · exact .inr (.inr (.inl hp))
  · exact .inr (.inr (.inr (hordered.trans h.below hp)))

theorem builderSetter_agree (builder : ClassId) (definition : TypeExpr) {p q : DeclaredProperty}
    (hname : p.name = q.name) :
    Agree (fun _ _ => True) (u.builderSetter builder definition p)
      (u.builderSetter builder definition q) := by
  unfold builderSetter
  rw [hname]
  dsimp only
  split
  · split
    · generalize (if p.type.isUnresolved then _ else _ : Option Function) = captured
      generalize (if q.type.isUnresolved then _ else _ : Option Function) = captured'
      cases captured <;> cases captured' <;> exact .ok trivial
    · split
      · exact .ok trivial
      · exact .error rfl
    · exact .error rfl
  · exact .error rfl

end Universe

theorem Accessor.map_name_eq {σ : Type} {as bs : List (Accessor σ)}
    (h : List.Forall₂ (fun x y => x.name = y.name) as bs) :
    as.map Accessor.name = bs.map Accessor.name := by
  rwa [← List.forall₂_eq_eq_eq, List.forall₂_map_left_iff, List.forall₂_map_right_iff]

namespace Action

variable {u : Universe}

theorem checkArgument_leads (hordered : u.classes.IsOrdered) (implementation : TypeExpr)
    {p q : DeclaredProperty} (h : p.Narrows u.classes q) (f : Function) (c : ClassId) :
    Leads (fun _ _ => True) (checkArgument u implementation p f c)
      (checkArgument u implementation q f c) := by
  unfold checkArgument
  refine (Similar.ofExcept (Agree.refl (r := Eq) (fun _ => rfl) _)).leads.bind ?_
  rintro accepted _ rfl
  cases accepted with
  | none => exact .pure trivial
  | some accepted =>
      dsimp only
      split
      · next hp =>
          rw [if_pos (Universe.admits_narrows hordered h hp)]
          exact .pure trivial
      · exact .throw _ _ _

theorem findSetter_leads (hordered : u.classes.IsOrdered) (implementation : TypeExpr)
    {p q : DeclaredProperty} (h : p.Narrows u.classes q) :
    Leads Eq (findSetter u implementation p) (findSetter u implementation q) := by
  unfold findSetter
  rw [h.name]
  dsimp only
  split
  · next f _ =>
      split
      · refine (checkArgument_leads hordered implementation h f _).bind fun _ _ _ => ?_
        refine (returnHint_similar f _).leads.bind ?_
        rintro returned _ rfl
        split
        · exact .pure rfl
        · exact .throw _ _ _
      · exact .throw _ _ _
  · exact .throw _ _ _

variable {a b : TypeExpr}

theorem bindImmutable_leads {definition : TypeExpr}
    (h : Agree (List.Forall₂ (DeclaredProperty.Narrows u.classes)) (u.discover a definition)
      (u.discover b definition)) (implementation : TypeExpr) {builder : Option Attribute}
    (hbuilder : ∀ factory, builder = some factory → factory.IsSteady u) :
    Leads (fun x y => x.names = y.names) (bindImmutable u a definition implementation builder)
      (bindImmutable u b definition implementation builder) := by
  unfold bindImmutable
  refine (chooseFactory_similar hbuilder implementation "builder").leads.bind ?_
  rintro factory _ ⟨rfl, hfactory⟩
  refine (builderClass_similar hfactory rfl).leads.bind ?_
  rintro builderId _ rfl
  refine (findBuild_similar builderId implementation).leads.bind ?_
  rintro build _ rfl
  refine (discover_similar h).leads.bind fun ps qs hpq => ?_
  refine Leads.bind (r := List.Forall₂ fun x y => x.name = y.name) (.mapM hpq fun p q hp => ?_)
    fun as bs hab => (completeBinding_similar _ _ _ _ _).leads.bind fun _ _ _ =>
      .pure (Accessor.map_name_eq hab)
  exact (Similar.ofExcept (Universe.builderSetter_agree builderId definition hp.name)).leads.bind
    fun _ _ _ => .pure hp.name

theorem bindModifiable_leads (hordered : u.classes.IsOrdered) {definition : TypeExpr}
    (h : Agree (List.Forall₂ (DeclaredProperty.Narrows u.classes)) (u.discover a definition)
      (u.discover b definition)) (implementation : TypeExpr) {create : Option Attribute}
    (hcreate : ∀ factory, create = some factory → factory.IsSteady u) :
    Leads (fun x y => x.names = y.names) (bindModifiable u a definition implementation create)
      (bindModifiable u b definition implementation create) := by
  unfold bindModifiable
  refine (chooseFactory_similar hcreate implementation "create").leads.bind ?_
  rintro factory _ ⟨rfl, -⟩
  refine (discover_similar h).leads.bind fun ps qs hpq => ?_
  refine Leads.bind (r := List.Forall₂ fun x y => x.name = y.name) (.mapM hpq fun p q hp => ?_)
    fun as bs hab => (completeBinding_similar _ _ _ _ _).leads.bind fun _ _ _ =>
      .pure (Accessor.map_name_eq hab)
  refine (findSetter_leads hordered implementation hp).bind fun setter setter' _ => ?_
  rw [hp.name]
  refine (Similar.ofExcept (Agree.refl (r := Eq) (fun _ => rfl) _)).leads.bind ?_
  rintro probe _ rfl
  exact .pure rfl

end Action

/-- A registration binds a type, and then also one from which the properties have types below, with the same
names. -/
theorem Registration.bind_leads {u : Universe} (hordered : u.classes.IsOrdered) {r : Registration}
    (hr : r.IsSteady u) {a b : TypeExpr}
    (h : Agree (List.Forall₂ (DeclaredProperty.Narrows u.classes)) (u.discover a r.definition)
      (u.discover b r.definition)) :
    Action.Leads (fun x y => x.names = y.names) (r.bind u a) (r.bind u b) := by
  unfold Registration.bind
  split
  · exact Action.bindImmutable_leads h _ hr
  · exact Action.bindModifiable_leads hordered h _ hr

end RecordBinding
