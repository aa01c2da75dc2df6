import RecordBinding.Proofs.TypeExpr.Rebuilding

namespace RecordBinding

namespace Substitution

variable {s r u : Substitution}

/-- The variables of a substitution renamed. -/
def toFresh (s : Substitution) (fresh : TypeVar → TypeVar) : Substitution :=
  s.map fun entry => (entry.1, .typeVar (fresh entry.1))

/-- What a substitution puts in, in place of its renamed variables. -/
def ofFresh (s : Substitution) (fresh : TypeVar → TypeVar) : Substitution :=
  s.map fun entry => (fresh entry.1, entry.2)

/-- Names of their own for the variables of a substitution, which a type does not contain. -/
structure IsFresh (s : Substitution) (fresh : TypeVar → TypeVar) (t : TypeExpr) : Prop where
  injective : ∀ e ∈ s, ∀ e' ∈ s, fresh e.1 = fresh e'.1 → e.1 = e'.1
  outside : ∀ e ∈ s, fresh e.1 ∉ t.parameters

theorem image_toFresh (s : Substitution) (fresh : TypeVar → TypeVar) (v : TypeVar) :
    (s.toFresh fresh).image v = .typeVar (if v ∈ s.map Prod.fst then fresh v else v) := by
  induction s with
  | nil => rfl
  | cons entry s ih =>
      rw [toFresh, List.map_cons, image_cons, ← toFresh, ih]
      by_cases hv : entry.1 = v
      · simp [hv]
      · simp only [hv, if_false, List.map_cons, List.mem_cons, Ne.symm hv, false_or]

theorem image_ofFresh {fresh : TypeVar → TypeVar} {v : TypeVar} (hv : v ∈ s.map Prod.fst)
    (h : ∀ e ∈ s, fresh e.1 = fresh v → e.1 = v) : (s.ofFresh fresh).image (fresh v) = s.image v := by
  induction s with
  | nil => cases hv
  | cons entry s ih =>
      rw [ofFresh, List.map_cons, image_cons, ← ofFresh]
      obtain ⟨w, t⟩ := entry
      rw [image_cons]
      by_cases hw : w = v
      · rw [if_pos (congrArg fresh hw), if_pos hw]
      · have hrest := List.forall_mem_cons.1 h
        rw [if_neg fun heq => hw (hrest.1 heq), if_neg hw]
        exact ih ((List.mem_cons.1 hv).resolve_left (Ne.symm hw)) hrest.2

theorem image_eq_of_not_mem {v : TypeVar} (h : ∀ e ∈ s, e.1 ≠ v) : s.image v = .typeVar v := by
  rcases image_cases s v with ⟨entry, hentry, hkey, -⟩ | ⟨-, himage⟩
  · exact absurd hkey (h entry hentry)
  · exact himage

theorem IsFresh.image {fresh : TypeVar → TypeVar} {t : TypeExpr} (h : s.IsFresh fresh t) {v : TypeVar}
    (hv : v ∈ t.parameters) :
    ((s.toFresh fresh).image v).substitute? (s.ofFresh fresh) = some (s.image v) := by
  rw [image_toFresh, TypeExpr.substitute?, Option.some.injEq]
  split
  · next hkey =>
      obtain ⟨e', he', rfl⟩ := List.mem_map.1 hkey
      exact image_ofFresh hkey fun e he => h.injective e he e' he'
  · next hkey =>
      rw [image_eq_of_not_mem, image_eq_of_not_mem]
      · exact fun e he heq => hkey (List.mem_map.2 ⟨e, he, heq⟩)
      · refine List.forall_mem_map.2 fun e he heq => h.outside e he ?_
        rwa [show fresh e.1 = v from heq]

theorem PutsFormed.toFresh (s : Substitution) (fresh : TypeVar → TypeVar) : (s.toFresh fresh).PutsFormed :=
  List.forall_mem_map.2 fun _ _ => ⟨.plain rfl, by simp [TypeExpr.memberList]⟩

theorem PutsFormed.ofFresh (hs : s.PutsFormed) (fresh : TypeVar → TypeVar) : (s.ofFresh fresh).PutsFormed :=
  List.forall_mem_map.2 hs

end Substitution

namespace TypeExpr

variable {s r u : Substitution} {t : TypeExpr}

/-- What both substitutions together may be applied to is what they may be applied to in turn, as far as
compound types go. -/
theorem IsFormed.admits_iff (ht : t.IsFormed) (hs : s.PutsFormed) (hr : r.PutsFormed)
    (hvar : ∀ v, t ≠ typeVar v)
    (h : ∀ v ∈ t.parameters, (s.image v).substitute? r = some (u.image v)) :
    t.Admits u ↔ t.Admits s ∧ (t.substitute s).Admits r := by
  have himage : ∀ v ∈ t.parameters, ((u.image v).isProtocolBase = false ↔
      (s.image v).isProtocolBase = false ∧ (s.image v).Admits r) :=
    fun v hv => (hs.image v).1.isProtocolBase_of_substitute? hr (h v hv)
  rw [ht.admits_substitute hvar]
  constructor
  · exact fun hu => ⟨fun v hv => ((himage v hv).1 (hu v hv)).1, fun v hv => ((himage v hv).1 (hu v hv)).2⟩
  · exact fun hsr v hv => (himage v hv).2 ⟨hsr.1 v hv, hsr.2 v hv⟩

end TypeExpr

end RecordBinding
