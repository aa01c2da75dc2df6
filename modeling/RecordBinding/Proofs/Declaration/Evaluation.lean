import RecordBinding.Proofs.TypeExpr.Formed

namespace RecordBinding

theorem bind_ok {α β ε : Type*} {x : Except ε α} {f : α → Except ε β} {b : β}
    (h : x.bind f = .ok b) : ∃ a, x = .ok a ∧ f a = .ok b := by
  cases x with
  | error e => cases h
  | ok a => exact ⟨a, rfl, h⟩

theorem map_ok {α β ε : Type*} {x : Except ε α} {f : α → β} {b : β} (h : x.map f = .ok b) :
    ∃ a, x = .ok a ∧ f a = b := by
  cases x with
  | error e => cases h
  | ok a =>
      cases h
      exact ⟨a, rfl, rfl⟩

theorem ok_of_toOption {α ε : Type*} {x : Except ε α} {a : α} (h : x.toOption = some a) :
    x = .ok a := by
  cases x with
  | error e => cases h
  | ok b =>
      cases h
      rfl

variable {P : TypeVar → Prop}

namespace TypeExpr

theorem FormedOver.plain {t : TypeExpr} (h : t.isCompound = false) (hvars : t.parameters = []) :
    t.FormedOver P :=
  ⟨.plain h, by simp [hvars]⟩

theorem FormedOver.mono {Q : TypeVar → Prop} {t : TypeExpr} (h : t.FormedOver P)
    (hPQ : ∀ v, P v → Q v) : t.FormedOver Q :=
  ⟨h.formed, fun v hv => hPQ v (h.parameters v hv)⟩

theorem FormedOver.asArgument {t : TypeExpr} (h : t.FormedOver P) : t.asArgument.FormedOver P :=
  ⟨h.formed.asArgument.formed, by simpa only [parameters_asArgument] using h.parameters⟩

theorem FormedOver.generic (origin : ClassId) {args : List TypeExpr}
    (hargs : ∀ a ∈ args, a.FormedOver P)
    (hdeclared : ∀ name, origin = .declared name → ∀ a ∈ args, a.asArgument = a) :
    (TypeExpr.generic origin args).FormedOver P := by
  refine ⟨.generic origin (fun a ha => (hargs a ha).formed) hdeclared, ?_⟩
  simp only [TypeExpr.parameters, parametersOfAll_eq_flatMap, List.mem_flatMap]
  rintro v ⟨a, ha, hv⟩
  exact (hargs a ha).parameters v hv

theorem FormedOver.unite (style : UnionStyle) {ts : List TypeExpr}
    (hts : ∀ t ∈ ts, t.FormedOver P) : (unite style ts).FormedOver P := by
  refine ⟨(isArgument_unite style fun t ht => (hts t ht).formed).formed, fun v hv => ?_⟩
  obtain ⟨t, ht, hv⟩ := mem_parameters_unite hv
  exact (hts t ht).parameters v hv

theorem FormedOver.annotate {t : TypeExpr} (h : t.FormedOver P) (metadata : List Scalar) :
    (t.annotate metadata).FormedOver P :=
  ⟨(isArgument_annotate h.formed metadata).formed,
    by simpa only [parameters_annotate] using h.parameters⟩

/-- A property of types that the named types of the language have and that the forming operations
keep. -/
structure IsKept (Q : TypeExpr → Prop) : Prop where
  builtin : ∀ {n t}, builtinType? n = some t → Q t
  text : ∀ source, Q (unresolved source)
  literal : ∀ items, Q (literalOf items)
  asArgument : ∀ {t}, Q t → Q t.asArgument
  generic : ∀ {origin args}, Q (cls origin) → (∀ a ∈ args, Q a) →
    (∀ name, origin = .declared name → ∀ a ∈ args, a.asArgument = a) → Q (generic origin args)
  unite : ∀ style {ts}, (∀ t ∈ ts, Q t) → Q (unite style ts)
  annotate : ∀ {t}, Q t → ∀ metadata, Q (t.annotate metadata)

theorem isKept_formedOver (P : TypeVar → Prop) : IsKept (FormedOver P) where
  builtin := by
    intro n t h
    unfold builtinType? at h
    split at h
    · cases h
      exact .plain rfl rfl
    · cases h
      exact .plain rfl rfl
    · cases h
      exact .plain rfl rfl
    · cases h
      exact .plain rfl rfl
    · cases h
      exact .plain rfl rfl
    · obtain ⟨b, -, rfl⟩ := Option.map_eq_some_iff.1 h
      exact .plain rfl rfl
  text := fun _ => .plain rfl rfl
  literal := fun _ => .plain rfl rfl
  asArgument := FormedOver.asArgument
  generic := fun _ hargs hdeclared => .generic _ hargs hdeclared
  unite := FormedOver.unite
  annotate := FormedOver.annotate

section

variable {Q : TypeExpr → Prop} {scope : Scope}

theorem IsKept.join? (hQ : IsKept Q) {a b t : TypeExpr} (ha : Q a) (hb : Q b)
    (h : a.join? b = some t) : Q t := by
  have hunite : ∀ style, Q (TypeExpr.unite style [a, b]) := by
    intro style
    apply hQ.unite
    simp [ha, hb]
  unfold TypeExpr.join? at h
  split at h
  · split at h
    · cases h
    · cases h
      exact hunite .bars
  · split at h
    · cases h
    · split at h
      · cases h
        exact hunite .named
      · cases h

end

end TypeExpr

open TypeExpr (IsKept)

variable {Q : TypeExpr → Prop}

namespace Scope

variable {scope : Scope}

/-- A scope whose names stand for types with a property. -/
def Holds (Q : TypeExpr → Prop) (scope : Scope) : Prop :=
  ∀ n t, scope.lookup n = some t → Q t

theorem Holds.resolve? (hscope : scope.Holds Q) (hQ : IsKept Q) {n : String} {t : TypeExpr}
    (h : scope.resolve? n = some t) : Q t := by
  unfold Scope.resolve? at h
  split at h
  · next found hfound =>
      cases h
      exact hscope n _ hfound
  · exact hQ.builtin h

theorem Holds.extend (hscope : scope.Holds Q) {entries : List (String × TypeExpr)}
    (h : ∀ entry ∈ entries, Q entry.2) : (scope.extend entries).Holds Q := by
  intro n t ht
  simp only [Scope.extend] at ht
  split at ht
  · next found hfound =>
      cases ht
      obtain ⟨before, after, hentries, -⟩ := List.lookup_eq_some_iff.1 hfound
      exact h (n, _) (by simp [hentries])
  · exact hscope n t ht

theorem kept_applyType (hQ : IsKept Q) {head t : TypeExpr} {args : List TypeExpr} (hhead : Q head)
    (hargs : ∀ a ∈ args, Q a) (h : scope.applyType head args = .ok t) : Q t := by
  have hdeclared : ∀ name, Q (.cls (.declared name)) →
      Q (.generic (.declared name) (args.map TypeExpr.asArgument)) := by
    intro name hname
    apply hQ.generic hname
    · exact List.forall_mem_map.2 fun a ha => hQ.asArgument (hargs a ha)
    · exact fun _ _ => List.forall_mem_map.2 fun a _ => TypeExpr.asArgument_asArgument a
  unfold applyType at h
  split at h
  · split at h
    · cases h
      apply hQ.generic hhead hargs
      rintro name ⟨⟩
    · cases h
  · next name =>
      simp only at h
      split at h
      · cases h
      · split at h
        · cases h
          exact hdeclared name hhead
        · split at h
          · cases h
            exact hdeclared name hhead
          · cases h
  · cases h

theorem kept_joinNext (hQ : IsKept Q) {joined : Option TypeExpr} {next t : TypeExpr}
    (hjoined : ∀ t ∈ joined, Q t) (hnext : Q next) (h : joinNext joined next = .ok t) : Q t := by
  unfold joinNext at h
  split at h
  · cases h
    exact hnext
  · next first =>
      split at h
      · next hjoin =>
          cases h
          exact hQ.join? (hjoined first rfl) hnext hjoin
      · cases h

end Scope

namespace TypeSource

variable {scope : Scope}

mutual

theorem kept_evaluate (hQ : IsKept Q) (hscope : scope.Holds Q) (source : TypeSource)
    {t : TypeExpr} (h : source.evaluate scope = .ok t) : Q t := by
  cases source with
  | name n =>
      rw [evaluate] at h
      split at h
      · next hfound =>
          cases h
          exact hscope.resolve? hQ hfound
      · cases h
  | apply n args =>
      rw [evaluate] at h
      split at h
      · next hfound =>
          obtain ⟨ts, hts, h⟩ := bind_ok h
          exact Scope.kept_applyType hQ (hscope.resolve? hQ hfound)
            (kept_evaluateAll hQ hscope args hts) h
      · cases h
  | union members =>
      rw [evaluate] at h
      exact kept_evaluateJoined hQ hscope members (by simp) h
  | annotated inner metadata =>
      rw [evaluate] at h
      obtain ⟨t', ht', h⟩ := bind_ok h
      split at h
      · cases h
      · cases h
        exact hQ.annotate (kept_evaluate hQ hscope inner ht') metadata
  | literal items =>
      rw [evaluate] at h
      cases h
      exact hQ.literal items
  | missing n =>
      rw [evaluate] at h
      split at h
      · cases h
        exact hQ.text n
      · cases h

theorem kept_evaluateAll (hQ : IsKept Q) (hscope : scope.Holds Q) (sources : List TypeSource)
    {ts : List TypeExpr} (h : evaluateAll scope sources = .ok ts) : ∀ t ∈ ts, Q t := by
  cases sources with
  | nil =>
      cases h
      simp
  | cons source rest =>
      rw [evaluateAll] at h
      obtain ⟨first, hfirst, h⟩ := bind_ok h
      obtain ⟨others, hothers, rfl⟩ := map_ok h
      exact List.forall_mem_cons.2
        ⟨kept_evaluate hQ hscope source hfirst, kept_evaluateAll hQ hscope rest hothers⟩

theorem kept_evaluateJoined (hQ : IsKept Q) (hscope : scope.Holds Q) (sources : List TypeSource)
    {joined : Option TypeExpr} (hjoined : ∀ t ∈ joined, Q t) {t : TypeExpr}
    (h : evaluateJoined scope joined sources = .ok t) : Q t := by
  cases sources with
  | nil =>
      cases joined with
      | none => cases h
      | some first =>
          cases h
          exact hjoined _ rfl
  | cons source rest =>
      rw [evaluateJoined] at h
      obtain ⟨next, hnext, h⟩ := bind_ok h
      obtain ⟨union, hunion, h⟩ := bind_ok h
      have hkept := Scope.kept_joinNext hQ hjoined (kept_evaluate hQ hscope source hnext) hunion
      exact kept_evaluateJoined hQ hscope rest (by simpa using hkept) h

end

theorem kept_evaluateHint (hQ : IsKept Q) (hscope : scope.Holds Q) {source : TypeSource}
    {t : TypeExpr} (h : source.evaluateHint scope = .ok t) : Q t := by
  obtain ⟨t', ht', h⟩ := bind_ok h
  have hkept := kept_evaluate hQ hscope source ht'
  split at h
  · cases h
    exact hQ.asArgument hkept
  · split at h
    · cases h
    · cases h
      exact hkept

end TypeSource

theorem Function.kept_returnHint (hQ : IsKept Q) {scope : Scope} (hscope : scope.Holds Q)
    {f : Function} {hint : Function.ReturnHint} (h : f.returnHint scope = .ok hint) :
    Q hint.type := by
  have hany : Q (.cls .any) := hQ.builtin (show builtinType? "Any" = some (.cls .any) from rfl)
  unfold returnHint at h
  split at h
  · split at h
    · obtain ⟨t, ht, rfl⟩ := map_ok h
      exact TypeSource.kept_evaluateHint hQ hscope ht
    · cases h
      exact hany
  · split at h
    · cases h
      exact hQ.text _
    · cases h
      exact hany
  · cases h

end RecordBinding
