import RecordBinding.Proofs.Declaration.Evaluation
import RecordBinding.Proofs.TypeExpr.Renaming

namespace RecordBinding

namespace TypeSource

mutual

/-- The names that an annotation mentions. -/
def names : TypeSource → List String
  | name n => [n]
  | apply n args => n :: namesOfAll args
  | union members => namesOfAll members
  | annotated inner _ => names inner
  | _ => []

def namesOfAll : List TypeSource → List String
  | [] => []
  | s :: ss => names s ++ namesOfAll ss

end

mutual

/-- The annotation with the names that it mentions replaced. -/
def rename (g : String → String) : TypeSource → TypeSource
  | name n => name (g n)
  | apply n args => apply (g n) (renameAll g args)
  | union members => union (renameAll g members)
  | annotated inner metadata => annotated (rename g inner) metadata
  | literal items => literal items
  | missing n => missing n

def renameAll (g : String → String) : List TypeSource → List TypeSource
  | [] => []
  | s :: ss => rename g s :: renameAll g ss

end

mutual

theorem rename_id (source : TypeSource) : source.rename id = source := by
  cases source with
  | apply n args => simp [rename, renameAll_id args]
  | union members => simp [rename, renameAll_id members]
  | annotated inner metadata => simp [rename, rename_id inner]
  | _ => rfl

theorem renameAll_id (sources : List TypeSource) : renameAll id sources = sources := by
  cases sources with
  | nil => rfl
  | cons source sources => rw [renameAll, rename_id source, renameAll_id sources]

end

end TypeSource

namespace Scope

/-- A name in one scope and its replacement in another stand for a type and for that type renamed, or both
for nothing. -/
def Renames (ρ : Renaming) (g : String → String) (scope scope' : Scope) (n : String) : Prop :=
  scope'.resolve? (g n) = (scope.resolve? n).map (TypeExpr.rename ρ)

/-- Scopes in which classes take as many arguments and missing names are treated alike. -/
structure Alike (scope scope' : Scope) : Prop where
  arity : scope'.arity = scope.arity
  keepsMissing : scope'.keepsMissing = scope.keepsMissing

variable {ρ : Renaming} {g : String → String} {scope scope' : Scope}

theorem rename_builtinType? {n : String} {t : TypeExpr} (h : builtinType? n = some t) :
    t.rename ρ = t := by
  unfold builtinType? at h
  split at h <;> first | cases h; rfl | skip
  obtain ⟨b, -, rfl⟩ := Option.map_eq_some_iff.1 h
  rfl

theorem Renames.of_lookup {n : String}
    (h : scope'.lookup n = (scope.lookup n).map (TypeExpr.rename ρ)) :
    Renames ρ id scope scope' n := by
  unfold Renames Scope.resolve?
  rw [id, h]
  cases hlookup : scope.lookup n with
  | some t => rfl
  | none =>
      cases hbuiltin : builtinType? n with
      | none => rfl
      | some t => exact congrArg some (rename_builtinType? hbuiltin).symm

theorem Alike.extend (h : scope.Alike scope') (entries entries' : List (String × TypeExpr)) :
    (scope.extend entries).Alike (scope'.extend entries') :=
  ⟨h.arity, h.keepsMissing⟩

theorem lookup_rename {g : String → String} (hg : Function.Injective g)
    (entries : List (String × TypeExpr)) (n : String) :
    (entries.map fun entry => (g entry.1, entry.2.rename ρ)).lookup (g n) =
      (entries.lookup n).map (TypeExpr.rename ρ) := by
  induction entries with
  | nil => rfl
  | cons entry entries ih =>
      rw [List.map_cons, List.lookup_cons, List.lookup_cons, ih]
      by_cases hn : n = entry.1
      · simp [hn]
      · have hgn : g n ≠ g entry.1 := fun h => hn (hg h)
        rw [beq_false_of_ne hn, beq_false_of_ne hgn]

theorem extend_append (scope : Scope) (first second : List (String × TypeExpr)) :
    scope.extend (first ++ second) = (scope.extend second).extend first := by
  have hlookup : ∀ n, (scope.extend (first ++ second)).lookup n =
      ((scope.extend second).extend first).lookup n := by
    intro n
    simp only [extend, List.lookup_append]
    cases first.lookup n <;> rfl
  exact congrArg (fun lookup => { scope with lookup }) (funext hlookup)

theorem resolve?_extend (scope : Scope) (entries : List (String × TypeExpr)) (n : String) :
    (scope.extend entries).resolve? n = (entries.lookup n).or (scope.resolve? n) := by
  simp only [Scope.resolve?, Scope.extend]
  cases entries.lookup n <;> rfl

theorem Renames.extend (hg : Function.Injective g) {entries : List (String × TypeExpr)} {n : String}
    (hn : n ∈ entries.map Prod.fst ∨ g n = n) (h : Renames ρ id scope scope' n) :
    Renames ρ g (scope.extend entries)
      (scope'.extend (entries.map fun entry => (g entry.1, entry.2.rename ρ))) n := by
  unfold Renames
  rw [resolve?_extend, resolve?_extend, lookup_rename hg]
  cases hlookup : entries.lookup n with
  | some t => rfl
  | none =>
      have hkept : g n = n := by
        refine hn.resolve_left fun hmem => ?_
        obtain ⟨entry, hentry, rfl⟩ := List.mem_map.1 hmem
        exact absurd (List.lookup_eq_none_iff.1 hlookup entry hentry) (by simp)
      rw [hkept]
      exact h

theorem applyType_rename (h : scope.Alike scope') (head : TypeExpr) (args : List TypeExpr) :
    scope'.applyType (head.rename ρ) (args.map (TypeExpr.rename ρ)) =
      (scope.applyType head args).map (TypeExpr.rename ρ) := by
  have hbase : (args.map (TypeExpr.rename ρ)).any TypeExpr.isProtocolBase =
      args.any TypeExpr.isProtocolBase := by
    rw [List.any_map]
    exact congrArg args.any (funext fun t => TypeExpr.isProtocolBase_rename ρ t)
  have hargs : (args.map (TypeExpr.rename ρ)).map TypeExpr.asArgument =
      (args.map TypeExpr.asArgument).map (TypeExpr.rename ρ) := by
    rw [List.map_map, List.map_map]
    exact List.map_congr_left fun t _ => TypeExpr.asArgument_rename ρ t
  cases head with
  | cls c =>
      cases c with
      | builtin b =>
          simp only [TypeExpr.rename, applyType]
          split
          · simp [Except.map, TypeExpr.rename]
          · rfl
      | declared name =>
          simp only [TypeExpr.rename, applyType, hbase, hargs, h.arity, List.length_map]
          split
          · rfl
          · split
            · simp [Except.map, TypeExpr.rename]
            · split
              · simp [Except.map, TypeExpr.rename]
              · rfl
      | _ => rfl
  | _ => rfl

theorem joinNext_rename (joined : Option TypeExpr) (next : TypeExpr) :
    joinNext (joined.map (TypeExpr.rename ρ)) (next.rename ρ) =
      (joinNext joined next).map (TypeExpr.rename ρ) := by
  cases joined with
  | none => rfl
  | some t =>
      simp only [Option.map_some, joinNext, TypeExpr.join?_rename]
      cases t.join? next <;> rfl

end Scope

/-- Two evaluations end alike: with a value and with its image, or with errors of one kind. The names that
they do not know may differ. -/
inductive EndsAlike {α β : Type} (f : α → β) :
    Except EvaluationError α → Except EvaluationError β → Prop
  | ok (a : α) : EndsAlike f (.ok a) (.ok (f a))
  | unknownName (n n' : String) :
      EndsAlike f (.error (.unknownName n)) (.error (.unknownName n'))
  | notAType : EndsAlike f (.error .notAType) (.error .notAType)

namespace EndsAlike

variable {α β γ δ : Type} {f : α → β} {x : Except EvaluationError α} {y : Except EvaluationError β}

theorem of_eq_map (h : y = x.map f) : EndsAlike f x y := by
  subst h
  cases x with
  | ok a => exact .ok a
  | error e =>
      cases e with
      | unknownName n => exact .unknownName n n
      | notAType => exact .notAType

theorem bind {q : γ → δ} {k : α → Except EvaluationError γ} {l : β → Except EvaluationError δ}
    (h : EndsAlike f x y) (hkl : ∀ a, EndsAlike q (k a) (l (f a))) :
    EndsAlike q (x.bind k) (y.bind l) := by
  cases h with
  | ok a => exact hkl a
  | unknownName n n' => exact .unknownName n n'
  | notAType => exact .notAType

theorem map {q : γ → δ} {k : α → γ} {l : β → δ} (h : EndsAlike f x y)
    (hkl : ∀ a, l (f a) = q (k a)) : EndsAlike q (x.map k) (y.map l) := by
  cases h with
  | ok a => exact of_eq_map (congrArg Except.ok (hkl a))
  | unknownName n n' => exact .unknownName n n'
  | notAType => exact .notAType

theorem toOption_eq (h : EndsAlike f x y) : y.toOption = x.toOption.map f := by
  cases h <;> rfl

end EndsAlike

namespace TypeSource

variable {ρ : Renaming} {g : String → String} {scope scope' : Scope}

mutual

/-- An annotation with its names replaced means what it meant, renamed. -/
theorem evaluate_rename (halike : scope.Alike scope') (source : TypeSource)
    (h : ∀ n ∈ source.names, scope.Renames ρ g scope' n) :
    EndsAlike (TypeExpr.rename ρ) (source.evaluate scope) ((source.rename g).evaluate scope') := by
  cases source with
  | name n =>
      have hn : scope'.resolve? (g n) = _ := h n (by simp [names])
      rw [rename, evaluate, evaluate, hn]
      cases scope.resolve? n with
      | some t => exact .ok t
      | none => exact .unknownName n (g n)
  | apply n args =>
      have hn : scope'.resolve? (g n) = _ := h n (by simp [names])
      have hargs := evaluateAll_rename halike args fun n hmem => h n (by simp [names, hmem])
      rw [rename, evaluate, evaluate, hn]
      cases scope.resolve? n with
      | some head => exact hargs.bind fun ts => .of_eq_map (Scope.applyType_rename halike head ts)
      | none => exact .unknownName n (g n)
  | union members =>
      rw [rename, evaluate, evaluate]
      exact evaluateJoined_rename halike members h none
  | annotated inner metadata =>
      rw [rename, evaluate, evaluate]
      refine (evaluate_rename halike inner h).bind fun t => ?_
      rw [TypeExpr.isProtocolBase_rename, TypeExpr.annotate_rename]
      split
      · exact .notAType
      · exact .ok _
  | literal items => exact .ok (TypeExpr.literalOf items)
  | missing n =>
      rw [rename, evaluate, evaluate, halike.keepsMissing]
      split
      · exact .ok (TypeExpr.unresolved n)
      · exact .unknownName n n

theorem evaluateAll_rename (halike : scope.Alike scope') (sources : List TypeSource)
    (h : ∀ n ∈ namesOfAll sources, scope.Renames ρ g scope' n) :
    EndsAlike (List.map (TypeExpr.rename ρ)) (evaluateAll scope sources)
      (evaluateAll scope' (renameAll g sources)) := by
  cases sources with
  | nil => exact .ok []
  | cons source sources =>
      have hfirst := evaluate_rename halike source fun n hmem => h n (by simp [namesOfAll, hmem])
      have hrest := evaluateAll_rename halike sources fun n hmem => h n (by simp [namesOfAll, hmem])
      rw [renameAll, evaluateAll, evaluateAll]
      exact hfirst.bind fun t => hrest.map fun ts => rfl

theorem evaluateJoined_rename (halike : scope.Alike scope') (sources : List TypeSource)
    (h : ∀ n ∈ namesOfAll sources, scope.Renames ρ g scope' n) (joined : Option TypeExpr) :
    EndsAlike (TypeExpr.rename ρ) (evaluateJoined scope joined sources)
      (evaluateJoined scope' (joined.map (TypeExpr.rename ρ)) (renameAll g sources)) := by
  cases sources with
  | nil =>
      cases joined with
      | none => exact .notAType
      | some t => exact .ok t
  | cons source sources =>
      have hfirst := evaluate_rename halike source fun n hmem => h n (by simp [namesOfAll, hmem])
      rw [renameAll, evaluateJoined, evaluateJoined]
      refine hfirst.bind fun t => ?_
      refine (EndsAlike.of_eq_map (Scope.joinNext_rename joined t)).bind fun union => ?_
      exact evaluateJoined_rename halike sources (fun n hmem => h n (by simp [namesOfAll, hmem]))
        (some union)

end

theorem evaluateHint_rename (halike : scope.Alike scope') (source : TypeSource)
    (h : ∀ n ∈ source.names, scope.Renames ρ g scope' n) :
    EndsAlike (TypeExpr.rename ρ) (source.evaluateHint scope)
      ((source.rename g).evaluateHint scope') := by
  refine (evaluate_rename halike source h).bind fun t => ?_
  cases t with
  | none => exact .ok TypeExpr.noneType
  | cls c =>
      dsimp only [TypeExpr.rename]
      split
      · exact .notAType
      · exact .ok (TypeExpr.cls c)
  | _ => exact .ok _

end TypeSource

/-- A type renamed, or the text of an annotation with its names replaced. -/
inductive TypeExpr.RenamesTo (ρ : Renaming) (g : String → String) : TypeExpr → TypeExpr → Prop
  | type (t : TypeExpr) : RenamesTo ρ g t (t.rename ρ)
  | text (source : TypeSource) :
      RenamesTo ρ g (.unresolved source.text) (.unresolved (source.rename g).text)

def Parameter.rename (g : String → String) (p : Parameter) : Parameter :=
  { p with hint := p.hint.map (TypeSource.rename g) }

namespace Function

/-- The function with the names in its annotations replaced. -/
def rename (g : String → String) (f : Function) : Function :=
  { f with
    parameters := f.parameters.map (Parameter.rename g)
    returns := f.returns.map (TypeSource.rename g) }

variable {ρ : Renaming} {g : String → String} {scope scope' : Scope}

theorem annotations_rename (g : String → String) (f : Function) :
    (f.rename g).annotations = f.annotations.map (TypeSource.rename g) := by
  have hhint : Parameter.hint ∘ Parameter.rename g =
      fun p => p.hint.map (TypeSource.rename g) := rfl
  unfold annotations rename
  rw [List.filterMap_map, hhint, List.map_append, List.map_filterMap]
  cases f.returns <;> rfl

theorem takes_rename (g : String → String) (parameters : Signature) (count : Nat) :
    Signature.takes (parameters.map (Parameter.rename g)) count = parameters.takes count := by
  have hrequired : Parameter.isRequired ∘ Parameter.rename g = Parameter.isRequired := rfl
  have hpositional : Parameter.isPositional ∘ Parameter.rename g = Parameter.isPositional := rfl
  simp only [Signature.takes, List.filter_map, List.length_map, List.all_map, hrequired, hpositional]

theorem takesExactly_rename (g : String → String) (parameters : Signature) (count : Nat)
    (bound : Bool) :
    Signature.takesExactly (parameters.map (Parameter.rename g)) count bound =
      parameters.takesExactly count bound := by
  unfold Signature.takesExactly
  split
  · exact takes_rename g parameters count
  · cases parameters with
    | nil => rfl
    | cons first others => exact congrArg (first.isPositional && ·) (takes_rename g others count)

theorem evaluateAnnotations_rename (halike : scope.Alike scope') (f : Function)
    (h : ∀ source ∈ f.annotations, ∀ n ∈ source.names, scope.Renames ρ g scope' n) :
    EndsAlike id (f.evaluateAnnotations scope) ((f.rename g).evaluateAnnotations scope') := by
  rw [evaluateAnnotations, evaluateAnnotations, annotations_rename]
  generalize f.annotations = sources at h
  simp only [List.forM_eq_forM]
  induction sources with
  | nil => exact .ok ()
  | cons source sources ih =>
      obtain ⟨hsource, hsources⟩ := List.forall_mem_cons.1 h
      have hfirst : EndsAlike id ((source.evaluateHint scope).map fun _ => ())
          (((source.rename g).evaluateHint scope').map fun _ => ()) :=
        (source.evaluateHint_rename halike hsource).map fun _ => rfl
      rw [List.map_cons, List.forM_cons, List.forM_cons]
      exact hfirst.bind fun _ => ih hsources

theorem argumentHint?_rename (halike : scope.Alike scope') (f : Function)
    (h : ∀ source ∈ f.annotations, ∀ n ∈ source.names, scope.Renames ρ g scope' n) :
    EndsAlike (Option.map (TypeExpr.rename ρ)) (f.argumentHint? scope)
      ((f.rename g).argumentHint? scope') := by
  have hannotations := evaluateAnnotations_rename halike f h
  have hparameters : (f.rename g).parameters = f.parameters.map (Parameter.rename g) := rfl
  unfold argumentHint?
  match hf : f.parameters with
  | [] =>
      simp only [hparameters, hf, List.map_nil]
      exact .of_eq_map rfl
  | [_] =>
      simp only [hparameters, hf, List.map_cons, List.map_nil]
      exact .of_eq_map rfl
  | self :: p :: rest =>
      simp only [hparameters, hf, List.map_cons]
      generalize f.evaluateAnnotations scope = x at hannotations
      generalize (f.rename g).evaluateAnnotations scope' = y at hannotations
      cases hannotations with
      | ok =>
          cases hhint : p.hint with
          | none =>
              simp only [Parameter.rename, hhint, Option.map_none]
              exact .of_eq_map rfl
          | some source =>
              have hsource : source ∈ f.annotations := by simp [annotations, hf, hhint]
              simp only [Parameter.rename, hhint, Option.map_some]
              exact (source.evaluateHint_rename halike (h source hsource)).map fun _ => rfl
      | unknownName n n' => exact .ok none
      | notAType => exact .notAType

structure ReturnHint.RenamesTo (ρ : Renaming) (g : String → String) (hint hint' : ReturnHint) :
    Prop where
  type : hint.type.RenamesTo ρ g hint'.type
  evaluated : hint'.evaluated = hint.evaluated

theorem returnHint_rename (halike : scope.Alike scope') (f : Function)
    (h : ∀ source ∈ f.annotations, ∀ n ∈ source.names, scope.Renames ρ g scope' n) :
    (∃ hint hint', f.returnHint scope = .ok hint ∧ (f.rename g).returnHint scope' = .ok hint' ∧
        hint.RenamesTo ρ g hint') ∨
      ∃ e e', f.returnHint scope = .error e ∧ (f.rename g).returnHint scope' = .error e' := by
  have hannotations := evaluateAnnotations_rename halike f h
  have hreturns : (f.rename g).returns = f.returns.map (TypeSource.rename g) := rfl
  unfold returnHint
  rw [hreturns]
  generalize f.evaluateAnnotations scope = x at hannotations
  generalize (f.rename g).evaluateAnnotations scope' = y at hannotations
  cases hannotations with
  | ok =>
      cases hsource : f.returns with
      | none => exact .inl ⟨_, _, rfl, rfl, .type (.cls .any), rfl⟩
      | some source =>
          have hhint := source.evaluateHint_rename halike (h source (by simp [annotations, hsource]))
          dsimp only [Option.map_some]
          generalize source.evaluateHint scope = x at hhint
          generalize (source.rename g).evaluateHint scope' = y at hhint
          cases hhint with
          | ok t => exact .inl ⟨_, _, rfl, rfl, .type t, rfl⟩
          | unknownName n n' => exact .inr ⟨_, _, rfl, rfl⟩
          | notAType => exact .inr ⟨_, _, rfl, rfl⟩
  | unknownName n n' =>
      cases f.returns with
      | none => exact .inl ⟨_, _, rfl, rfl, .type (.cls .any), rfl⟩
      | some source => exact .inl ⟨_, _, rfl, rfl, .text source, rfl⟩
  | notAType => exact .inr ⟨_, _, rfl, rfl⟩

end Function

end RecordBinding
