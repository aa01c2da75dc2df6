import RecordBinding.CommandLine.Inspector
import RecordBinding.Proofs.Binding.Narrowing
import RecordBinding.Proofs.Registry.Refinement

namespace RecordBinding

theorem Registry.registrations_resolve {τ : Type} [TimeScale τ] (u : Universe) (r : Registry τ)
    (t : TypeExpr) (now later : τ) (w : World) :
    (r.resolve u t now later w).2.1.registrations = r.registrations := by
  unfold resolve
  split
  · rfl
  · split
    · unfold getOrBuild
      dsimp only
      split
      · rfl
      · rfl
      · split <;> rfl
    · rfl

namespace RegistryCommand

variable {τ : Type} {u : Universe}

/-- Whether a command registers nothing. -/
def KeepsRegistrations : RegistryCommand τ → Prop
  | register _ => False
  | _ => True

theorem KeepsRegistrations.isSteady {command : RegistryCommand τ} (h : command.KeepsRegistrations) :
    command.IsSteady u := by
  cases command with
  | register request => exact h.elim
  | _ => trivial

variable [TimeScale τ]

theorem registrations_run {commands : List (RegistryCommand τ)}
    (h : ∀ command ∈ commands, command.KeepsRegistrations) (state : Registry τ × World) :
    (run u commands state).1.registrations = state.1.registrations := by
  induction commands generalizing state with
  | nil => rfl
  | cons command commands ih =>
      obtain ⟨hcommand, hcommands⟩ := List.forall_mem_cons.1 h
      have hstep : ((command.perform u).run state).2.1.registrations = state.1.registrations := by
        cases command with
        | register request => exact hcommand.elim
        | resolve t now later => exact Registry.registrations_resolve u state.1 t now later state.2
        | invalidate t =>
            change (RegistryAction.invalidate t state).2.1.registrations = _
            unfold RegistryAction.invalidate
            split <;> rfl
        | clear => rfl
        | disturb change => rfl
      exact (ih hcommands _).trans hstep

theorem run_append (first second : List (RegistryCommand τ)) (state : Registry τ × World) :
    run u (first ++ second) state = run u second (run u first state) :=
  List.foldl_append

end RegistryCommand

namespace CommandLine

open RegistryCommand

/-- A record in the log of the world, as a command. -/
def noted (severity : Severity) (message : String) : RegistryCommand Number :=
  .disturb fun w => { w with log := w.log.push ⟨severity, .commandLine, message⟩ }

/-- Binding types in order is resolving them one by one, with records in the log between; if all can be
bound, each is answered with a binding when its turn comes. -/
theorem checkTypes_run (u : Universe) (clock : Nat → Number) (n : Nat) (types : List TypeExpr)
    (state : Registry Number × World) :
    ∃ commands : List (RegistryCommand Number), (∀ command ∈ commands, command.KeepsRegistrations) ∧
      ((checkTypes u clock n types).run state).2 = RegistryCommand.run u commands state ∧
      (((checkTypes u clock n types).run state).1 = .ok true → ∀ t ∈ types, ∃ before rest b now later,
        commands = before ++ .resolve t now later :: rest ∧
          ((RegistryCommand.run u before state).1.resolve u t now later
            (RegistryCommand.run u before state).2).1 = .ok (some b)) := by
  induction types generalizing n state with
  | nil => exact ⟨[], by simp, rfl, by simp⟩
  | cons t types ih =>
      let now := clock n
      let later := clock (n + 1)
      let resolved := RegistryCommand.run u [.resolve t now later] state
      rcases hfound : (RegistryAction.resolve u t now later).run state with ⟨found, after⟩
      obtain rfl : after = resolved := (congrArg Prod.snd hfound).symm
      rw [checkTypes, Action.run_bind, hfound]
      rcases found with e | _ | b
      · exact ⟨[.resolve t now later], by simp [KeepsRegistrations], rfl, nofun⟩
      · cases hname : t.qualname? with
        | none =>
            simp only [nameOf, hname]
            exact ⟨[.resolve t now later], by simp [KeepsRegistrations], rfl, nofun⟩
        | some name =>
            simp only [nameOf, hname]
            exact ⟨[.resolve t now later, noted .warning (name ++ ": no binding registered")],
              by simp [KeepsRegistrations, noted], rfl, nofun⟩
      · cases hname : t.qualname? with
        | none =>
            simp only [nameOf, hname]
            exact ⟨[.resolve t now later], by simp [KeepsRegistrations], rfl, nofun⟩
        | some name =>
            simp only [nameOf, hname]
            let said : RegistryCommand Number :=
              noted .info (name ++ ": " ++ toString b.accessors.length ++ " properties")
            obtain ⟨commands, hkeeps, hrun, hall⟩ := ih (n + 2) (RegistryCommand.run u [said] resolved)
            refine ⟨.resolve t now later :: said :: commands, ?_, hrun, fun htrue => ?_⟩
            · simpa [KeepsRegistrations, said, noted] using hkeeps
            · refine List.forall_mem_cons.2 ⟨⟨[], said :: commands, b, now, later, rfl, ?_⟩, fun t' ht' => ?_⟩
              · exact congrArg Prod.fst hfound
              · obtain ⟨before, rest, b', now', later', rfl, hb'⟩ := hall htrue t' ht'
                exact ⟨.resolve t now later :: said :: before, rest, b', now', later', rfl, hb'⟩

end CommandLine

theorem Registrations.exists_select? {u : Universe} {rs : Registrations} {c : ClassId}
    (h : TypeExpr.cls c ∈ rs.map (·.1)) : ∃ registration, rs.select? u c = some registration := by
  obtain ⟨entry, hentry, hkey⟩ := List.mem_map.1 h
  have hfound : (rs.get? (.cls c)).isSome := by
    rw [get?, Option.isSome_map, List.find?_isSome]
    exact ⟨entry, hentry, hkey ▸ TypeExpr.same_refl _⟩
  obtain ⟨registration, hregistration⟩ := Option.isSome_iff_exists.1 hfound
  exact ⟨registration, by rw [select?, List.findSome?_cons, hregistration]⟩

theorem Binding.Agrees.names_eq {σ : Type} {b b' : Binding σ} (h : b.Agrees b') :
    b.names = b'.names :=
  Accessor.map_name_eq (h.accessors.imp fun _ _ ha => ha.name)

namespace CommandLine

open RegistryCommand

/-- A check that passes covers every parameterisation. Whatever is done afterwards without registering, a
registered class and that class with arguments within the bounds of its type parameters are both
resolved, to bindings with the same property names. The type parameters must be kept apart in the unions
that annotate the readers of the definition, and the arguments must be able to be keys. -/
theorem check_covers_parameterisations {m : ModuleDeclaration} (hm : m.IsWellDefined)
    {commands : List (RegistryCommand Number)}
    (hsteady : ∀ command ∈ commands, command.IsSteady m.toUniverse) (idleTime start : Number)
    (w₀ : World) (clock : Nat → Number) :
    let u := m.toUniverse
    let state := RegistryCommand.run u commands (Registry.empty idleTime start, w₀)
    let checked := (check u clock).run state
    checked.1 = .ok true → ∀ {c}, TypeExpr.cls c ∈ state.1.types → c ≠ .any →
      (∀ registration, state.1.registrations.select? u c = some registration →
        u.KeepsApart c registration.definition) →
      ∀ {args}, u.IsParameterisation c args → (TypeExpr.generic c args).isKey = true →
        ∀ {later : List (RegistryCommand Number)}, (∀ command ∈ later, command.KeepsRegistrations) →
          ∀ before after before' after' : Number,
            let reached := RegistryCommand.run u later checked.2
            ∃ b b', (reached.1.resolve u (.cls c) before after reached.2).1 = .ok (some b) ∧
              (reached.1.resolve u (.generic c args) before' after' reached.2).1 = .ok (some b') ∧
              b'.names = b.names := by
  intro u state checked hchecked c hc hany hapart args hargs hkey later hlater before after before' after'
    reached
  have hclass : (TypeExpr.cls c).erase = c := if_neg hany
  obtain ⟨registration, hselect⟩ := Registrations.exists_select? (u := u) hc
  obtain ⟨checks, hchecks, hrun, hall⟩ := checkTypes_run u clock 0 state.1.types state
  obtain ⟨first, rest, b₀, now, afterwards, hsplit, hb₀⟩ := hall hchecked _ hc
  have hfirst : ∀ command ∈ first, command.KeepsRegistrations :=
    fun command h => hchecks command (hsplit ▸ List.mem_append_left _ h)
  have hextra : ∀ command ∈ checks ++ later, command.KeepsRegistrations :=
    fun command h => (List.mem_append.1 h).elim (hchecks command) (hlater command)
  -- what registers nothing leaves the class with its registration, and that answers in any world alike
  have hagrees : ∀ {extra : List (RegistryCommand Number)},
      (∀ command ∈ extra, command.KeepsRegistrations) → ∀ {t : TypeExpr}, t.IsClassType →
        t.erase = c → t.isKey = true → ∀ now later w,
          Agree (fun found direct => ∃ binding, found = some binding ∧ binding.Agrees direct)
            ((RegistryCommand.run u extra state).1.resolve u t now later
              (RegistryCommand.run u extra state).2).1 ((registration.bind u t).run w).1 := by
    intro extra hkeeps t ht herase hkey now later w
    rw [show RegistryCommand.run u extra state = _ from (run_append commands extra _).symm]
    refine resolve_agrees (fun command h => ?_) idleTime start w₀ hkey ?_ ht now later w
    · exact (List.mem_append.1 h).elim (hsteady command) fun h => (hkeeps command h).isSteady
    · rw [run_append, registrations_run hkeeps, herase]
      exact hselect
  have hregistration : registration.IsSteady u := by
    obtain ⟨key, hmem⟩ := Registrations.mem_of_select? hselect
    exact (sound_run commands hsteady idleTime start w₀).steady _ hmem
  have hleads := Registration.bind_leads hm.ordered hregistration
    (ModuleDeclaration.discover_narrows hm hany hargs (hapart registration hselect))
  have hreached : reached = RegistryCommand.run u (checks ++ later) state := by
    rw [run_append, ← hrun]
    rfl
  have hbound := hagrees hfirst (.cls c) hclass rfl now afterwards reached.2
  rw [hb₀] at hbound
  obtain ⟨direct, hdirect, -⟩ := hbound.exists_ok_right
  obtain ⟨direct', hdirect', hnames⟩ := hleads _ reached.2 _ hdirect
  have halone := hagrees hextra (.cls c) hclass rfl before after reached.2
  have happlied := hagrees hextra (.generic c args) rfl hkey before' after' reached.2
  rw [hdirect] at halone
  rw [hdirect'] at happlied
  obtain ⟨_, hresult, b, rfl, hb⟩ := halone.exists_ok_left
  obtain ⟨_, hresult', b', rfl, hb'⟩ := happlied.exists_ok_left
  rw [← hreached] at hresult hresult'
  exact ⟨b, b', hresult, hresult', by rw [hb.names_eq, hb'.names_eq, hnames]⟩

/-- A protocol for an item, a class for items that are built, and one for items that can be set. -/
def crates (types : List TypeDeclaration) (item : TypeSource) (parameters : List TypeParameter) :
    ModuleDeclaration :=
  let self : Parameter := ⟨"self", .positional, false, none⟩
  { name := "crates"
    types
    classes :=
      [⟨"Root", .protocol, [⟨"V", none⟩], [],
          [⟨"item", .method ⟨"Root.item", "item", [self], some item, .nothing⟩, false⟩], []⟩,
        ⟨"FixedBuilder", .concrete, [], [],
          [⟨"item", .method ⟨"FixedBuilder.item", "item",
              [self, ⟨"value", .positional, false, none⟩], none, .set "item"⟩, false⟩,
            ⟨"build", .method ⟨"FixedBuilder.build", "build", [self], none, .build "Fixed" []⟩,
              false⟩], []⟩,
        ⟨"Fixed", .concrete, [], [.apply "Root" [.name "int"]],
          [⟨"item", .method ⟨"Fixed.item", "item", [self], none, .get "item" none⟩, false⟩,
            ⟨"builder", .staticMethod
              ⟨"Fixed.builder", "builder", [], none, .create "FixedBuilder"⟩, false⟩], []⟩,
        ⟨"Pair", .concrete, parameters, [.apply "Root" [.name "T"]],
          [⟨"item", .method ⟨"Pair.item", "item", [self], some (.name "T"), .get "item" none⟩, false⟩,
            ⟨"setItem", .method ⟨"Pair.setItem", "setItem",
              [self, ⟨"value", .positional, false, some (.name "int")⟩], none, .set "item"⟩, false⟩,
            ⟨"create", .staticMethod ⟨"Pair.create", "create", [], none, .create "Pair"⟩, false⟩],
          []⟩]
    functions := []
    values := [] }

def crateRequest : RegistrationRequest :=
  ⟨.cls (.declared "Root"), .cls (.declared "Fixed"), .cls (.declared "Pair"), none, none⟩

/-- A check of the registry that holds one request. -/
def checkOf (u : Universe) : Except Failure Bool × (Registry Number × World) :=
  (check u fun _ => .int 0).run
    (RegistryCommand.run u [.register crateRequest] (Registry.empty (.int 600) (.int 0), {}))

/-- Crates in which each class mentions its own type variables only. -/
def boundedCrates : ModuleDeclaration := crates [] (.name "V") [⟨"T", some (.name "int")⟩]

/-- Crates in which the protocol joins its parameter with a type variable of the module, which is also the
parameter of a class and what that puts for the parameter of the protocol. -/
def sharedCrates : ModuleDeclaration :=
  crates [.typeVar "T" (some (.name "int"))] (.union [.name "V", .name "T"]) []

theorem isWellDefined_crates {types : List TypeDeclaration} {item : TypeSource}
    {parameters : List TypeParameter}
    (hordered : (crates types item parameters).toUniverse.classes.IsOrdered)
    (hwellBased : (crates types item parameters).toUniverse.classes.AreWellBased) :
    (crates types item parameters).IsWellDefined :=
  ⟨hordered, hwellBased, by simp [ModuleDeclaration.ValuesFormed, crates],
    by simp [ModuleDeclaration.ValuesKnown, crates]⟩

theorem crateRequest_isSteady (u : Universe) :
    ∀ command ∈ [RegistryCommand.register (τ := Number) crateRequest], command.IsSteady u := by
  simp [RegistryCommand.IsSteady, RegistrationRequest.IsSteady, crateRequest]

theorem isParameterisation_singleton {u : Universe} {c : ClassId} {v : TypeVar} {a : TypeExpr}
    (hparams : Classes.parameters u.classes c = [v]) (hformed : a.isCompound = false)
    (hfixed : a.asArgument = a) (hknown : a.IsKnown u.classes)
    (hbelow : u.classes.Below a.erase v.bound) : u.IsParameterisation c [a] := by
  refine ⟨by simpa using ⟨.plain hformed, hfixed⟩, by simpa using hknown, ?_⟩
  rw [hparams]
  exact .cons hbelow .nil

theorem check_covers_parameterisations_bool :
    let u := boundedCrates.toUniverse
    let pair : ClassId := .declared "Pair"
    let args : List TypeExpr := [.ofBuiltin .bool]
    let checked := checkOf u
    let reached := RegistryCommand.run u [.clear] checked.2
    boundedCrates.IsWellDefined ∧ checked.1 = .ok true ∧ u.KeepsApart pair crateRequest.definition ∧
      u.IsParameterisation pair args ∧ (TypeExpr.generic pair args).isKey = true ∧
      ∃ b b', (reached.1.resolve u (.cls pair) (.int 1) (.int 2) reached.2).1 = .ok (some b) ∧
        (reached.1.resolve u (.generic pair args) (.int 1) (.int 2) reached.2).1 = .ok (some b') ∧
        b'.names = b.names := by
  intro u pair args checked reached
  have hm : boundedCrates.IsWellDefined :=
    isWellDefined_crates (by decide +kernel) (by decide +kernel)
  have hchecked : checked.1 = .ok true := ok_of_toOption (by decide +kernel)
  have hapart : u.KeepsApart pair crateRequest.definition := by decide +kernel
  have hselected : ∀ registration,
      (RegistryCommand.run u [.register crateRequest]
        (Registry.empty (Number.int 600) (.int 0), {})).1.registrations.select? u pair =
          some registration →
      u.KeepsApart pair registration.definition := by
    rintro registration ⟨⟩
    exact hapart
  have hargs : u.IsParameterisation pair args :=
    isParameterisation_singleton (v := ⟨some "Pair", "T", .builtin .int⟩) (by decide +kernel) rfl rfl
      (TypeExpr.isKnown_cls (by decide +kernel)) (by decide +kernel)
  have hregistered : TypeExpr.cls pair ∈ [crateRequest.definition, crateRequest.immutable, .cls pair] := by
    simp
  exact ⟨hm, hchecked, hapart, hargs, rfl,
    check_covers_parameterisations hm (crateRequest_isSteady u) (.int 600) (.int 0) {} _ hchecked
      hregistered nofun hselected hargs rfl (by simp [KeepsRegistrations]) _ _ _ _⟩

/-- A passing check does not cover a parameter that a union in another class mentions besides one that stands
for it, nor an argument that cannot be a key. -/
theorem check_misses_parameterisations :
    let pair : ClassId := .declared "Pair"
    let root : ClassId := .declared "Root"
    let resolved := fun (m : ModuleDeclaration) t =>
      let reached := (checkOf m.toUniverse).2
      (reached.1.resolve m.toUniverse t (.int 0) (.int 0) reached.2).1
    (sharedCrates.IsWellDefined ∧ (checkOf sharedCrates.toUniverse).1 = .ok true ∧
      ¬ sharedCrates.toUniverse.KeepsApart pair crateRequest.definition ∧
      sharedCrates.toUniverse.IsParameterisation pair [.ofBuiltin .bool] ∧
      (TypeExpr.generic pair [.ofBuiltin .bool]).isKey = true ∧
      ∃ failure, resolved sharedCrates (.generic pair [.ofBuiltin .bool]) = .error failure ∧
        failure.kind = .shape) ∧
    boundedCrates.IsWellDefined ∧ (checkOf boundedCrates.toUniverse).1 = .ok true ∧
      boundedCrates.toUniverse.KeepsApart root crateRequest.definition ∧
      boundedCrates.toUniverse.IsParameterisation root [.datum (.list [])] ∧
      ∃ failure, resolved boundedCrates (.generic root [.datum (.list [])]) = .error failure ∧
        failure.kind = .typeError := by
  intro pair root resolved
  have hbool : sharedCrates.toUniverse.IsParameterisation pair [.ofBuiltin .bool] :=
    isParameterisation_singleton (v := ⟨none, "T", .builtin .int⟩) (by decide +kernel) rfl rfl
      (TypeExpr.isKnown_cls (by decide +kernel)) (by decide +kernel)
  have hlist : boundedCrates.toUniverse.IsParameterisation root [.datum (.list [])] :=
    isParameterisation_singleton (v := ⟨some "Root", "V", .object⟩) (by decide +kernel) rfl rfl
      (by simp [TypeExpr.IsKnown, TypeExpr.named]) (by decide +kernel)
  exact ⟨⟨isWellDefined_crates (by decide +kernel) (by decide +kernel),
      ok_of_toOption (by decide +kernel), by decide +kernel, hbool, rfl,
      Failure.exists_of_kindOf? (by decide +kernel)⟩,
    isWellDefined_crates (by decide +kernel) (by decide +kernel), ok_of_toOption (by decide +kernel),
    by decide +kernel, hlist, Failure.exists_of_kindOf? (by decide +kernel)⟩

end CommandLine

end RecordBinding
