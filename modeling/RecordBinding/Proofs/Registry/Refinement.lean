import Mathlib.Data.List.Induction
import RecordBinding.Proofs.Binding.Congruence
import RecordBinding.Proofs.Cache.Operations
import RecordBinding.Registry.Resolution

namespace RecordBinding

namespace Registrations

variable {u : Universe} {rs : Registrations}

theorem mem_of_get? {t : TypeExpr} {r : Registration} (h : rs.get? t = some r) :
    ∃ key, (key, r) ∈ rs := by
  obtain ⟨⟨key, found⟩, hfind, rfl⟩ := Option.map_eq_some_iff.1 h
  exact ⟨key, List.mem_of_find?_eq_some hfind⟩

theorem mem_insert {t : TypeExpr} {r : Registration} {entry : TypeExpr × Registration}
    (h : entry ∈ rs.insert t r) : entry ∈ rs ∨ entry.2 = r := by
  unfold insert at h
  split at h
  · obtain ⟨old, hold, heq⟩ := List.mem_map.1 h
    split at heq
    · exact .inr (heq ▸ rfl)
    · exact .inl (heq ▸ hold)
  · rcases List.mem_append.1 h with hold | hnew
    · exact .inl hold
    · exact .inr (List.mem_singleton.1 hnew ▸ rfl)

theorem mem_of_select? {c : ClassId} {r : Registration} (h : rs.select? u c = some r) :
    ∃ key, (key, r) ∈ rs := by
  obtain ⟨candidate, -, hget⟩ := List.exists_of_findSome?_eq_some h
  exact mem_of_get? hget

theorem select?_eq_none_iff (c : ClassId) :
    rs.select? u c = none ↔
      ∀ candidate ∈ c :: u.classes.directBases c, rs.get? (.cls candidate) = none :=
  List.findSome?_eq_none_iff

end Registrations

/-- The factories that a request gives, if any, are steady. -/
def RegistrationRequest.IsSteady (u : Universe) (request : RegistrationRequest) : Prop :=
  ∀ factory, request.builder = some factory ∨ request.create = some factory → factory.IsSteady u

theorem steady_registerAll {u : Universe} {rs : Registrations} {request : RegistrationRequest}
    (hrs : ∀ entry ∈ rs, entry.2.IsSteady u) (hrequest : request.IsSteady u) :
    ∀ entry ∈ Registry.registerAll rs request, entry.2.IsSteady u := by
  have hinsert : ∀ {rs : Registrations} {t : TypeExpr} {r : Registration},
      (∀ entry ∈ rs, entry.2.IsSteady u) → r.IsSteady u →
        ∀ entry ∈ rs.insert t r, entry.2.IsSteady u := by
    intro rs t r hrs hr entry hentry
    rcases Registrations.mem_insert hentry with hold | hnew
    · exact hrs entry hold
    · exact hnew ▸ hr
  have himmutable : Registration.IsSteady u
      ⟨.immutable, request.definition, request.immutable, request.builder⟩ :=
    fun factory h => hrequest factory (.inl h)
  unfold Registry.registerAll
  dsimp only
  split
  · exact hinsert (hinsert hrs himmutable) himmutable
  · exact hinsert (hinsert (hinsert hrs himmutable) himmutable)
      fun factory h => hrequest factory (.inr h)

/-- A command to a registry. A resolution comes with the readings of the clock before it and after a
build; between commands others may change the world. -/
inductive RegistryCommand (τ : Type) where
  | register (request : RegistrationRequest)
  | resolve (t : TypeExpr) (now later : τ)
  | invalidate (t : TypeExpr)
  | clear
  | disturb (change : World → World)

namespace RegistryCommand

variable {τ : Type} [TimeScale τ]

def perform (u : Universe) : RegistryCommand τ → RegistryAction τ Unit
  | register request => RegistryAction.register u request
  | resolve t now later => fun (r, w) =>
      let (_, r, w) := r.resolve u t now later w
      (.ok (), (r, w))
  | invalidate t => RegistryAction.invalidate t
  | clear => RegistryAction.clear
  | disturb change => modify fun (r, w) => (r, change w)

/-- Carries out commands one after the other, whatever their outcomes. -/
def run (u : Universe) (commands : List (RegistryCommand τ)) (start : Registry τ × World) :
    Registry τ × World :=
  commands.foldl (fun state command => ((command.perform u).run state).2) start

theorem run_snoc (u : Universe) (commands : List (RegistryCommand τ)) (command : RegistryCommand τ)
    (start : Registry τ × World) :
    run u (commands ++ [command]) start = ((command.perform u).run (run u commands start)).2 := by
  rw [run, List.foldl_append]
  rfl

def IsSteady (u : Universe) : RegistryCommand τ → Prop
  | register request => request.IsSteady u
  | _ => True

end RegistryCommand

/-- A request that fails its checks. -/
def RegistrationRequest.IsRejected (u : Universe) (τ : Type) (request : RegistrationRequest) : Prop :=
  ∀ r : Registry τ, (r.register u request).2 = r

/-- What comes of binding a type equal to the given one by a registration, at a resolution among the
commands which is followed by rejected requests only. -/
def Registration.Made {τ : Type} [TimeScale τ] (u : Universe) (start : Registry τ × World)
    (commands : List (RegistryCommand τ)) (registration : Registration) (t : TypeExpr)
    (outcome : Except Failure (Binding World)) : Prop :=
  ∃ earlier bound now later rest records,
    commands = earlier ++ .resolve bound now later :: rest ∧ bound.same t = true ∧
      (∀ request, .register request ∈ rest → request.IsRejected u τ) ∧
      outcome = ((registration.bind u bound).run
        (Registry.report (RegistryCommand.run u earlier start).2 records)).1

namespace Registration.Made

variable {τ : Type} [TimeScale τ] {u : Universe} {start : Registry τ × World}
  {commands : List (RegistryCommand τ)} {registration : Registration} {t t' : TypeExpr}
  {outcome : Except Failure (Binding World)}

theorem congr (h : registration.Made u start commands t outcome) (ht : t.same t' = true) :
    registration.Made u start commands t' outcome := by
  obtain ⟨earlier, bound, now, later, rest, records, hcommands, hbound, hrest, houtcome⟩ := h
  exact ⟨earlier, bound, now, later, rest, records, hcommands, TypeExpr.same_trans hbound ht, hrest,
    houtcome⟩

theorem snoc (h : registration.Made u start commands t outcome) {command : RegistryCommand τ}
    (hcommand : ∀ request, command = .register request → request.IsRejected u τ) :
    registration.Made u start (commands ++ [command]) t outcome := by
  obtain ⟨earlier, bound, now, later, rest, records, rfl, hbound, hrest, houtcome⟩ := h
  refine ⟨earlier, bound, now, later, rest ++ [command], records, by simp, hbound, ?_, houtcome⟩
  intro request hmem
  rcases List.mem_append.1 hmem with hold | hlast
  · exact hrest request hold
  · exact hcommand request (List.mem_singleton.1 hlast).symm

theorem last (u : Universe) (start : Registry τ × World) (commands : List (RegistryCommand τ))
    (registration : Registration) (t : TypeExpr) (now later : τ) (records : List LogRecord) :
    registration.Made u start (commands ++ [.resolve t now later]) t
      ((registration.bind u t).run
        (Registry.report (RegistryCommand.run u commands start).2 records)).1 := by
  refine ⟨commands, t, now, later, [], records, rfl, TypeExpr.same_refl t, ?_, rfl⟩
  intro request hmem
  cases hmem

theorem agree (h : registration.Made u start commands t outcome) (hsteady : registration.IsSteady u)
    (ht : t.IsClassType) (w : World) :
    Agree Binding.Agrees outcome ((registration.bind u t).run w).1 := by
  obtain ⟨earlier, bound, now, later, rest, records, -, hbound, -, rfl⟩ := h
  exact Registration.bind_similar hsteady hbound (ht.congr (TypeExpr.same_symm hbound)) _ w

end Registration.Made

namespace Registry

variable {τ : Type} {u : Universe} {r : Registry τ}

theorem register_rejected_or_registered (u : Universe) (request : RegistrationRequest) :
    request.IsRejected u τ ∨ ∀ r : Registry τ,
      (r.register u request).2 = r.registered request := by
  unfold RegistrationRequest.IsRejected Registry.register
  cases request.check u with
  | error failure => exact .inl fun _ => rfl
  | ok _ => exact .inr fun _ => rfl

/-- Between two commands no build is under way, and what is stored under a type was made by the
registration that the type falls to. -/
structure Sound (u : Universe)
    (made : Registration → TypeExpr → Except Failure (Binding World) → Prop)
    (r : Registry τ) : Prop where
  pending : r.cache.pending = []
  steady : ∀ entry ∈ r.registrations, entry.2.IsSteady u
  stored : ∀ key binding, r.cache.Stores key binding →
    ∃ registration, r.registrations.select? u key.erase = some registration ∧
      made registration key (.ok binding)

namespace Sound

variable {made : Registration → TypeExpr → Except Failure (Binding World) → Prop}

theorem mono {made' : Registration → TypeExpr → Except Failure (Binding World) → Prop}
    (h : r.Sound u made) (hmade : ∀ registration t outcome,
      made registration t outcome → made' registration t outcome) : r.Sound u made' := by
  refine ⟨h.pending, h.steady, fun key binding hstores => ?_⟩
  obtain ⟨registration, hselect, hmake⟩ := h.stored key binding hstores
  exact ⟨registration, hselect, hmade _ _ _ hmake⟩

theorem of_keeps (h : r.Sound u made) {cache : Cache TypeExpr (Binding World) τ}
    (kept : r.cache.Keeps cache) : Sound u made { r with cache } :=
  ⟨kept.pending.trans h.pending, h.steady,
    fun key binding hstores => h.stored key binding (kept.stores _ _ hstores)⟩

theorem of_entries_eq_nil (hpending : r.cache.pending = [])
    (hsteady : ∀ entry ∈ r.registrations, entry.2.IsSteady u) (hentries : r.cache.entries = []) :
    r.Sound u made := by
  refine ⟨hpending, hsteady, ?_⟩
  rintro key binding ⟨stored, entry, hmem, -, -⟩
  rw [hentries] at hmem
  cases hmem

theorem invalidate (h : r.Sound u made) (t : TypeExpr) :
    Sound u made { r with cache := r.cache.invalidate t } := by
  refine ⟨?_, h.steady, fun key binding hstores => h.stored key binding
    (r.cache.stores_invalidate hstores).1⟩
  change r.cache.pending.filter _ = []
  rw [h.pending, List.filter_nil]

variable [TimeScale τ]

theorem getOrBuild (h : r.Sound u made) {registration : Registration} {t : TypeExpr}
    (hselect : r.registrations.select? u t.erase = some registration) (now later : τ) (w : World)
    (hcongr : ∀ t', t.same t' = true → ∀ outcome,
      made registration t outcome → made registration t' outcome)
    (hrun : ∀ records, made registration t ((registration.bind u t).run (report w records)).1) :
    made registration t (r.getOrBuild u registration t now later w).1 ∧
      Sound u made (r.getOrBuild u registration t now later w).2.1 := by
  have hlooked := r.cache.looked t now
  unfold Registry.getOrBuild
  generalize r.cache.lookup t now = looked at hlooked
  rcases looked with ⟨⟨outcome, swept, expired⟩, cache⟩
  dsimp only at hlooked ⊢
  cases hlooked with
  | hit hvalue kept =>
      obtain ⟨found, hfound, hmade⟩ := h.stored _ _ hvalue
      rw [hselect] at hfound
      cases hfound
      exact ⟨hmade, h.of_keeps kept⟩
  | wait hbuild kept =>
      obtain ⟨asked, hmem, -⟩ := r.cache.mem_of_pending? hbuild
      rw [h.pending] at hmem
      cases hmem
  | run hnone hentry hstores hpending hgeneration hbuilds =>
      dsimp only
      generalize lookupReports u t _ = records
      have hmade := hrun records
      generalize (registration.bind u t).run (report w records) = ended at hmade
      rcases ended with ⟨result, w'⟩
      rw [h.pending, List.nil_append] at hpending
      have hreleased : (cache.release (r.cache.nextTicket t)).pending = [] :=
        Cache.release_pending_of_single cache hpending
      cases result with
      | error failure =>
          refine ⟨hmade, hreleased, h.steady, ?_⟩
          intro key binding hkept
          exact h.stored key binding (hstores _ _ ((cache.stores_release _).1 hkept))
      | ok binding =>
          refine ⟨hmade, (cache.publish_pending _ _ _).trans hreleased, h.steady, ?_⟩
          intro key stored hkept
          rcases cache.stores_publish hkept with hold | ⟨-, hkey, rfl⟩
          · exact h.stored key stored (hstores _ _ hold)
          · refine ⟨registration, ?_, hcongr key hkey _ hmade⟩
            rw [← TypeExpr.erase_congr hkey]
            exact hselect

theorem resolve (h : r.Sound u made) (t : TypeExpr) (now later : τ) (w : World)
    (hcongr : ∀ registration t', t.same t' = true → ∀ outcome,
      made registration t outcome → made registration t' outcome)
    (hrun : ∀ registration records,
      made registration t ((registration.bind u t).run (report w records)).1) :
    Sound u made (r.resolve u t now later w).2.1 := by
  unfold Registry.resolve
  split
  · exact h
  · next registration hselect =>
      split
      · exact (h.getOrBuild hselect now later w (hcongr registration) (hrun registration)).2
      · exact h.of_keeps (r.cache.keeps_sweep now)

theorem resolve_outcome (h : r.Sound u made) {registration : Registration} {t : TypeExpr}
    (hselect : r.registrations.select? u t.erase = some registration) (hkey : t.isKey = true)
    (now later : τ) (w : World)
    (hcongr : ∀ t', t.same t' = true → ∀ outcome,
      made registration t outcome → made registration t' outcome)
    (hrun : ∀ records, made registration t ((registration.bind u t).run (report w records)).1) :
    ∃ outcome, (r.resolve u t now later w).1 = outcome.map some ∧ made registration t outcome := by
  refine ⟨(r.getOrBuild u registration t now later w).1, ?_,
    (h.getOrBuild hselect now later w hcongr hrun).1⟩
  rw [Registry.resolve, hselect]
  dsimp only
  rw [if_pos hkey]

end Sound

theorem resolve_eq_none_of_select?_eq_none [TimeScale τ] {t : TypeExpr}
    (hselect : r.registrations.select? u t.erase = none) (now later : τ) (w : World) :
    (r.resolve u t now later w).1 = .ok none := by
  rw [Registry.resolve, hselect]

end Registry

namespace RegistryCommand

variable {τ : Type} [TimeScale τ] {u : Universe}

theorem registry_of_register (u : Universe) (request : RegistrationRequest) (r : Registry τ)
    (w : World) :
    ((perform u (.register request)).run (r, w)).2.1 = (r.register u request).2 := by
  change (RegistryAction.register u request (r, w)).2.1 = _
  unfold RegistryAction.register
  dsimp only
  split <;> simp_all

theorem sound_perform {start : Registry τ × World} {commands : List (RegistryCommand τ)}
    (h : (run u commands start).1.Sound u fun registration => registration.Made u start commands)
    (command : RegistryCommand τ) (hcommand : command.IsSteady u) :
    (run u (commands ++ [command]) start).1.Sound u fun registration =>
      registration.Made u start (commands ++ [command]) := by
  have hkept : (∀ request, command = .register request → request.IsRejected u τ) →
      (run u commands start).1.Sound u fun registration =>
        registration.Made u start (commands ++ [command]) := by
    intro hrejected
    exact h.mono fun registration t outcome hmade => hmade.snoc hrejected
  rw [run_snoc]
  generalize hstate : run u commands start = state at h hkept ⊢
  obtain ⟨r, w⟩ := state
  cases command with
  | register request =>
      rw [registry_of_register]
      rcases Registry.register_rejected_or_registered (τ := τ) u request with hrejected | hregistered
      · rw [hrejected r]
        refine hkept ?_
        rintro _ ⟨⟩
        exact hrejected
      · rw [hregistered r]
        exact .of_entries_eq_nil rfl (steady_registerAll h.steady hcommand) rfl
  | resolve t now later =>
      refine (hkept fun _ h => nomatch h).resolve t now later w ?_ ?_
      · exact fun registration t' ht outcome hmade => hmade.congr ht
      · intro registration records
        have hlast := Registration.Made.last u start commands registration t now later records
        rwa [hstate] at hlast
  | invalidate t =>
      have hsound := hkept fun _ h => nomatch h
      change Registry.Sound u _ (RegistryAction.invalidate t (r, w)).2.1
      unfold RegistryAction.invalidate
      split
      · exact hsound.invalidate t
      · exact hsound
  | clear => exact .of_entries_eq_nil rfl h.steady rfl
  | disturb change => exact hkept fun _ h => nomatch h

theorem sound_run (commands : List (RegistryCommand τ))
    (hsteady : ∀ command ∈ commands, command.IsSteady u) (idleTime start : τ) (w : World) :
    (run u commands (Registry.empty idleTime start, w)).1.Sound u fun registration =>
      registration.Made u (Registry.empty idleTime start, w) commands := by
  induction commands using List.reverseRecOn with
  | nil =>
      refine .of_entries_eq_nil rfl ?_ rfl
      intro entry hentry
      cases hentry
  | append_singleton commands command ih =>
      refine sound_perform (ih ?_) command ?_
      · exact fun earlier hmem => hsteady earlier (List.mem_append_left _ hmem)
      · exact hsteady command (List.mem_append_right _ (List.mem_singleton.2 rfl))

section

variable {commands : List (RegistryCommand τ)} (hsteady : ∀ command ∈ commands, command.IsSteady u)
  (idleTime start : τ) (w₀ : World) {t : TypeExpr} (hkey : t.isKey = true) {registration : Registration}
  (hselect : (run u commands (Registry.empty idleTime start, w₀)).1.registrations.select? u t.erase =
    some registration)

include hsteady hkey hselect

/-- After any commands a type is answered with what its registration made. -/
theorem resolve_made (now later : τ) :
    let state := run u commands (Registry.empty idleTime start, w₀)
    ∃ outcome, (state.1.resolve u t now later state.2).1 = outcome.map some ∧
      registration.Made u (Registry.empty idleTime start, w₀)
        (commands ++ [.resolve t now later]) t outcome := by
  intro state
  have hsound := sound_run commands hsteady idleTime start w₀
  refine (hsound.mono fun r t outcome h => h.snoc ?_).resolve_outcome hselect hkey now later
    state.2 (fun t' ht' outcome h => h.congr ht') fun records => ?_
  · rintro _ ⟨⟩
  · exact .last u _ commands registration t now later records

theorem resolve_agrees (ht : t.IsClassType) (now later : τ) (w : World) :
    let state := run u commands (Registry.empty idleTime start, w₀)
    Agree (fun found direct => ∃ binding, found = some binding ∧ binding.Agrees direct)
      (state.1.resolve u t now later state.2).1 ((registration.bind u t).run w).1 := by
  intro state
  have hsound := sound_run commands hsteady idleTime start w₀
  obtain ⟨outcome, hresult, hmade⟩ := resolve_made hsteady idleTime start w₀ hkey hselect now later
  obtain ⟨key, hmem⟩ := Registrations.mem_of_select? hselect
  rw [hresult]
  exact (hmade.agree (hsound.steady _ hmem) ht w).map_some

end

end RegistryCommand

/-- Resolution through the cache refines resolution without it. After any commands, a type without a
registered raw class or direct base has no binding; any other is answered as the registration that it
falls to would answer in any world, with what this registration made since the last accepted request. -/
theorem Registry.resolve_refines_bind {τ : Type} [TimeScale τ] (u : Universe) (idleTime start : τ)
    (w₀ : World) (commands : List (RegistryCommand τ))
    (hsteady : ∀ command ∈ commands, command.IsSteady u) {t : TypeExpr} (ht : t.IsClassType)
    (hkey : t.isKey = true) (now later : τ) :
    let state := RegistryCommand.run u commands (Registry.empty idleTime start, w₀)
    let result := (state.1.resolve u t now later state.2).1
    (result = .ok none ↔
      ∀ c ∈ t.erase :: u.classes.directBases t.erase,
        state.1.registrations.get? (.cls c) = none) ∧
    ∀ registration, state.1.registrations.select? u t.erase = some registration →
      (∀ w, Agree (fun found direct => ∃ binding, found = some binding ∧ binding.Agrees direct)
        result ((registration.bind u t).run w).1) ∧
      ∃ outcome, result = outcome.map some ∧
        registration.Made u (Registry.empty idleTime start, w₀)
          (commands ++ [.resolve t now later]) t outcome := by
  intro state result
  have hagree : ∀ registration, state.1.registrations.select? u t.erase = some registration →
      ∀ w, Agree (fun found direct => ∃ binding, found = some binding ∧ binding.Agrees direct)
        result ((registration.bind u t).run w).1 :=
    fun registration hselect => RegistryCommand.resolve_agrees hsteady idleTime start w₀ hkey hselect
      ht now later
  refine ⟨?_, fun registration hselect => ⟨hagree registration hselect,
    RegistryCommand.resolve_made hsteady idleTime start w₀ hkey hselect now later⟩⟩
  rw [← Registrations.select?_eq_none_iff]
  constructor
  · intro hresult
    rw [Option.eq_none_iff_forall_ne_some]
    intro registration hselect
    have h := hagree registration hselect state.2
    rw [hresult] at h
    obtain ⟨_, -, binding, hbinding, -⟩ := h.exists_ok_right
    cases hbinding
  · intro hselect
    exact resolve_eq_none_of_select?_eq_none hselect now later state.2

/-- A definition with one property and a class for it, with two classes that build it. -/
def shapes : Universe :=
  let shape : ClassId := .declared "Shape"
  let disc : ClassId := .declared "Disc"
  let self : Parameter := ⟨"self", .positional, false, none⟩
  let value : Parameter := ⟨"value", .positional, false, some (.name "int")⟩
  let method (c name : String) (parameters : Signature) (returns : String) (body : Body) : Member :=
    ⟨name, .method ⟨c ++ "." ++ name, name, parameters, some (.name returns), body⟩, false⟩
  let builder (c : String) : ClassInfo :=
    ⟨c, .concrete, [], [], [], [.object], [.declared c, .object],
      [method c "radius" [self, value] c (.set "radius"),
        method c "build" [self] "Disc" (.build "Disc" ["radius"])], [], []⟩
  { module := "shapes"
    classes :=
      [⟨"Disc", .concrete, [], [], [.cls shape], [shape], [disc, shape, .object],
          [method "Disc" "radius" [self] "int" (.get "radius" none),
            ⟨"builder", .staticMethod ⟨"Disc.builder", "builder", [], none, .create "Turner"⟩, false⟩],
          [], []⟩,
        builder "Turner", builder "Lathe",
        ⟨"Shape", .protocol, [], [], [], [.object], [shape, .object],
          [method "Shape" "radius" [self] "int" .nothing], ["radius"], []⟩]
    names := ["Disc", "Turner", "Lathe", "Shape"].map fun name => (name, .cls (.declared name))
    functions := []
    values := [] }

/-- Discs are built as their class says. -/
def shapeRequest : RegistrationRequest :=
  ⟨.cls (.declared "Shape"), .cls (.declared "Disc"), .none, none, none⟩

/-- Discs are built by the other class. -/
def latheRequest : RegistrationRequest :=
  { shapeRequest with builder := some (.value (.type (.cls (.declared "Lathe")))) }

theorem shapeRequests_areSteady : shapeRequest.IsSteady shapes ∧ latheRequest.IsSteady shapes := by
  refine ⟨by rintro factory (⟨⟨⟩⟩ | ⟨⟨⟩⟩), ?_⟩
  rintro factory (⟨⟨⟩⟩ | ⟨⟨⟩⟩)
  exact Attribute.isSteady_class _

/-- The first binding comes from the cache, until another registration takes the place of the one that made
it. -/
theorem Registry.resolve_refines_bind_shapes :
    let disc : TypeExpr := .cls (.declared "Disc")
    let start : Registry Int × World := (Registry.empty 60 0, {})
    let once : List (RegistryCommand Int) := [.register shapeRequest, .resolve disc 0 1]
    let twice := once ++ [.register latheRequest]
    let resolved := fun commands : List (RegistryCommand Int) =>
      let state := RegistryCommand.run shapes commands start
      (state.1.resolve shapes disc 5 7 state.2).1
    (∀ command ∈ twice, command.IsSteady shapes) ∧ disc.IsClassType ∧ disc.isKey = true ∧
      (∃ b, resolved once = .ok (some b) ∧ b.names = ["radius"] ∧
        b.builderClass = some (.declared "Turner") ∧ b.serial = 0 ∧
        ∃ registration : Registration,
          registration.Made shapes start (once ++ [.resolve disc 5 7]) disc (.ok b)) ∧
      ∃ b, resolved twice = .ok (some b) ∧ b.names = ["radius"] ∧
        b.builderClass = some (.declared "Lathe") ∧ b.serial = 1 ∧
        ∃ registration : Registration,
          registration.Made shapes start (twice ++ [.resolve disc 5 7]) disc (.ok b) := by
  intro disc start once twice resolved
  have hsteady : ∀ command ∈ twice, command.IsSteady shapes := by
    simpa [twice, once, RegistryCommand.IsSteady] using shapeRequests_areSteady
  have hok : ∀ {outcome : Except Failure (Binding World)} {b : Binding World},
      .ok (some b) = outcome.map some → outcome = .ok b := by
    rintro (_ | _) b ⟨⟩
    rfl
  have honce := Registry.resolve_refines_bind shapes (60 : Int) 0 {} once
    (fun command hcommand => hsteady command (List.mem_append_left _ hcommand))
    (.cls (.declared "Disc")) rfl 5 7
  have htwice := Registry.resolve_refines_bind shapes (60 : Int) 0 {} twice hsteady
    (.cls (.declared "Disc")) rfl 5 7
  refine ⟨hsteady, .cls _, rfl, ?_, ?_⟩
  · obtain ⟨b, hb, hnames, hbuilder, hserial⟩ : ∃ b, resolved once = .ok (some b) ∧
        b.names = ["radius"] ∧ b.builderClass = some (.declared "Turner") ∧ b.serial = 0 :=
      ⟨_, rfl, rfl, rfl, rfl⟩
    obtain ⟨-, outcome, hresult, hmade⟩ := honce.2
      ⟨.immutable, shapeRequest.definition, shapeRequest.immutable, shapeRequest.builder⟩ rfl
    exact ⟨b, hb, hnames, hbuilder, hserial, _, hok (hb.symm.trans hresult) ▸ hmade⟩
  · obtain ⟨b, hb, hnames, hbuilder, hserial⟩ : ∃ b, resolved twice = .ok (some b) ∧
        b.names = ["radius"] ∧ b.builderClass = some (.declared "Lathe") ∧ b.serial = 1 :=
      ⟨_, rfl, rfl, rfl, rfl⟩
    obtain ⟨-, outcome, hresult, hmade⟩ := htwice.2
      ⟨.immutable, latheRequest.definition, latheRequest.immutable, latheRequest.builder⟩ rfl
    exact ⟨b, hb, hnames, hbuilder, hserial, _, hok (hb.symm.trans hresult) ▸ hmade⟩

end RecordBinding
