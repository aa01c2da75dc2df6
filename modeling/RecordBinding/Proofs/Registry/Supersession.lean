import RecordBinding.Proofs.Binding.Building
import RecordBinding.Proofs.Binding.Isolation
import RecordBinding.Proofs.Registry.Concurrency

namespace RecordBinding.SharedRegistry

variable {τ : Type} {u : Universe} {s : SharedRegistry τ}

/-- No registration is under way at a time: those that had written then had cleared the cache. -/
def IsQuietAt (s : SharedRegistry τ) (time : Nat) : Prop :=
  ∀ j register, s.registers j = some register → ∀ written ∈ register.written, written < time →
    ∃ cleared, register.cleared = some cleared ∧ cleared < time

/-- The cache is asked at a time since the last registration that had cleared it by another time. -/
def IsSinceClearing (s : SharedRegistry τ) (asked time : Nat) : Prop :=
  ∀ j register cleared, s.registers j = some register → register.cleared = some cleared →
    cleared < time → cleared < asked

/-- A resolve of a type that asks the cache since the last registration before a time looks in the map after
all registrations before that time have written. -/
def NoneOvertaken (s : SharedRegistry τ) (t : TypeExpr) (time : Nat) : Prop :=
  ∀ i r call, s.resolves i = some r → (r.type == t) = true → s.cache.calls i = some call →
    s.IsSinceClearing call.lookedUp time →
      ∀ j register cleared, s.registers j = some register → register.cleared = some cleared →
        cleared < time → ∀ written ∈ register.written, written < r.time

/-- A resolve that looks in the map while no registration is under way comes to what the factory that the map
has for its type makes, at a time from that lookup to the one in the cache; unless a resolve of the type that
was overtaken by a registration between its own two lookups has asked the cache since. If no registration
writes between the two, the factory is the one that the resolve found. -/
theorem resolve_not_undone [TimeScale τ] {rs : Registrations} {idleTime start : τ}
    (h : s.Reachable u rs idleTime start) {i : Nat} {r : ResolveCall}
    {call : CacheCall TypeExpr (Binding World) Failure} {outcome : Except Failure (Dated (Binding World))}
    (hresolve : s.resolves i = some r) (hcall : s.cache.calls i = some call)
    (houtcome : call.phase.outcome? = some outcome) (hquiet : s.IsQuietAt r.time)
    (hnone : s.NoneOvertaken r.type r.time) :
    ∃ time registration t w, r.time ≤ time ∧ time < call.lookedUp ∧
      (s.maps time).select? u r.type.erase = some registration ∧ (t == r.type) = true ∧
      outcome.map Dated.value = ((registration.bind u t).run w).1 ∧
      ((∀ j register, s.registers j = some register → ∀ written ∈ register.written,
        written < r.time ∨ call.lookedUp < written) → registration = r.registration) := by
  have hsound := h.sound
  obtain ⟨r', hresolve', hkey, hlater, -⟩ := hsound.called i call hcall
  obtain rfl : r = r' := Option.some.inj (hresolve.symm.trans hresolve')
  obtain ⟨j, maker, hmaker, hended, hsame, hbefore, hlive⟩ := hsound.cache.exists_maker hcall houtcome
  obtain ⟨m, hm, hmkey, hmlater, hmakes⟩ := hsound.called j maker hmaker
  obtain ⟨w, hw⟩ := hmakes outcome hended
  have htype : (m.type == r.type) = true := by rwa [← hmkey, ← hkey]
  have herase : m.type.erase = r.type.erase := TypeExpr.erase_congr htype
  have hmfalls := (hsound.selected j m hm).2
  have hfalls := (hsound.selected i r hresolve).2
  have hclock := hsound.cache.ordered.lookups i call hcall
  rw [herase] at hmfalls
  rcases Nat.lt_or_ge m.time r.time with hearlier | hsince
  · -- The maker looked in the map before the resolve did, and no write came between.
    rcases hsound.steady m.time r.time (Nat.le_of_lt hearlier) (by omega) with
      hmaps | ⟨k, register, written, hregister, hwritten, hafter, huntil⟩
    · rw [hmaps, hfalls] at hmfalls
      rw [← Option.some.inj hmfalls] at hw
      exact ⟨r.time, _, m.type, w, Nat.le_refl _, hlater, hfalls, htype, hw, fun _ => rfl⟩
    · -- Otherwise the maker would have been overtaken, as what it made has outlived all clearings.
      obtain ⟨cleared, hcleared, hdone⟩ := hquiet k register hregister written hwritten huntil
      have houtlived : s.IsSinceClearing maker.lookedUp r.time := fun l clearing cleared hclearing
          hcleared hdone => hlive (cleared, .all) (hsound.cleared l clearing cleared hclearing hcleared)
        trivial (Nat.lt_trans hdone hlater)
      have hlooked := hnone j m maker hm htype hmaker houtlived k register cleared hregister hcleared hdone
        written hwritten
      omega
  · refine ⟨m.time, _, m.type, w, hsince, Nat.lt_of_lt_of_le hmlater hbefore, hmfalls, htype, hw, ?_⟩
    intro hunwritten
    rcases hsound.steady r.time m.time hsince (by omega) with
      hmaps | ⟨k, register, written, hregister, hwritten, hafter, huntil⟩
    · rw [← hmaps, hfalls] at hmfalls
      exact (Option.some.inj hmfalls).symm
    · rcases hunwritten k register hregister written hwritten with hless | hmore <;> omega

def wax : TypeExpr := .cls (.declared "Wax")

def waxRequest : RegistrationRequest :=
  ⟨.cls (.declared "Wax"), .cls (.declared "Wax"), .none, none, none⟩

def waxRegistration : Registration :=
  ⟨.immutable, .cls (.declared "Wax"), .cls (.declared "Wax"), none⟩

theorem not_isRejected_of_registered {request : RegistrationRequest}
    (h : ((Registry.empty (60 : Int) 0).register seals request).2.registrations.isEmpty = false) :
    ¬ request.IsRejected seals Int := by
  intro hrejected
  rw [hrejected (Registry.empty 60 0)] at h
  cases h

theorem sealRequest_not_isRejected : ¬ sealRequest.IsRejected seals Int :=
  not_isRejected_of_registered (by decide +kernel)

theorem waxRequest_not_isRejected : ¬ waxRequest.IsRejected seals Int :=
  not_isRejected_of_registered (by decide +kernel)

/-- The state in which the wax seal is registered for the stamp, and a resolve has found that. -/
def sealed : SharedRegistry Int :=
  ((initial [] 60 0).register 0 sealRequest).select 0 wax sealRegistration

theorem sealed_reachable : sealed.Reachable seals [] 60 0 :=
  (Reachable.initial.register rfl sealRequest_not_isRejected).step (.select 0 _ rfl rfl)

theorem exists_made (registration : Registration) (hbound : ((registration.bind seals wax).run {}).1.isOk) :
    ∃ b, ∀ time, (⟨wax, registration, time⟩ : ResolveCall).Makes seals (.ok b) := by
  obtain ⟨b, w, hrun⟩ := Action.exists_of_isOk hbound
  exact ⟨b, fun _ => ⟨{}, by rw [hrun]⟩⟩

section Replacing

variable (old new : Binding World)

/-- The factory that was found runs, and the seal is registered anew before it ends. -/
def replaced : SharedRegistry Int :=
  let asked := sealed.ask 0 wax 1
  let running := asked.record 0 ⟨wax, 5, .owning ⟨wax, 0, 1⟩ (.running 6)⟩ asked.cache.toCacheMemory
  (running.register 1 waxRequest).deliver 0 wax 5 ⟨wax, 0, 1⟩ ⟨old, 6⟩ 2

/-- A later resolve has the new factory run. -/
def resealed : SharedRegistry Int :=
  let asked := ((replaced old).select 1 wax waxRegistration).ask 1 wax 3
  let running := asked.record 1 ⟨wax, 15, .owning ⟨wax, 1, 2⟩ (.running 16)⟩ asked.cache.toCacheMemory
  running.deliver 1 wax 15 ⟨wax, 1, 2⟩ ⟨new, 16⟩ 4

/-- The seal is registered anew before the resolve that has found the old factory asks the cache. -/
def overtaken : SharedRegistry Int :=
  let asked := (sealed.register 1 waxRequest).ask 0 wax 1
  let running := asked.record 0 ⟨wax, 9, .owning ⟨wax, 0, 2⟩ (.running 10)⟩ asked.cache.toCacheMemory
  running.deliver 0 wax 9 ⟨wax, 0, 2⟩ ⟨old, 10⟩ 2

variable {old new}

theorem replaced_reachable
    (hold : ∀ time, (⟨wax, sealRegistration, time⟩ : ResolveCall).Makes seals (.ok old)) :
    (replaced old).Reachable seals [] 60 0 := by
  have hasked := sealed_reachable.step (@Step.ask _ _ _ _ 0 ⟨wax, sealRegistration, 4⟩ 1 rfl rfl rfl)
  have hrunning := hasked.step (@Step.call _ _ _ _ 0 _ _ _ _ rfl rfl .start nofun)
  exact (hrunning.register rfl waxRequest_not_isRejected).deliver rfl rfl (hold 4) 2

theorem resealed_reachable
    (hold : ∀ time, (⟨wax, sealRegistration, time⟩ : ResolveCall).Makes seals (.ok old))
    (hnew : ∀ time, (⟨wax, waxRegistration, time⟩ : ResolveCall).Makes seals (.ok new)) :
    (resealed old new).Reachable seals [] 60 0 := by
  have hselected : ((replaced old).select 1 wax waxRegistration).Reachable seals [] 60 0 :=
    (replaced_reachable hold).step (.select 1 wax rfl rfl)
  have hasked := hselected.step (@Step.ask _ _ _ _ 1 ⟨wax, waxRegistration, 14⟩ 3 rfl rfl rfl)
  exact (hasked.step (.call rfl rfl .start nofun)).deliver rfl rfl (hnew 14) 4

theorem overtaken_reachable
    (hold : ∀ time, (⟨wax, sealRegistration, time⟩ : ResolveCall).Makes seals (.ok old)) :
    (overtaken old).Reachable seals [] 60 0 := by
  have hregistered := sealed_reachable.register (j := 1) rfl waxRequest_not_isRejected
  have hasked := hregistered.step (@Step.ask _ _ _ _ 0 ⟨wax, sealRegistration, 4⟩ 1 rfl rfl rfl)
  exact (hasked.step (.call rfl rfl .start nofun)).deliver rfl rfl (hold 4) 2

theorem resealed_isQuietAt : (resealed old new).IsQuietAt 14 := by
  rintro (_ | _ | j) register hregister written hwritten - <;> cases hregister
  · exact ⟨3, rfl, by decide⟩
  · exact ⟨10, rfl, by decide⟩

theorem resealed_written {j : Nat} {register : RegisterCall}
    (hregister : (resealed old new).registers j = some register) :
    ∀ written ∈ register.written, written < 14 := by
  match j with
  | 0 =>
      cases hregister
      exact (by decide : ∀ written ∈ [2, 1], written < 14)
  | 1 =>
      cases hregister
      exact (by decide : ∀ written ∈ [9, 8], written < 14)
  | _ + 2 => cases hregister

theorem resealed_noneOvertaken (t : TypeExpr) : (resealed old new).NoneOvertaken t 14 := by
  rintro (_ | _ | i) r call hresolve - hcall hsince j register cleared hregister hcleared hdone <;>
    cases hresolve <;> cases hcall
  · -- The cache has been cleared since it was asked for the old binding.
    exact absurd (hsince 1 _ 10 rfl rfl (by decide)) (by decide : ¬10 < 5)
  · intro written hwritten
    exact resealed_written hregister written hwritten

theorem resealed_map :
    (resealed old new).map = (((Registry.empty (60 : Int) 0).register seals sealRequest).2.register seals
      waxRequest).2.registrations := by
  have hsealed : sealed.map = ((Registry.empty (60 : Int) 0).register seals sealRequest).2.registrations := by
    rw [sealed, map_select]
    exact (register_of_accepted sealRequest_not_isRejected rfl).1
  rw [resealed, map_deliver, map_record, map_ask, map_select, replaced, map_deliver]
  refine (register_of_accepted waxRequest_not_isRejected ?_).1
  rw [map_record, map_ask, hsealed]

end Replacing

/-- A factory is replaced while it runs. A later resolve does not get what it makes, but has the new one
run. -/
theorem resolve_not_undone_replaced :
    ∃ (s : SharedRegistry Int) (r : ResolveCall) (call : CacheCall TypeExpr (Binding World) Failure)
        (outcome : Except Failure (Dated (Binding World))),
      s.Reachable seals [] 60 0 ∧ s.resolves 1 = some r ∧ s.cache.calls 1 = some call ∧
      call.phase.outcome? = some outcome ∧ s.IsQuietAt r.time ∧ s.NoneOvertaken r.type r.time ∧
      s.map = (((Registry.empty (60 : Int) 0).register seals sealRequest).2.register seals
        waxRequest).2.registrations ∧
      ∃ t w, (t == r.type) = true ∧ outcome.map Dated.value = ((waxRegistration.bind seals t).run w).1 := by
  obtain ⟨old, hold⟩ := exists_made sealRegistration rfl
  obtain ⟨new, hnew⟩ := exists_made waxRegistration rfl
  have hreachable := resealed_reachable hold hnew
  have hquiet : (resealed old new).IsQuietAt 14 := resealed_isQuietAt
  have hnone : (resealed old new).NoneOvertaken wax 14 := resealed_noneOvertaken wax
  have hunwritten : ∀ j register, (resealed old new).registers j = some register →
      ∀ written ∈ register.written, written < 14 ∨ 15 < written :=
    fun _ _ hregister written hwritten => .inl (resealed_written hregister written hwritten)
  obtain ⟨time, registration, t, w, -, -, -, htype, houtcome, hsame⟩ :=
    resolve_not_undone hreachable (i := 1) rfl rfl rfl hquiet hnone
  obtain rfl := hsame hunwritten
  exact ⟨resealed old new, ⟨wax, waxRegistration, 14⟩, _, .ok ⟨new, 16⟩, hreachable, rfl, rfl, rfl, hquiet,
    hnone, resealed_map, t, w, htype, houtcome⟩

/-- A resolve finds a factory, which is then replaced, and asks the cache after that was cleared. What it makes
is stored, and a later resolve gets it, which no longer finds that factory. -/
theorem resolve_undone :
    ∃ s : SharedRegistry Int, s.Reachable seals [] 60 0 ∧ ∃ i r call b,
      s.resolves i = some r ∧ s.cache.calls i = some call ∧ call.phase.outcome? = some (.ok b) ∧
      s.IsQuietAt r.time ∧
      (∀ j register, s.registers j = some register → ∀ written ∈ register.written, written < r.time) ∧
      ∀ t w, ((r.registration.bind seals t).run w).1 ≠ .ok b.value := by
  obtain ⟨old, hold⟩ := exists_made sealRegistration rfl
  let later := (overtaken old).select 1 wax waxRegistration
  have hlater : later.Reachable seals [] 60 0 := (overtaken_reachable hold).step (.select 1 wax rfl rfl)
  refine ⟨later.ask 1 wax 3, hlater.step (@Step.ask _ _ _ _ 1 ⟨wax, waxRegistration, 14⟩ 3 rfl rfl rfl), 1,
    ⟨wax, waxRegistration, 14⟩, ⟨wax, 15, .found ⟨old, 10⟩⟩, ⟨old, 10⟩, rfl, rfl, rfl, ?_, ?_, ?_⟩
  · rintro (_ | _ | j) register hregister written hwritten - <;> cases hregister
    · exact ⟨3, rfl, by decide⟩
    · exact ⟨8, rfl, by decide⟩
  · rintro (_ | _ | j) register hregister written hwritten <;> cases hregister
    · exact (by decide : ∀ written ∈ [2, 1], written < 14) written hwritten
    · exact (by decide : ∀ written ∈ [7, 6], written < 14) written hwritten
  · -- The binding that is found is one of the stamp, and the wax registration makes those of the wax.
    intro t w hsame
    obtain ⟨w₀, hmade⟩ := hold 4
    have hold : (sealRegistration.bind seals wax).run w₀ =
        (.ok old, ((sealRegistration.bind seals wax).run w₀).2) := Prod.ext hmade.symm rfl
    have hnew : (waxRegistration.bind seals t).run w = (.ok old, ((waxRegistration.bind seals t).run w).2) :=
      Prod.ext hsame rfl
    have hdefinition : TypeExpr.cls (.declared "Stamp") = .cls (.declared "Wax") :=
      (Registration.definition_of_bind hold).symm.trans (Registration.definition_of_bind hnew)
    simp at hdefinition

end RecordBinding.SharedRegistry
