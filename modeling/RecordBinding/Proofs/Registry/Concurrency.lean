import RecordBinding.Proofs.Cache.Origin
import RecordBinding.Proofs.Registry.Refinement

namespace RecordBinding

/-- What a registration writes into the map, in order. -/
def RegistrationRequest.writes (request : RegistrationRequest) : List (TypeExpr × Registration) :=
  let immutable : Registration :=
    ⟨.immutable, request.definition, request.immutable, request.builder⟩
  let modifiable :=
    match request.modifiable with
    | .none => []
    | t => [(t, ⟨.modifiable, request.definition, t, request.create⟩)]
  (request.definition, immutable) :: (request.immutable, immutable) :: modifiable

theorem Registry.registerAll_eq_foldl (rs : Registrations) (request : RegistrationRequest) :
    registerAll rs request =
      request.writes.foldl (fun rs entry => rs.insert entry.1 entry.2) rs := by
  obtain ⟨definition, immutable, modifiable, builder, create⟩ := request
  cases modifiable <;> rfl

theorem Registry.register_eq_writes {τ : Type} {u : Universe} {request : RegistrationRequest}
    (h : ¬ request.IsRejected u τ) (r : Registry τ) :
    (r.register u request).2 =
      ⟨request.writes.foldl (fun rs entry => rs.insert entry.1 entry.2) r.registrations,
        r.cache.clear⟩ := by
  rw [(register_rejected_or_registered u request).resolve_left h r, registered, registerAll_eq_foldl]

namespace SharedCache

variable {κ β ε τ : Type} [BEq κ] [TimeScale τ] (s : SharedCache κ β ε τ)

def ask (i : Nat) (key : κ) (now : τ) : SharedCache κ β ε τ :=
  s.record i ⟨key, s.clock, .ofLookup (s.cache.lookup key now).1.outcome⟩
    { s.toCacheMemory with cache := (s.cache.lookup key now).2 }

def forget (dropping : Dropping κ) : SharedCache κ β ε τ :=
  { s with
    cache := dropping.apply s.cache
    droppings := (s.clock, dropping) :: s.droppings
    clock := s.clock + 1 }

def sweep (now : τ) : SharedCache κ β ε τ :=
  tick { s with cache := s.cache.sweep now }

variable {s}

theorem Consistent.sweep (h : s.Consistent) (now : τ) : (s.sweep now).Consistent :=
  (h.of_keeps (s.cache.keeps_sweep now)).tick

end SharedCache

structure ResolveCall where
  type : TypeExpr
  registration : Registration
  time : Nat

/-- What a resolve may come to when it builds the binding itself, in whatever world. -/
def ResolveCall.Makes (u : Universe) (r : ResolveCall) (outcome : Except Failure (Binding World)) : Prop :=
  ∃ w, outcome = ((r.registration.bind u r.type).run w).1

/-- A registration under way or done: the writes that are still to be made, the times of the others, and the
time at which it cleared the cache. -/
structure RegisterCall where
  remaining : List (TypeExpr × Registration)
  written : List Nat
  cleared : Option Nat

/-- A registry with its concurrent callers: the cache, the map of registrations at each time so far, and the
resolves and registrations by number. A resolve has the same number among the calls of the cache, whose clock
counts the steps. -/
structure SharedRegistry (τ : Type) where
  cache : SharedCache TypeExpr (Binding World) Failure τ
  maps : Nat → Registrations
  resolves : Nat → Option ResolveCall
  registers : Nat → Option RegisterCall

namespace SharedRegistry

variable {τ : Type}

def map (s : SharedRegistry τ) : Registrations :=
  s.maps s.cache.clock

def proceed (s : SharedRegistry τ) (cache : SharedCache TypeExpr (Binding World) Failure τ)
    (map : Registrations) : SharedRegistry τ :=
  { s with cache, maps := Function.update s.maps cache.clock map }

def initial [TimeScale τ] (rs : Registrations) (idleTime start : τ) : SharedRegistry τ :=
  ⟨.initial idleTime start, fun _ => rs, fun _ => none, fun _ => none⟩

section Steps

variable (s : SharedRegistry τ)

def select (i : Nat) (t : TypeExpr) (registration : Registration) : SharedRegistry τ :=
  { s.proceed s.cache.tick s.map with
    resolves := Function.update s.resolves i (some ⟨t, registration, s.cache.clock⟩) }

def ask [TimeScale τ] (i : Nat) (t : TypeExpr) (now : τ) : SharedRegistry τ :=
  s.proceed (s.cache.ask i t now) s.map

def refuse [TimeScale τ] (now : τ) : SharedRegistry τ :=
  s.proceed (s.cache.sweep now) s.map

def record (i : Nat) (call : CacheCall TypeExpr (Binding World) Failure)
    (m : CacheMemory TypeExpr (Binding World) Failure τ) : SharedRegistry τ :=
  s.proceed (s.cache.record i call m) s.map

def begin (j : Nat) (request : RegistrationRequest) : SharedRegistry τ :=
  { s.proceed s.cache.tick s.map with
    registers := Function.update s.registers j (some ⟨request.writes, [], none⟩) }

def write (j : Nat) (entry : TypeExpr × Registration) (remaining : List (TypeExpr × Registration))
    (written : List Nat) : SharedRegistry τ :=
  { s.proceed s.cache.tick (s.map.insert entry.1 entry.2) with
    registers := Function.update s.registers j (some ⟨remaining, s.cache.clock :: written, none⟩) }

def clear (j : Nat) (written : List Nat) : SharedRegistry τ :=
  { s.proceed (s.cache.forget .all) s.map with
    registers := Function.update s.registers j (some ⟨[], written, some s.cache.clock⟩) }

def forget (dropping : Dropping TypeExpr) : SharedRegistry τ :=
  s.proceed (s.cache.forget dropping) s.map

/-- Carries out what is left of a registration: its writes, then the clearing of the cache. -/
def complete (j : Nat) (s : SharedRegistry τ) :
    List (TypeExpr × Registration) → List Nat → SharedRegistry τ
  | [], written => s.clear j written
  | entry :: remaining, written =>
      complete j (s.write j entry remaining written) remaining (s.cache.clock :: written)

def register (j : Nat) (request : RegistrationRequest) : SharedRegistry τ :=
  (s.begin j request).complete j request.writes []

/-- Carries out what is left of a call whose factory runs: it makes a binding, which is published, and the
future is resolved. -/
def deliver (i : Nat) (key : TypeExpr) (time : Nat) (ticket : BuildTicket TypeExpr)
    (b : Dated (Binding World)) (now : τ) : SharedRegistry τ :=
  let made := s.record i ⟨key, time, .owning ticket (.ended (.ok b))⟩ s.cache.toCacheMemory
  let stored := made.record i ⟨key, time, .owning ticket (.released (.ok b))⟩
    { made.cache.toCacheMemory with cache := made.cache.cache.publish ticket b now }
  stored.record i ⟨key, time, .owning ticket (.settled (.ok b))⟩
    { stored.cache.toCacheMemory with
      futures := Function.update stored.cache.futures ticket.build (some (.ok b)) }

end Steps

/-- A step of a resolve: it looks for a registration in the map, asks the cache, which refuses a type that
cannot be a key, or goes on there with the factory of its registration. A step of a registration: it begins,
writes into the map, or clears the cache. Bindings may be forgotten at any time besides. -/
inductive Step [TimeScale τ] (u : Universe) (s : SharedRegistry τ) : SharedRegistry τ → Prop
  | select (i : Nat) (t : TypeExpr) {registration : Registration} (free : s.resolves i = none)
      (hfalls : s.map.select? u t.erase = some registration) : Step u s (s.select i t registration)
  | ask {i : Nat} {r : ResolveCall} (now : τ) (hresolve : s.resolves i = some r)
      (hkey : r.type.isKey = true) (free : s.cache.calls i = none) : Step u s (s.ask i r.type now)
  | refuse {i : Nat} {r : ResolveCall} (now : τ) (hresolve : s.resolves i = some r)
      (hkey : r.type.isKey = false) : Step u s (s.refuse now)
  | call {i : Nat} {r : ResolveCall} {call call' : CacheCall TypeExpr (Binding World) Failure}
      {m : CacheMemory TypeExpr (Binding World) Failure τ} (hresolve : s.resolves i = some r)
      (hcall : s.cache.calls i = some call)
      (hstep : CallStep s.cache.clock s.cache.toCacheMemory call call' m)
      (hfactory : ∀ outcome, call'.phase.ended? = some outcome → call.phase.ended? = none →
        r.Makes u (outcome.map Dated.value)) :
      Step u s (s.record i call' m)
  | begin (j : Nat) (request : RegistrationRequest) (free : s.registers j = none)
      (haccepted : ¬ request.IsRejected u τ) : Step u s (s.begin j request)
  | write {j : Nat} {entry : TypeExpr × Registration} {remaining : List (TypeExpr × Registration)}
      {written : List Nat} (hregister : s.registers j = some ⟨entry :: remaining, written, none⟩) :
      Step u s (s.write j entry remaining written)
  | clear {j : Nat} {written : List Nat} (hregister : s.registers j = some ⟨[], written, none⟩) :
      Step u s (s.clear j written)
  | forget (dropping : Dropping TypeExpr) : Step u s (s.forget dropping)

/-- The states that interleaved resolves and registrations lead to. -/
inductive Reachable [TimeScale τ] (u : Universe) (rs : Registrations) (idleTime start : τ) :
    SharedRegistry τ → Prop
  | initial : Reachable u rs idleTime start (initial rs idleTime start)
  | step {s s' : SharedRegistry τ} (h : Reachable u rs idleTime start s) (hstep : s.Step u s') :
      Reachable u rs idleTime start s'

variable {u : Universe} {s s' : SharedRegistry τ}

theorem Reachable.complete [TimeScale τ] {rs : Registrations} {idleTime start : τ}
    (h : s.Reachable u rs idleTime start) {j : Nat} {entries : List (TypeExpr × Registration)}
    {written : List Nat} (hregister : s.registers j = some ⟨entries, written, none⟩) :
    (s.complete j entries written).Reachable u rs idleTime start := by
  induction entries generalizing s written with
  | nil => exact h.step (.clear hregister)
  | cons entry entries ih => exact ih (h.step (.write hregister)) (Function.update_self ..)

theorem Reachable.register [TimeScale τ] {rs : Registrations} {idleTime start : τ}
    (h : s.Reachable u rs idleTime start) {j : Nat} {request : RegistrationRequest}
    (free : s.registers j = none) (haccepted : ¬ request.IsRejected u τ) :
    (s.register j request).Reachable u rs idleTime start :=
  (h.step (.begin j request free haccepted)).complete (Function.update_self ..)

theorem Reachable.deliver [TimeScale τ] {rs : Registrations} {idleTime start : τ}
    (h : s.Reachable u rs idleTime start) {i begun : Nat} {r : ResolveCall} {key : TypeExpr} {time : Nat}
    {ticket : BuildTicket TypeExpr} {b : Binding World} (hresolve : s.resolves i = some r)
    (hcall : s.cache.calls i = some ⟨key, time, .owning ticket (.running begun)⟩)
    (hmakes : r.Makes u (.ok b)) (now : τ) :
    (s.deliver i key time ticket ⟨b, begun⟩ now).Reachable u rs idleTime start := by
  have hmade := h.step (.call hresolve hcall (.finish (.ok b)) (by rintro _ ⟨⟩ -; exact hmakes))
  have hstored := hmade.step
    (.call hresolve (Function.update_self ..) (.conclude now) (by rintro _ ⟨⟩ ⟨⟩))
  exact hstored.step (.call hresolve (Function.update_self ..) .settle (by rintro _ ⟨⟩ ⟨⟩))

section Proceed

variable {cache : SharedCache TypeExpr (Binding World) Failure τ} {map : Registrations}

theorem maps_proceed (hclock : cache.clock = s.cache.clock + 1) {time : Nat}
    (h : time ≤ s.cache.clock) : (s.proceed cache map).maps time = s.maps time :=
  Function.update_of_ne (by omega) ..

theorem maps_proceed_clock : (s.proceed cache map).maps cache.clock = map :=
  Function.update_self ..

end Proceed

@[simp]
theorem map_select (i : Nat) (t : TypeExpr) (registration : Registration) :
    (s.select i t registration).map = s.map :=
  maps_proceed_clock

@[simp]
theorem map_ask [TimeScale τ] (i : Nat) (t : TypeExpr) (now : τ) : (s.ask i t now).map = s.map :=
  maps_proceed_clock

@[simp]
theorem map_record (i : Nat) (call : CacheCall TypeExpr (Binding World) Failure)
    (m : CacheMemory TypeExpr (Binding World) Failure τ) : (s.record i call m).map = s.map :=
  maps_proceed_clock

@[simp]
theorem map_deliver (i : Nat) (key : TypeExpr) (time : Nat) (ticket : BuildTicket TypeExpr)
    (b : Dated (Binding World)) (now : τ) : (s.deliver i key time ticket b now).map = s.map := by
  simp only [deliver, map_record]

theorem map_complete {j : Nat} {entries : List (TypeExpr × Registration)} {written : List Nat} :
    (s.complete j entries written).map =
      entries.foldl (fun rs entry => rs.insert entry.1 entry.2) s.map := by
  induction entries generalizing s written with
  | nil => exact maps_proceed_clock
  | cons entry entries ih =>
      have hmap : (s.write j entry entries written).map = s.map.insert entry.1 entry.2 :=
        maps_proceed_clock
      rw [complete, ih, hmap, List.foldl_cons]

theorem cache_complete {j : Nat} {entries : List (TypeExpr × Registration)} {written : List Nat} :
    (s.complete j entries written).cache.cache = s.cache.cache.clear := by
  induction entries generalizing s written with
  | nil => rfl
  | cons entry entries ih => exact ih

/-- A registration that nothing interleaves with leaves the map that the registry has after registering, and an
empty cache. -/
theorem register_of_accepted {j : Nat} {request : RegistrationRequest}
    (haccepted : ¬ request.IsRejected u τ) {r : Registry τ} (hmap : s.map = r.registrations) :
    (s.register j request).map = (r.register u request).2.registrations ∧
      (s.register j request).cache.cache = s.cache.cache.clear := by
  have hbegun : (s.begin j request).map = s.map := maps_proceed_clock
  refine ⟨?_, cache_complete⟩
  rw [Registry.register_eq_writes haccepted, register, map_complete, hbegun, hmap]

/-- Each resolve has the registration that the map of its time has for its type, and builds by that alone.
The map changes by writes only, and what has cleared the cache is among the droppings. -/
structure Sound (u : Universe) (s : SharedRegistry τ) : Prop where
  cache : s.cache.Consistent
  selected : ∀ i r, s.resolves i = some r →
    r.time < s.cache.clock ∧ (s.maps r.time).select? u r.type.erase = some r.registration
  called : ∀ i call, s.cache.calls i = some call → ∃ r, s.resolves i = some r ∧
    call.key = r.type ∧ r.time < call.lookedUp ∧
      ∀ outcome, call.phase.ended? = some outcome → r.Makes u (outcome.map Dated.value)
  steady : ∀ a b, a ≤ b → b ≤ s.cache.clock → s.maps a = s.maps b ∨
    ∃ j register written, s.registers j = some register ∧ written ∈ register.written ∧
      a ≤ written ∧ written < b
  cleared : ∀ j register time, s.registers j = some register → register.cleared = some time →
    (time, .all) ∈ s.cache.droppings

namespace Sound

variable {cache : SharedCache TypeExpr (Binding World) Failure τ}

theorem selected_proceed (h : s.Sound u) (hclock : cache.clock = s.cache.clock + 1)
    (map : Registrations) : ∀ i r, s.resolves i = some r → r.time < cache.clock ∧
      ((s.proceed cache map).maps r.time).select? u r.type.erase = some r.registration := by
  intro i r hresolve
  obtain ⟨htime, hfalls⟩ := h.selected i r hresolve
  rw [maps_proceed hclock (Nat.le_of_lt htime), hclock]
  exact ⟨Nat.lt_succ_of_lt htime, hfalls⟩

theorem steady_proceed (h : s.Sound u) (hclock : cache.clock = s.cache.clock + 1) {map : Registrations}
    {registers : Nat → Option RegisterCall}
    (hkept : ∀ j register, s.registers j = some register → ∃ register', registers j = some register' ∧
      ∀ written ∈ register.written, written ∈ register'.written)
    (hmap : map = s.map ∨ ∃ j register, registers j = some register ∧
      s.cache.clock ∈ register.written) :
    ∀ a b, a ≤ b → b ≤ cache.clock → (s.proceed cache map).maps a = (s.proceed cache map).maps b ∨
      ∃ j register written, registers j = some register ∧ written ∈ register.written ∧
        a ≤ written ∧ written < b := by
  have hbefore : ∀ a b, a ≤ b → b ≤ s.cache.clock → s.maps a = s.maps b ∨
      ∃ j register written, registers j = some register ∧ written ∈ register.written ∧
        a ≤ written ∧ written < b := by
    intro a b hab hb
    rcases h.steady a b hab hb with hsame | ⟨j, register, written, hregister, hwritten, hbetween⟩
    · exact .inl hsame
    · obtain ⟨register', hregister', hsub⟩ := hkept j register hregister
      exact .inr ⟨j, register', written, hregister', hsub written hwritten, hbetween⟩
  intro a b hab hb
  -- The map changes at the last step if at all, and only by a write.
  rcases Nat.lt_or_ge s.cache.clock b with hlast | hb
  · obtain rfl : b = cache.clock := by omega
    rcases Nat.lt_or_ge s.cache.clock a with hlater | ha
    · obtain rfl : a = cache.clock := by omega
      exact .inl rfl
    · rw [maps_proceed hclock ha, maps_proceed_clock]
      rcases hmap with rfl | ⟨j, register, hregister, hwritten⟩
      · rcases hbefore a s.cache.clock ha (Nat.le_refl _) with
          hsame | ⟨j, register, written, hregister, hwritten, ha, hb⟩
        · exact .inl hsame
        · exact .inr ⟨j, register, written, hregister, hwritten, ha, Nat.lt_trans hb hlast⟩
      · exact .inr ⟨j, register, s.cache.clock, hregister, hwritten, ha, hlast⟩
  · rw [maps_proceed hclock (Nat.le_trans hab hb), maps_proceed hclock hb]
    exact hbefore a b hab hb

theorem initial [TimeScale τ] (rs : Registrations) (idleTime start : τ) :
    (initial rs idleTime start).Sound u :=
  ⟨.initial idleTime start, fun _ _ h => (nomatch h), fun _ _ h => (nomatch h),
    fun _ _ _ _ => .inl rfl, fun _ _ _ h => (nomatch h)⟩

theorem called_ask [TimeScale τ] (h : s.Sound u) {i : Nat} {r : ResolveCall} (now : τ)
    (hresolve : s.resolves i = some r) :
    ∀ k call, (s.cache.ask i r.type now).calls k = some call → ∃ r, s.resolves k = some r ∧
      call.key = r.type ∧ r.time < call.lookedUp ∧
        ∀ outcome, call.phase.ended? = some outcome → r.Makes u (outcome.map Dated.value) := by
  intro k call hcall
  rcases SharedCache.calls_record hcall with ⟨rfl, rfl⟩ | ⟨-, hold⟩
  · refine ⟨r, hresolve, rfl, (h.selected k r hresolve).1, fun outcome hended => ?_⟩
    rcases hlookup : (s.cache.cache.lookup r.type now).1.outcome <;> rw [hlookup] at hended <;> cases hended
  · exact h.called k call hold

theorem called_call (h : s.Sound u) {i : Nat} {r : ResolveCall}
    {call call' : CacheCall TypeExpr (Binding World) Failure}
    {m : CacheMemory TypeExpr (Binding World) Failure τ} (hresolve : s.resolves i = some r)
    (hcall : s.cache.calls i = some call)
    (hstep : CallStep s.cache.clock s.cache.toCacheMemory call call' m)
    (hfactory : ∀ outcome, call'.phase.ended? = some outcome → call.phase.ended? = none →
      r.Makes u (outcome.map Dated.value)) :
    ∀ k other, (s.cache.record i call' m).calls k = some other → ∃ r, s.resolves k = some r ∧
      other.key = r.type ∧ r.time < other.lookedUp ∧
        ∀ outcome, other.phase.ended? = some outcome → r.Makes u (outcome.map Dated.value) := by
  intro k other hother
  rcases SharedCache.calls_record hother with ⟨rfl, rfl⟩ | ⟨-, hold⟩
  · obtain ⟨r', hresolve', hkey, hlater, hmakes⟩ := h.called k call hcall
    obtain rfl : r = r' := Option.some.inj (hresolve.symm.trans hresolve')
    refine ⟨r, hresolve, hstep.continues.key.trans hkey, hstep.continues.lookedUp ▸ hlater, ?_⟩
    intro outcome hended
    cases hbefore : call.phase.ended? with
    | none => exact hfactory outcome hended hbefore
    | some ended =>
        have hsame := hstep.ended?_eq hbefore
        rw [hended] at hsame
        cases hsame
        exact hmakes outcome hbefore
  · exact h.called k other hold

theorem selected_select (h : s.Sound u) {i : Nat} {t : TypeExpr} {registration : Registration}
    (hfalls : s.map.select? u t.erase = some registration) :
    ∀ k r, Function.update s.resolves i (some ⟨t, registration, s.cache.clock⟩) k = some r →
      r.time < s.cache.tick.clock ∧
        ((s.proceed s.cache.tick s.map).maps r.time).select? u r.type.erase = some r.registration := by
  intro k r hresolve
  by_cases hk : k = i
  · subst hk
    rw [Function.update_self] at hresolve
    cases hresolve
    rw [maps_proceed rfl (Nat.le_refl _)]
    exact ⟨Nat.lt_succ_self _, hfalls⟩
  · rw [Function.update_of_ne hk] at hresolve
    exact h.selected_proceed rfl s.map k r hresolve

theorem called_select (h : s.Sound u) {i : Nat} (free : s.resolves i = none) (r : ResolveCall) :
    ∀ k call, s.cache.calls k = some call →
      ∃ r', Function.update s.resolves i (some r) k = some r' ∧ call.key = r'.type ∧
        r'.time < call.lookedUp ∧
          ∀ outcome, call.phase.ended? = some outcome → r'.Makes u (outcome.map Dated.value) := by
  intro k call hcall
  obtain ⟨r', hresolve, hrest⟩ := h.called k call hcall
  have hne : k ≠ i := by
    rintro rfl
    rw [free] at hresolve
    cases hresolve
  exact ⟨r', (Function.update_of_ne hne ..).trans hresolve, hrest⟩

theorem kept_update {j : Nat} {new : RegisterCall}
    (h : ∀ old, s.registers j = some old → ∀ written ∈ old.written, written ∈ new.written) :
    ∀ k register, s.registers k = some register →
      ∃ register', Function.update s.registers j (some new) k = some register' ∧
        ∀ written ∈ register.written, written ∈ register'.written := by
  intro k register hregister
  by_cases hk : k = j
  · subst hk
    exact ⟨new, Function.update_self .., h register hregister⟩
  · exact ⟨register, (Function.update_of_ne hk ..).trans hregister, fun _ hwritten => hwritten⟩

theorem cleared_update (h : s.Sound u) {j : Nat} {new : RegisterCall}
    {droppings : List (Nat × Dropping TypeExpr)} (hsub : s.cache.droppings ⊆ droppings)
    (hnew : ∀ time, new.cleared = some time → (time, .all) ∈ droppings) :
    ∀ k register time, Function.update s.registers j (some new) k = some register →
      register.cleared = some time → (time, .all) ∈ droppings := by
  intro k register time hregister hcleared
  by_cases hk : k = j
  · subst hk
    rw [Function.update_self] at hregister
    cases hregister
    exact hnew time hcleared
  · rw [Function.update_of_ne hk] at hregister
    exact hsub (h.cleared k register time hregister hcleared)

theorem proceed (h : s.Sound u) {cache : SharedCache TypeExpr (Binding World) Failure τ}
    (hcache : cache.Consistent) (hclock : cache.clock = s.cache.clock + 1)
    (hdroppings : s.cache.droppings ⊆ cache.droppings)
    (hcalled : ∀ i call, cache.calls i = some call → ∃ r, s.resolves i = some r ∧
      call.key = r.type ∧ r.time < call.lookedUp ∧
        ∀ outcome, call.phase.ended? = some outcome → r.Makes u (outcome.map Dated.value)) :
    (s.proceed cache s.map).Sound u :=
  ⟨hcache, h.selected_proceed hclock s.map, hcalled,
    h.steady_proceed hclock (fun _ register hregister => ⟨register, hregister, fun _ hwritten => hwritten⟩)
      (.inl rfl),
    fun j register time hregister hcleared => hdroppings (h.cleared j register time hregister hcleared)⟩

theorem register (h : s.Sound u) {cache : SharedCache TypeExpr (Binding World) Failure τ}
    (hcache : cache.Consistent) (hclock : cache.clock = s.cache.clock + 1)
    (hcalls : cache.calls = s.cache.calls) (hdroppings : s.cache.droppings ⊆ cache.droppings)
    {map : Registrations} {j : Nat} {new : RegisterCall}
    (hkept : ∀ old, s.registers j = some old → ∀ written ∈ old.written, written ∈ new.written)
    (hmap : map = s.map ∨ s.cache.clock ∈ new.written)
    (hnew : ∀ time, new.cleared = some time → (time, .all) ∈ cache.droppings) :
    Sound u { s.proceed cache map with registers := Function.update s.registers j (some new) } :=
  ⟨hcache, h.selected_proceed hclock map, fun i call hcall => h.called i call (hcalls ▸ hcall),
    h.steady_proceed hclock (kept_update hkept)
      (hmap.imp_right fun hwritten => ⟨j, new, Function.update_self .., hwritten⟩),
    h.cleared_update hdroppings hnew⟩

theorem step [TimeScale τ] (h : s.Sound u) (hstep : s.Step u s') : s'.Sound u := by
  cases hstep with
  | select i t free hfalls =>
      have hnext := h.proceed h.cache.tick rfl (List.Subset.refl _) h.called
      exact ⟨hnext.cache, h.selected_select hfalls, h.called_select free _, hnext.steady, hnext.cleared⟩
  | ask now hresolve hkey free =>
      exact h.proceed (h.cache.step (.lookup _ _ now free)) rfl (List.Subset.refl _)
        (h.called_ask now hresolve)
  | refuse now hresolve hkey =>
      exact h.proceed (h.cache.sweep now) rfl (List.Subset.refl _) h.called
  | call hresolve hcall hcallStep hfactory =>
      exact h.proceed (h.cache.step (.call hcall hcallStep)) rfl (List.Subset.refl _)
        (h.called_call hresolve hcall hcallStep hfactory)
  | begin j request free haccepted =>
      refine h.register h.cache.tick rfl rfl (List.Subset.refl _) (fun old hold => ?_) (.inl rfl) nofun
      rw [free] at hold
      cases hold
  | write hregister =>
      refine h.register h.cache.tick rfl rfl (List.Subset.refl _) (fun old hold => ?_)
        (.inr List.mem_cons_self) nofun
      rw [hregister] at hold
      cases hold
      exact fun _ hwritten => List.mem_cons_of_mem _ hwritten
  | clear hregister =>
      refine h.register (h.cache.step (.drop .all)) rfl rfl (List.subset_cons_self ..)
        (fun old hold => ?_) (.inl rfl) ?_
      · rw [hregister] at hold
        cases hold
        exact fun _ hwritten => hwritten
      · rintro time ⟨⟩
        exact List.mem_cons_self
  | forget dropping =>
      exact h.proceed (h.cache.step (.drop dropping)) rfl (List.subset_cons_self ..) h.called

end Sound

theorem Reachable.sound [TimeScale τ] {rs : Registrations} {idleTime start : τ}
    (h : s.Reachable u rs idleTime start) : s.Sound u := by
  induction h with
  | initial => exact .initial rs idleTime start
  | step _ hstep ih => exact ih.step hstep

end SharedRegistry

end RecordBinding
