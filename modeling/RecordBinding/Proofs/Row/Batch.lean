import RecordBinding.Proofs.Binding.Isolation
import RecordBinding.Proofs.Object.Log
import RecordBinding.Proofs.Registry.Retention
import RecordBinding.Proofs.Row.RoundTrip

namespace RecordBinding

/-- Whatever a construction calls ignores the log. -/
structure Binding.IgnoresLog (b : Binding World) : Prop where
  start : b.start.IgnoresLog
  setter : ∀ a ∈ b.accessors, ∀ target value, (a.setter target value).IgnoresLog
  finish : ∀ build, b.finish = some build → ∀ target, (build target).IgnoresLog

section Made

variable {u : Universe} {b : Binding World}

theorem Universe.builderSetter_ignoresLog {builder : ClassId} {definition : TypeExpr}
    {declared : DeclaredProperty} {setter : Value → Value → Action World Unit}
    (h : u.builderSetter builder definition declared = .ok setter) (target value : Value) :
    (setter target value).IgnoresLog := by
  unfold Universe.builderSetter at h
  dsimp only at h
  split at h
  · split at h
    · generalize (if declared.type.isUnresolved then none
        else u.overloadFor? _ _ declared.type.erase) = captured? at h
      cases captured? with
      | some f =>
          cases h
          exact (Action.callFunction_ignoresLog u f _).discard
      | none =>
          cases h
          refine (Action.getAttribute_ignoresLog u target declared.name).bind fun found => ?_
          exact (found.call_ignoresLog u _).discard
    · split at h
      · cases h
        exact (Action.callFunction_ignoresLog u _ _).discard
      · cases h
    · cases h
  · cases h

theorem Binding.IsMade.ignoresLog (h : b.IsMade u) : b.IgnoresLog := by
  obtain ⟨registration, t, w, w', hbind⟩ := h
  unfold Registration.bind at hbind
  split at hbind
  · obtain ⟨factory, builderId, build, declared, -, -, -, -, -, hstart, hfinish, haccessors⟩ :=
      Action.bindImmutable_ok hbind
    refine ⟨hstart ▸ factory.call_ignoresLog u [], fun a ha target value => ?_, ?_⟩
    · obtain ⟨p, -, -, -, hsetter⟩ := exists_of_mem_right haccessors ha
      exact Universe.builderSetter_ignoresLog hsetter target value
    · rintro f hf target
      rw [hfinish] at hf
      cases hf
      exact Action.callFunction_ignoresLog u build [target]
  · obtain ⟨factory, declared, -, -, hstart, hfinish, haccessors⟩ := Action.bindModifiable_ok hbind
    refine ⟨hstart ▸ factory.call_ignoresLog u [], fun a ha target value => ?_, ?_⟩
    · obtain ⟨p, -, -, -, setter, w₁, w₂, -, hsetter⟩ := exists_of_mem_right haccessors ha
      rw [hsetter]
      exact (Action.callFunction_ignoresLog u setter _).discard
    · intro f hf
      rw [hfinish] at hf
      cases hf

end Made

namespace Binding.IgnoresLog

variable {b : Binding World} (hb : b.IgnoresLog)

include hb

theorem write (target : Option Value) (name : String) (value : Value) :
    (Session.write ⟨b, target⟩ name value).IgnoresLog := by
  intro w w' hw
  rw [Session.run_write, Session.run_write]
  cases haccessor : b.accessor name with
  | error failure => exact .error hw
  | ok a =>
      cases target with
      | none => exact .error hw
      | some target =>
          exact (hb.setter a (Binding.mem_of_accessor haccessor) target value).guarded .set _ _ w w' hw

theorem result (target : Option Value) : (Session.result ⟨b, target⟩).IgnoresLog := by
  unfold Session.result
  refine (Action.IgnoresLog.ofExcept _).bind fun target => ?_
  dsimp only
  split
  · next build hbuild => exact (hb.finish build hbuild target).guarded .build _ _
  · exact .pure _

theorem writeRow (target : Option Value) (row : Row) (matched : List (String × String)) :
    (RowMapper.writeRow ⟨b, target⟩ row matched).IgnoresLog := by
  induction matched with
  | nil => exact .pure ()
  | cons entry matched ih =>
      exact (Action.IgnoresLog.ofExcept _).bind fun value => (hb.write target _ value).bind fun _ => ih

theorem buildRow (matched : List (String × String)) (row : Row) :
    (RowMapper.buildRow b matched row).IgnoresLog := by
  unfold RowMapper.buildRow Binding.open
  rw [bind_assoc]
  refine (hb.start.guarded .create _ _).bind fun target => ?_
  rw [pure_bind]
  exact (hb.writeRow target row matched).bind fun _ => hb.result target

end Binding.IgnoresLog

namespace RowMapper

variable {τ : Type} [TimeScale τ] {u : Universe} {m : RowMapper} {b : Binding World}
  {matched : List (String × String)}

/-- A row with the readings of the clock when it is mapped: when the binding is looked up, and when one that
was built is stored. -/
structure TimedRow (τ : Type) where
  now : τ
  later : τ
  row : Row

/-- What was used at one reading of the clock has not been idle for too long at the next. -/
def InTime (idleTime before now : τ) : Prop :=
  TimeScale.atLeast (TimeScale.sub now before) idleTime = false

/-- A world and a registry with its world differ at most in the logs. -/
def SameRegistrations (registrations : Registrations) (w : World) (s : Registry τ × World) : Prop :=
  w.SameButLog s.2 ∧ s.1.registrations = registrations

/-- Besides, the registry has the binding of the target in its cache, last used at a reading of the
clock. -/
structure Prepared (u : Universe) (m : RowMapper) (b : Binding World) (registrations : Registrations)
    (idleTime last : τ) (w : World) (s : Registry τ × World) : Prop where
  same : SameRegistrations registrations w s
  retains : s.1.Retains u m.target b last
  idleTime : s.1.cache.idleTime = idleTime

variable {registrations : Registrations} {idleTime last now : τ}

/-- While the binding of the target stays in the cache, a row is mapped as with that binding. -/
theorem simulates_mapRow {row : Row} (hb : b.IgnoresLog)
    (hmatched : m.matchColumns b row.columns = .ok matched) (hinTime : InTime idleTime last now)
    (later : τ) :
    Action.Simulates (SameRegistrations registrations) (Prepared u m b registrations idleTime last)
      (fun v v' w s => v = v' ∧ Prepared u m b registrations idleTime now w s)
      (buildRow b matched row) (m.mapRow u now later row) := by
  rintro w ⟨r, w'⟩ ⟨⟨hw, hregistrations⟩, hretains, rfl⟩
  obtain ⟨r', records, hresolve, hretains', hidle, hkept⟩ := hretains.resolve hinTime later w'
  have hrun : (RegistryAction.resolve u m.target now later).run (r, w') =
      (.ok (some b), r', Registry.report w' records) := by
    change ((r.resolve u m.target now later w').1, (r.resolve u m.target now later w').2) = _
    rw [hresolve]
  rw [run_mapRow hrun hmatched]
  have hends := hb.buildRow matched row w (Registry.report w' records) (hw.trans ⟨rfl, rfl, rfl⟩)
  generalize (buildRow b matched row).run w = ended at hends
  generalize (buildRow b matched row).run (Registry.report w' records) = ended' at hends
  cases hends with
  | ok h => exact .ok ⟨h.1, ⟨h.2, hkept.trans hregistrations⟩, hretains', hidle⟩
  | error h => exact .error ⟨h, hkept.trans hregistrations⟩

theorem simulates_mapM_mapRow {rows : List (TimedRow τ)} (hb : b.IgnoresLog)
    (hmatched : ∀ timed ∈ rows, m.matchColumns b timed.row.columns = .ok matched)
    (hinTime : List.IsChain (InTime idleTime) (last :: rows.map TimedRow.now)) :
    Action.Simulates (SameRegistrations registrations) (Prepared u m b registrations idleTime last)
      (fun vs vs' w s => vs = vs' ∧ SameRegistrations registrations w s)
      ((rows.map TimedRow.row).mapM (buildRow b matched))
      (rows.mapM fun timed => m.mapRow u timed.now timed.later timed.row) := by
  induction rows generalizing last with
  | nil => exact .pure fun w s h => ⟨rfl, h.same⟩
  | cons timed rows ih =>
      rw [List.map_cons, List.isChain_cons_cons] at hinTime
      rw [List.map_cons, List.mapM_cons, List.mapM_cons]
      refine (simulates_mapRow hb (hmatched _ List.mem_cons_self) hinTime.1 timed.later).bind fun v v' => ?_
      rintro w s ⟨rfl, hprepared⟩
      have hrest := ih (fun other hother => hmatched other (List.mem_cons_of_mem _ hother)) hinTime.2
      exact (hrest.bind fun vs vs' => .pure fun w s h => ⟨congrArg (v :: ·) h.1, h.2⟩) w s hprepared

theorem simulates_binding (u : Universe) (m : RowMapper) (now later idleTime : τ) :
    Action.Simulates (fun s s' => SameRegistrations s.1.registrations s.2 s')
      (fun s s' => s = s' ∧ s.1.WellFilled u idleTime)
      (fun b b' s s' => b = b' ∧ s = s' ∧ b.IgnoresLog ∧
        (∃ last, (last = now ∨ last = later) ∧ s.1.Retains u m.target b last) ∧
        s.1.cache.idleTime = idleTime)
      (m.binding u now later) (m.binding u now later) := by
  rintro ⟨r, w⟩ _ ⟨rfl, hfilled⟩
  have hresolve := hfilled.resolve m.target now later w
  unfold binding
  rw [Action.run_bind, show (RegistryAction.resolve u m.target now later).run (r, w) =
    ((r.resolve u m.target now later w).1, (r.resolve u m.target now later w).2) from rfl]
  rcases hrun : r.resolve u m.target now later w with ⟨failure | b?, r', w'⟩
  · exact .error ⟨.refl w', rfl⟩
  · cases b? with
    | none => exact .error ⟨.refl w', rfl⟩
    | some b =>
        obtain ⟨last, hlast, hretains, -⟩ := Registry.retains_of_resolve hrun
        rw [hrun] at hresolve
        exact .ok ⟨rfl, rfl, (hresolve.2 b rfl).ignoresLog, ⟨last, hlast, hretains⟩, hresolve.1.idleTime⟩

theorem simulates_mapAll {first : TimedRow τ} {rest : List (TimedRow τ)}
    (hcolumns : ∀ timed ∈ rest, timed.row.columns = first.row.columns)
    (hinTime : ∀ last, last = first.now ∨ last = first.later →
      List.IsChain (InTime idleTime) (last :: rest.map TimedRow.now)) :
    Action.Simulates (fun s s' => SameRegistrations s.1.registrations s.2 s')
      (fun s s' => s = s' ∧ s.1.WellFilled u idleTime)
      (fun vs vs' s s' => vs = vs' ∧ SameRegistrations s.1.registrations s.2 s')
      (m.mapAll u first.now first.later ((first :: rest).map TimedRow.row))
      ((first :: rest).mapM fun timed => m.mapRow u timed.now timed.later timed.row) := by
  rw [List.mapM_cons]
  conv in m.mapRow u _ _ _ => unfold mapRow
  unfold mapAll
  simp only [List.map_cons, bind_assoc]
  refine (simulates_binding u m first.now first.later idleTime).bind fun b _ => ?_
  rintro ⟨r, w⟩ _ ⟨rfl, rfl, hb, ⟨last, hlast, hretains⟩, hidle⟩
  cases hmatched : m.matchColumns b first.row.columns with
  | error failure => exact .error ⟨.refl w, rfl⟩
  | ok matched =>
      change EndAlike _ _ ((RegistryAction.onWorld
        ((first.row :: rest.map TimedRow.row).mapM (buildRow b matched))).run (r, w))
        ((RegistryAction.onWorld (buildRow b matched first.row) >>= _).run (r, w))
      -- The first row is mapped in both runs with the binding just resolved; the others find it in the cache.
      rw [List.mapM_cons, RegistryAction.run_onWorld, Action.run_bind, Action.run_bind,
        RegistryAction.run_onWorld]
      rcases (buildRow b matched first.row).run w with ⟨failure | v, w₁⟩
      · exact .error ⟨.refl w₁, rfl⟩
      · dsimp only
        have hends := simulates_mapM_mapRow hb
          (fun timed htimed => hcolumns timed htimed ▸ hmatched) (hinTime last hlast) w₁ (r, w₁)
          ⟨⟨.refl w₁, rfl⟩, hretains, hidle⟩
        rw [Action.run_bind, Action.run_bind]
        generalize ((rest.map TimedRow.row).mapM (buildRow b matched)).run w₁ = ended at hends ⊢
        generalize (rest.mapM fun timed => m.mapRow u timed.now timed.later timed.row).run (r, w₁) =
          ended' at hends ⊢
        cases hends with
        | ok h => exact .ok ⟨congrArg (v :: ·) h.1, h.2⟩
        | error h => exact .error h

/-- Mapping rows at once agrees with mapping them one by one. From any registry that commands led to,
rows of the same columns come to the same values, or the same failure as the first row that fails, with
the same calls made and the same instances, if no binding expires from one row to the next. -/
theorem mapAll_eq_mapM_mapRow (u : Universe) (registrations : Registrations) (idleTime start : τ)
    (w₀ : World) (commands : List (RegistryCommand τ)) (m : RowMapper) (first : TimedRow τ)
    (rest : List (TimedRow τ)) (hcolumns : ∀ timed ∈ rest, timed.row.columns = first.row.columns)
    (hinTime : ∀ last, last = first.now ∨ last = first.later →
      List.IsChain (InTime idleTime) (last :: rest.map TimedRow.now)) :
    let state := RegistryCommand.run u commands (⟨registrations, Cache.empty idleTime start⟩, w₀)
    let together := (m.mapAll u first.now first.later ((first :: rest).map TimedRow.row)).run state
    let oneByOne := ((first :: rest).mapM fun timed =>
      m.mapRow u timed.now timed.later timed.row).run state
    together.1 = oneByOne.1 ∧ together.2.2.states = oneByOne.2.2.states ∧
      together.2.2.trace = oneByOne.2.2.trace ∧
      together.2.2.bindingsBuilt = oneByOne.2.2.bindingsBuilt ∧
      together.2.1.registrations = oneByOne.2.1.registrations := by
  intro state together oneByOne
  have hfilled : state.1.WellFilled u idleTime :=
    RegistryCommand.wellFilled_run commands (.of_entries_eq_nil rfl rfl)
  obtain ⟨hresult, hsame, hregistrations⟩ :=
    (simulates_mapAll (m := m) hcolumns hinTime state state ⟨rfl, hfilled⟩).eq_and
  exact ⟨hresult, hsame.states, hsame.trace, hsame.bindingsBuilt, hregistrations.symm⟩

end RowMapper

theorem RowMapper.mapAll_eq_mapM_mapRow_seals :
    let row := fun v => Row.ofQuery ["MARK"] [v]
    let first : TimedRow Int := ⟨0, 5, row (.scalar (.int 1))⟩
    let rest : List (TimedRow Int) := [⟨50, 50, row (.str "A")⟩, ⟨100, 100, row (.scalar (.int 2))⟩]
    let commands : List (RegistryCommand Int) := [.register sealRequest]
    let state := RegistryCommand.run seals commands (⟨[], Cache.empty 60 0⟩, {})
    let m := RowMapper.ofPrefix (.cls (.declared "Wax")) ""
    let oneByOne := ((first :: rest).mapM fun timed =>
      m.mapRow seals timed.now timed.later timed.row).run state
    (∀ timed ∈ rest, timed.row.columns = first.row.columns) ∧
      (∀ last, last = first.now ∨ last = first.later →
        List.IsChain (InTime (60 : Int)) (last :: rest.map TimedRow.now)) ∧
      (∃ failure, oneByOne.1 = .error failure ∧ failure.kind = .construction) ∧
      oneByOne.2.2.trace.toList =
        ["Wax.builder", "Wax.builder", "Press.mark", "Press.build", "Wax.builder", "Press.mark[str]"] := by
  intro row first rest commands state m oneByOne
  have hcolumns : ∀ timed ∈ rest, timed.row.columns = first.row.columns := by
    simp [rest, first, row, Row.columns, Row.ofQuery]
  have hinTime : ∀ last, last = first.now ∨ last = first.later →
      List.IsChain (InTime (60 : Int)) (last :: rest.map TimedRow.now) := by
    rintro last (rfl | rfl) <;> simp [first, rest, InTime, TimeScale.atLeast, TimeScale.sub]
  obtain ⟨hresult, -, htrace, -⟩ :=
    RowMapper.mapAll_eq_mapM_mapRow seals [] (60 : Int) 0 {} commands m first rest hcolumns hinTime
  refine ⟨hcolumns, hinTime, ?_, ?_⟩
  · rw [← hresult]
    exact Failure.exists_of_kindOf? (by decide +kernel)
  · rw [← htrace]
    decide +kernel

end RecordBinding
