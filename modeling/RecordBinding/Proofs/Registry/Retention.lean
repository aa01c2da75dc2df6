import RecordBinding.Proofs.Binding.Building
import RecordBinding.Proofs.Cache.Entries
import RecordBinding.Proofs.Registry.Refinement

namespace RecordBinding

namespace Registry

variable {τ : Type} {u : Universe} {r : Registry τ} {idleTime : τ}

/-- The cache has the given idle time, and holds bindings that registrations made only. -/
structure WellFilled (u : Universe) (idleTime : τ) (r : Registry τ) : Prop where
  idleTime : r.cache.idleTime = idleTime
  made : ∀ key b, r.cache.Stores key b → b.IsMade u

/-- A type has a binding in the cache, which was last asked for at a reading of the clock, and falls to a
registration. -/
structure Retains (u : Universe) (r : Registry τ) (t : TypeExpr) (b : Binding World) (last : τ) :
    Prop where
  isKey : t.isKey = true
  selects : (r.registrations.select? u t.erase).isSome = true
  entry : r.cache.entry? t = some ⟨b, last⟩

namespace WellFilled

theorem of_entries_eq_nil (hidle : r.cache.idleTime = idleTime) (hentries : r.cache.entries = []) :
    r.WellFilled u idleTime := by
  refine ⟨hidle, ?_⟩
  rintro key b ⟨stored, entry, hmem, -, -⟩
  rw [hentries] at hmem
  cases hmem

theorem of_stores (h : r.WellFilled u idleTime) {r' : Registry τ}
    (hidle : r'.cache.idleTime = r.cache.idleTime)
    (hstores : ∀ key b, r'.cache.Stores key b → r.cache.Stores key b ∨ b.IsMade u) :
    r'.WellFilled u idleTime :=
  ⟨hidle.trans h.idleTime, fun key b hb => (hstores key b hb).elim (h.made key b) id⟩

end WellFilled

variable [TimeScale τ]

theorem WellFilled.getOrBuild (h : r.WellFilled u idleTime) (registration : Registration) (t : TypeExpr)
    (now later : τ) (w : World) :
    (r.getOrBuild u registration t now later w).2.1.WellFilled u idleTime ∧
      ∀ b, (r.getOrBuild u registration t now later w).1 = .ok b → b.IsMade u := by
  have hlooked := r.cache.looked t now
  have hidle := r.cache.lookup_idleTime t now
  unfold Registry.getOrBuild
  generalize r.cache.lookup t now = looked at hlooked hidle
  rcases looked with ⟨⟨outcome, swept, expired⟩, cache⟩
  dsimp only at hlooked hidle ⊢
  cases hlooked with
  | hit hvalue kept =>
      refine ⟨h.of_stores hidle fun key b hb => .inl (kept.stores key b hb), ?_⟩
      rintro _ ⟨⟩
      exact h.made t _ hvalue
  | wait hbuild kept =>
      exact ⟨h.of_stores hidle fun key b hb => .inl (kept.stores key b hb), nofun⟩
  | run _ _ hstores _ _ _ =>
      dsimp only
      generalize hrun : (registration.bind u t).run _ = ended
      rcases ended with ⟨failure | built, w'⟩
      · refine ⟨h.of_stores (by simpa [Cache.abandon] using hidle) fun key b hb => .inl ?_, nofun⟩
        exact hstores key b ((cache.stores_release _).1 hb)
      · have hmade : built.IsMade u := ⟨registration, t, _, w', hrun⟩
        refine ⟨h.of_stores (by simpa using hidle) fun key b hb => ?_, ?_⟩
        · rcases cache.stores_publish hb with hold | ⟨-, -, rfl⟩
          · exact .inl (hstores key b hold)
          · exact .inr hmade
        · rintro b ⟨⟩
          exact hmade

theorem WellFilled.resolve (h : r.WellFilled u idleTime) (t : TypeExpr) (now later : τ) (w : World) :
    (r.resolve u t now later w).2.1.WellFilled u idleTime ∧
      ∀ b, (r.resolve u t now later w).1 = .ok (some b) → b.IsMade u := by
  unfold Registry.resolve
  split
  · exact ⟨h, nofun⟩
  · next registration _ =>
      split
      · obtain ⟨hfilled, hmade⟩ := h.getOrBuild registration t now later w
        refine ⟨hfilled, fun b hb => hmade b ?_⟩
        change (r.getOrBuild u registration t now later w).1.map some = _ at hb
        cases hresult : (r.getOrBuild u registration t now later w).1 with
        | error failure =>
            rw [hresult] at hb
            cases hb
        | ok found =>
            rw [hresult] at hb
            cases hb
            rfl
      · refine ⟨h.of_stores (r.cache.sweep_idleTime now) fun key b hb => .inl ?_, nofun⟩
        exact (r.cache.keeps_sweep now).stores key b hb

theorem retains_of_resolve {t : TypeExpr} {now later : τ} {w w' : World} {b : Binding World}
    {r' : Registry τ} (h : r.resolve u t now later w = (.ok (some b), r', w')) :
    ∃ last, (last = now ∨ last = later) ∧ r'.Retains u t b last ∧
      r'.registrations = r.registrations := by
  unfold Registry.resolve at h
  split at h
  · cases h
  · next registration hselect =>
      split at h
      · next hkey =>
          have hselects : (r.registrations.select? u t.erase).isSome = true := hselect ▸ rfl
          unfold Registry.getOrBuild at h
          have hhit : ∀ value, (r.cache.lookup t now).1.outcome = .hit value →
              Cache.entry? (r.cache.lookup t now).2 t = some ⟨value, now⟩ :=
            fun value => Cache.entry?_of_hit
          have hlooked := r.cache.looked t now
          generalize r.cache.lookup t now = looked at h hhit hlooked
          rcases looked with ⟨⟨outcome, swept, expired⟩, cache⟩
          dsimp only at h hhit hlooked
          cases hlooked with
          | hit hvalue kept =>
              cases h
              exact ⟨now, .inl rfl, ⟨hkey, hselects, hhit _ rfl⟩, rfl⟩
          | wait hbuild kept => cases h
          | run _ _ _ _ hgeneration _ =>
              dsimp only at h
              split at h
              · cases h
                refine ⟨later, .inr rfl, ⟨hkey, hselects, ?_⟩, rfl⟩
                exact (Cache.entry?_publish cache (beq_iff_eq.2 hgeneration.symm) b later t).trans
                  (if_pos (beq_self_eq_true t))
              · cases h
      · cases h

/-- A binding in the cache is resolved again, and refreshed, unless it has been idle for too long. -/
theorem Retains.resolve {t : TypeExpr} {b : Binding World} {last now : τ} (h : r.Retains u t b last)
    (hfresh : TimeScale.atLeast (TimeScale.sub now last) r.cache.idleTime = false) (later : τ)
    (w : World) :
    ∃ r' records, r.resolve u t now later w = (.ok (some b), r', report w records) ∧
      r'.Retains u t b now ∧ r'.cache.idleTime = r.cache.idleTime ∧
      r'.registrations = r.registrations := by
  obtain ⟨registration, hselect⟩ := Option.isSome_iff_exists.1 h.selects
  let cache := (r.cache.sweep now).setEntry t ⟨b, now⟩
  have hresolve : ∃ records, r.resolve u t now later w =
      (.ok (some b), { r with cache }, report w records) := by
    rw [Registry.resolve, hselect]
    dsimp only
    rw [if_pos h.isKey, Registry.getOrBuild, Cache.lookup_of_entry? h.entry hfresh]
    exact ⟨_, rfl⟩
  obtain ⟨records, hresolve⟩ := hresolve
  refine ⟨_, records, hresolve, ⟨h.isKey, h.selects, ?_⟩, ?_, rfl⟩
  · exact (Cache.entry?_setEntry (r.cache.sweep now) t ⟨b, now⟩ t).trans
      (if_pos (beq_self_eq_true t))
  · exact ((r.cache.sweep now).setEntry_idleTime t _).trans (r.cache.sweep_idleTime now)

end Registry

namespace RegistryCommand

variable {τ : Type} [TimeScale τ] {u : Universe} {idleTime : τ}

theorem wellFilled_perform {state : Registry τ × World} (h : state.1.WellFilled u idleTime)
    (command : RegistryCommand τ) :
    ((command.perform u).run state).2.1.WellFilled u idleTime := by
  obtain ⟨r, w⟩ := state
  cases command with
  | register request =>
      rw [registry_of_register]
      rcases Registry.register_rejected_or_registered (τ := τ) u request with hrejected | hregistered
      · rw [hrejected r]
        exact h
      · rw [hregistered r]
        exact .of_entries_eq_nil h.idleTime rfl
  | resolve t now later => exact (h.resolve t now later w).1
  | invalidate t =>
      change (RegistryAction.invalidate t (r, w)).2.1.WellFilled u idleTime
      unfold RegistryAction.invalidate
      split
      · exact h.of_stores rfl fun key b hb => .inl (r.cache.stores_invalidate hb).1
      · exact h
  | clear => exact .of_entries_eq_nil h.idleTime rfl
  | disturb change => exact h

theorem wellFilled_run (commands : List (RegistryCommand τ)) {start : Registry τ × World}
    (h : start.1.WellFilled u idleTime) : (run u commands start).1.WellFilled u idleTime := by
  induction commands generalizing start with
  | nil => exact h
  | cons command commands ih => exact ih (wellFilled_perform h command)

end RegistryCommand

end RecordBinding
