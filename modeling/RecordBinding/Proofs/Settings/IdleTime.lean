import RecordBinding.Proofs.Cache.Access
import RecordBinding.Proofs.Decimal.NotANumber
import RecordBinding.Settings.IdleTime

namespace RecordBinding

namespace Number

/-- A number that is finite as a double. -/
def IsFinite (a : Number) : Prop :=
  a.toFloat.isFinite = true

instance : DecidablePred Number.IsFinite := fun a =>
  inferInstanceAs (Decidable (a.toFloat.isFinite = true))

theorem compare?_eq_none_iff {a b : Number} :
    a.compare? b = none ↔ a.exact = .notANumber ∨ b.exact = .notANumber := by
  unfold compare?
  cases a.exact <;> cases b.exact <;> simp [Exact.compare?]

theorem exact_float_eq_notANumber_iff {x : Float} : (float x).exact = .notANumber ↔ x.isNaN = true := by
  rw [← Decimal.decode_eq_notANumber_iff, exact, exactFloat]
  cases Decimal.decode x with
  | infinite negative => cases negative <;> simp
  | _ => simp

theorem exact_sub {a b : Number} (ha : a.IsFinite) (hb : b.IsFinite) : (a.sub b).exact ≠ .notANumber := by
  have hrounded : (float (a.toFloat - b.toFloat)).exact ≠ .notANumber := by
    rw [ne_eq, exact_float_eq_notANumber_iff, Decimal.isNaN_sub ha hb]
    exact Bool.false_ne_true
  cases a with
  | float x => exact hrounded
  | int n =>
      cases b with
      | float y => exact hrounded
      | int m => nofun

end Number

namespace Environment

/-- The value of a variable names the value that is no number. -/
def NamesNaN (env : Environment) (name : String) : Prop :=
  ∃ text, env.present? name = some text ∧ Decimal.IsSignedNaNName (Decimal.unpadded text.toList)

theorem readNumber_eq_ok {env : Environment} {name : String} {fallback a : Number}
    (h : env.readNumber name fallback = .ok a) :
    env.present? name = none ∧ a = fallback ∨
      ∃ text x, env.present? name = some text ∧ Decimal.read? text = some x ∧ a = .float x := by
  unfold readNumber at h
  split at h
  · next text htext =>
      split at h
      · next x hx => exact .inr ⟨text, x, htext, hx, (Except.ok.inj h).symm⟩
      · cases h
  · next hnone => exact .inl ⟨hnone, (Except.ok.inj h).symm⟩

theorem kind_of_readNumber {env : Environment} {name : String} {fallback : Number}
    {failure : ConfigurationError} (h : env.readNumber name fallback = .error failure) :
    failure.kind = .invalidConfiguration := by
  unfold readNumber at h
  split at h
  · split at h
    · cases h
    · cases h
      rfl
  · cases h

theorem exact_readNumber {env : Environment} {name : String} {fallback a : Number}
    (hfallback : fallback.exact ≠ .notANumber) (h : env.readNumber name fallback = .ok a) :
    a.exact = .notANumber ↔ env.NamesNaN name := by
  unfold NamesNaN
  rcases readNumber_eq_ok h with ⟨hnone, rfl⟩ | ⟨text, x, htext, hx, rfl⟩
  · simp [hfallback, hnone]
  · rw [Number.exact_float_eq_notANumber_iff, htext]
    simp only [Option.some.injEq, ← Decimal.read?_isNaN_iff]
    constructor
    · exact fun hnan => ⟨text, rfl, x, hx, hnan⟩
    · rintro ⟨_, rfl, y, hy, hnan⟩
      cases hx.symm.trans hy
      exact hnan

end Environment

namespace IdleTime

variable {env : Environment} {ttl : Number}

theorem exact_standard : standard.exact ≠ .notANumber := by
  rw [ne_eq, standard, Number.exact_float_eq_notANumber_iff]
  decide

theorem ofEnvironment_eq_ok (h : ofEnvironment env = .ok ttl) :
    env.readNumber variableName standard = .ok ttl ∧ isRefused ttl = false := by
  unfold ofEnvironment at h
  cases hread : env.readNumber variableName standard with
  | error failure =>
      rw [hread] at h
      cases h
  | ok a =>
      rw [hread, Except.bind, ofNumber] at h
      split at h
      · cases h
      · next hrefused =>
          cases h
          exact ⟨rfl, Bool.eq_false_iff.2 hrefused⟩

theorem kind_of_ofEnvironment {failure : ConfigurationError} (h : ofEnvironment env = .error failure) :
    failure.kind = .invalidConfiguration := by
  unfold ofEnvironment at h
  cases hread : env.readNumber variableName standard with
  | error other =>
      rw [hread] at h
      cases h
      exact Environment.kind_of_readNumber hread
  | ok a =>
      rw [hread, Except.bind, ofNumber] at h
      split at h
      · cases h
        rfl
      · cases h

theorem compare?_of_not_refused (h : isRefused ttl = false) (hnumber : ttl.exact ≠ .notANumber) :
    ttl.compare? (.int 0) = some .gt := by
  cases horder : ttl.compare? (.int 0) with
  | none =>
      rcases Number.compare?_eq_none_iff.1 horder with hnone | hzero
      · exact absurd hnone hnumber
      · cases hzero
  | some order =>
      rw [isRefused, horder] at h
      cases order with
      | gt => rfl
      | lt => cases h
      | eq => cases h

end IdleTime

namespace Cache

variable {κ β : Type} [BEq κ] {c : Cache κ β Number} {log : List (Access κ Number)} {ttl start : Number}

omit [BEq κ] in
theorem compare?_of_not_isExpired {now : Number} {entry : CacheEntry β Number}
    (h : c.isExpired now entry = false) (hidle : c.idleTime.exact ≠ .notANumber) (hnow : now.IsFinite)
    (haccess : entry.lastAccess.IsFinite) :
    (now.sub entry.lastAccess).compare? c.idleTime = some .lt := by
  cases horder : (now.sub entry.lastAccess).compare? c.idleTime with
  | none =>
      rcases Number.compare?_eq_none_iff.1 horder with hspan | hnone
      · exact absurd hspan (Number.exact_sub hnow haccess)
      · exact absurd hnone hidle
  | some order =>
      change ((now.sub entry.lastAccess).compare? c.idleTime == some .gt ||
        (now.sub entry.lastAccess).compare? c.idleTime == some .eq) = false at h
      rw [horder] at h
      cases order with
      | lt => rfl
      | gt => cases h
      | eq => cases h

omit [BEq κ] in
theorem not_isExpired_of_notANumber (h : c.idleTime.exact = .notANumber) (now : Number)
    (entry : CacheEntry β Number) : c.isExpired now entry = false := by
  have horder : (now.sub entry.lastAccess).compare? c.idleTime = none :=
    Number.compare?_eq_none_iff.2 (.inr h)
  change ((now.sub entry.lastAccess).compare? c.idleTime == some .gt ||
    (now.sub entry.lastAccess).compare? c.idleTime == some .eq) = false
  rw [horder]
  rfl

variable [EquivBEq κ]

theorem Accessed.recent_of_hit (h : c.Accessed Number.IsFinite ttl start log) (httl : ttl.exact ≠ .notANumber)
    {key : κ} {now : Number} (hnow : now.IsFinite) {value : β}
    (hhit : (c.lookup key now).1.outcome = .hit value) :
    ∃ last, lastAccess? log key = some last ∧ (now.sub last.reading).compare? ttl = some .lt := by
  obtain ⟨entry, hentry, hfresh, -⟩ := exists_entry?_of_hit h.tracks.distinct hhit
  obtain ⟨last, hlast, hreading⟩ := h.tracks.last key entry hentry
  refine ⟨last, hlast, ?_⟩
  have hfinite := h.readable_of_mem last (mem_of_lastAccess? hlast).1
  rw [hreading] at hfinite ⊢
  rw [← h.idleTime_eq] at httl ⊢
  exact compare?_of_not_isExpired hfresh httl hnow hfinite

omit [EquivBEq κ] in
theorem Accessed.hit_of_notANumber {readable : Number → Prop} (h : c.Accessed readable ttl start log)
    (httl : ttl.exact = .notANumber) {key : κ} {entry : CacheEntry β Number}
    (hentry : c.entry? key = some entry) (now : Number) :
    (c.lookup key now).1.outcome = .hit entry.value := by
  rw [← h.idleTime_eq] at httl
  rw [ lookup_of_entry? hentry (not_isExpired_of_notANumber httl now entry)]

end Cache

/-- What is accepted as idle time is positive, unless the variable names the value that is no number, and a cache
with it, whose clock gives finite readings, hits only what was accessed less than the idle time ago. With the
value that is no number a cache hits whatever it holds. -/
theorem IdleTime.accepted_expires (env : Environment) {κ β : Type} [BEq κ] [EquivBEq κ] :
    (∀ failure, ofEnvironment env = .error failure → failure.kind = .invalidConfiguration) ∧
    ∀ ttl, ofEnvironment env = .ok ttl →
      (¬ env.NamesNaN variableName →
        ttl.compare? (.int 0) = some .gt ∧
        ∀ (start : Number) (log : List (Access κ Number)) (c : Cache κ β Number),
          c.Accessed Number.IsFinite ttl start log → ∀ (key : κ) (now : Number) (value : β), now.IsFinite →
          (c.lookup key now).1.outcome = .hit value →
          ∃ last, lastAccess? log key = some last ∧ (now.sub last.reading).compare? ttl = some .lt) ∧
      (env.NamesNaN variableName →
        ttl.compare? (.int 0) = none ∧
        ∀ (start : Number) (log : List (Access κ Number)) (c : Cache κ β Number),
          c.Accessed Number.IsFinite ttl start log → ∀ (key : κ) (entry : CacheEntry β Number),
          c.entry? key = some entry → ∀ now, (c.lookup key now).1.outcome = .hit entry.value) := by
  refine ⟨fun failure h => kind_of_ofEnvironment h, fun ttl h => ?_⟩
  obtain ⟨hread, hrefused⟩ := ofEnvironment_eq_ok h
  have hnan := Environment.exact_readNumber exact_standard hread
  constructor
  · intro hnumber
    rw [← hnan] at hnumber
    exact ⟨compare?_of_not_refused hrefused hnumber, fun start log c haccessed key now value hnow hhit =>
      haccessed.recent_of_hit hnumber hnow hhit⟩
  · intro hnumber
    rw [← hnan] at hnumber
    exact ⟨Number.compare?_eq_none_iff.2 (.inl hnumber), fun start log c haccessed key entry hentry now =>
      haccessed.hit_of_notANumber hnumber hentry now⟩

/-- A cache in which a value was stored at 5. -/
def storedOnce (ttl : Number) : Cache Nat Nat Number :=
  (Cache.empty ttl (.int 0)).publish ⟨7, 0, 0⟩ 1 (.int 5)

theorem storedOnce_accessed (ttl : Number) :
    (storedOnce ttl).Accessed Number.IsFinite ttl (.int 0) [⟨7, .int 5, .stored⟩] :=
  .publish .empty ⟨7, 0, 0⟩ 1 (by decide)

theorem IdleTime.accepted_expires_hundred :
    ofEnvironment [(variableName, " 1_0e1 ")] = .ok (.float 100.0) ∧
      ¬ Environment.NamesNaN [(variableName, " 1_0e1 ")] variableName ∧
      ((storedOnce (.float 100.0)).lookup 7 (.int 50)).1.outcome = .hit 1 ∧
      ∃ last, lastAccess? [⟨7, .int 5, .stored⟩] 7 = some last ∧
        (Number.sub (.int 50) last.reading).compare? (.float 100.0) = some .lt := by
  have hread : ofEnvironment [(variableName, " 1_0e1 ")] = .ok (.float 100.0) := rfl
  have hnumber : ¬ Environment.NamesNaN [(variableName, " 1_0e1 ")] variableName := by
    rw [← Environment.exact_readNumber exact_standard (ofEnvironment_eq_ok hread).1,
      Number.exact_float_eq_notANumber_iff]
    decide
  have hhit : ((storedOnce (.float 100.0)).lookup 7 (.int 50)).1.outcome = .hit 1 := rfl
  have haccepted := @accepted_expires [(variableName, " 1_0e1 ")] Nat Nat _ _
  obtain ⟨-, hexpires⟩ := (haccepted.2 _ hread).1 hnumber
  exact ⟨hread, hnumber, hhit, hexpires _ _ _ (storedOnce_accessed _) 7 _ 1 (by decide) hhit⟩

/-- The name of the value that is no number is accepted as idle time. It is not positive, and nothing
expires. -/
theorem IdleTime.accepted_without_expiry :
    ∃ ttl, ofEnvironment [(variableName, "nan")] = .ok ttl ∧ ttl.compare? (.int 0) ≠ some .gt ∧
      ((storedOnce ttl).lookup 7 (.int 1000000)).1.outcome = .hit 1 ∧
      (storedOnce ttl).Accessed Number.IsFinite ttl (.int 0) [⟨7, .int 5, .stored⟩] ∧
      ∀ last, lastAccess? [⟨7, .int 5, .stored⟩] 7 = some last →
        (Number.sub (.int 1000000) last.reading).compare? ttl ≠ some .lt := by
  have hread : ofEnvironment [(variableName, "nan")] = .ok (.float (0.0 / 0.0)) := rfl
  have hunordered : ∀ a : Number, a.compare? (.float (0.0 / 0.0)) = none := fun a =>
    Number.compare?_eq_none_iff.2 (.inr (Number.exact_float_eq_notANumber_iff.2 Decimal.isNaN_zeroOverZero))
  refine ⟨_, hread, ?_, rfl, storedOnce_accessed _, fun last _ => ?_⟩
  · decide
  · rw [hunordered]
    nofun

end RecordBinding
