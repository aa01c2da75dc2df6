import Mathlib
import RecordBinding.Decimal.Reading
import RecordBinding.Decimal.Shortest

namespace RecordBinding.Decimal

open Float.Model (UnpackedFloat Format)

section Unpacked

open Float.Model.UnpackedFloat

variable {spec : Format}

theorem isNaN_unpack_iff {bits : BitVec spec.numBits} :
    (unpack spec bits).isNaN = true ↔ unpackExponent bits = -1#_ ∧ unpackMantissa bits ≠ 0#_ := by
  unfold unpack
  dsimp only
  split
  · next hexponent =>
      split
      · next hmantissa => simp [isNaN, hmantissa]
      · next hmantissa => simp [isNaN, hexponent, hmantissa]
  · next hexponent =>
      split
      · split <;> simp [isNaN, hexponent]
      · simp [isNaN, hexponent]

theorem isNaN_unpack_pack (x : UnpackedFloat) :
    (unpack Format.binary64 (pack Format.binary64 x)).isNaN = x.isNaN := by
  rw [Bool.eq_iff_iff, isNaN_unpack_iff]
  fun_cases pack Format.binary64 x with
  | case1 => simp [packedNaN, isNaN]
  | case2 s => simp [packedInfinity, isNaN]
  | case3 s => simp [packedZero, isNaN]
  | case4 s m e hm biased hbig => simp [packedInfinity, isNaN]
  | case5 s m e hm size biased hbig hnormal =>
      have hbound : ¬ 2 ^ 11 ≤ biased + 1 := hbig
      have hfield : BitVec.ofNat 11 biased ≠ 2047#11 := by
        intro heq
        have hvalue := congrArg BitVec.toNat heq
        simp only [BitVec.toNat_ofNat] at hvalue
        omega
      simp [isNaN, hfield]
  | case6 s m e hm size biased hbig hnormal => simp [isNaN]

theorem isNaN_roundWithAccuracy (s : Sign) (m : Nat) (e : Int) (a : Accuracy) :
    (roundWithAccuracy spec s m e a).isNaN = false := by
  unfold roundWithAccuracy
  dsimp only
  split <;> rfl

theorem isNaN_normalize (m : Int) (e : Int) (s : Sign) :
    (UnpackedFloat.normalize spec m e s).isNaN = false := by
  unfold UnpackedFloat.normalize
  split
  · exact isNaN_roundWithAccuracy ..
  · rfl
  · exact isNaN_roundWithAccuracy ..

theorem isNaN_sub_of_finite {x y : UnpackedFloat} (hx : x.isFinite = true) (hy : y.isFinite = true) :
    (sub spec x y).isNaN = false := by
  cases x with
  | notANumber => cases hx
  | infinity s => cases hx
  | zero s =>
      cases y with
      | notANumber => cases hy
      | infinity t => cases hy
      | zero t => cases s <;> cases t <;> rfl
      | finite t n f hn => rfl
  | finite s m e hm =>
      cases y with
      | notANumber => cases hy
      | infinity t => cases hy
      | zero t => rfl
      | finite t n f hn => exact isNaN_normalize ..

theorem isNaN_neg (x : UnpackedFloat) : x.neg.isNaN = x.isNaN := by
  cases x <;> rfl

/-- A number that is neither zero nor infinite. -/
def isProper : UnpackedFloat → Bool
  | .finite _ _ _ _ => true
  | _ => false

theorem isNaN_mul_of_proper {x y : UnpackedFloat} (hx : x.isNaN = false) (hy : isProper y = true) :
    (mul spec x y).isNaN = false := by
  cases y with
  | finite t n f hn =>
      cases x with
      | notANumber => cases hx
      | infinity s => rfl
      | zero s => rfl
      | finite s m e hm => exact isNaN_roundWithAccuracy ..
  | _ => cases hy

theorem isNaN_div_of_proper {x y : UnpackedFloat} (hx : x.isNaN = false) (hy : isProper y = true) :
    (div spec x y).isNaN = false := by
  cases y with
  | finite t n f hn =>
      cases x with
      | notANumber => cases hx
      | infinity s => rfl
      | zero s => rfl
      | finite s m e hm => exact isNaN_roundWithAccuracy ..
  | _ => cases hy

theorem isNaN_ofScientific (m : Nat) (e : Int) : (ofScientific spec m e).isNaN = false := by
  unfold ofScientific
  split
  · rfl
  · split
    · rfl
    · split
      · rfl
      · split
        · exact isNaN_mul_of_proper rfl rfl
        · exact isNaN_div_of_proper rfl rfl

end Unpacked

section Doubles

open Float.Model.UnpackedFloat (unpack unpackExponent unpackMantissa)

variable {x y : Float}

theorem isNaN_ofModel_pack (u : UnpackedFloat) : (Float.ofModel (.pack u)).isNaN = u.isNaN :=
  isNaN_unpack_pack u

theorem isNaN_sub (hx : x.isFinite = true) (hy : y.isFinite = true) : (x - y).isNaN = false :=
  (isNaN_ofModel_pack _).trans (isNaN_sub_of_finite hx hy)

theorem isNaN_negate (x : Float) : (-x).isNaN = x.isNaN :=
  (isNaN_ofModel_pack _).trans (isNaN_neg _)

theorem isProper_powerOfTen :
    ∀ power ∈ Float.exactlyRepresentablePowersOfTen.toList, isProper power.toModel.unpack = true := by
  decide

theorem isNaN_ofDecimal (m : Nat) (negative : Bool) (e : Nat) :
    (Float.ofScientific m negative e).isNaN = false := by
  unfold Float.ofScientific
  split
  · next hsmall =>
      have hsize : e < Float.exactlyRepresentablePowersOfTen.size := Nat.lt_succ_of_le hsmall.2
      have hpower := isProper_powerOfTen _ (Array.mem_toList_iff.2 (Array.getElem_mem hsize))
      have hmantissa : m.toUInt64.toFloat.isNaN = false :=
        (isNaN_ofModel_pack _).trans (isNaN_normalize ..)
      dsimp only
      split
      · exact (isNaN_ofModel_pack _).trans (isNaN_div_of_proper hmantissa hpower)
      · exact (isNaN_ofModel_pack _).trans (isNaN_mul_of_proper hmantissa hpower)
  · exact (isNaN_ofModel_pack _).trans (isNaN_ofScientific ..)

theorem unpackExponent_eq_iff (bits : BitVec 64) :
    @unpackExponent Format.binary64 bits = -1#11 ↔ (bits.toNat >>> 52) % (1 <<< 11) = 2047 := by
  rw [← BitVec.toNat_inj]
  simp [unpackExponent]

theorem unpackMantissa_eq_iff (bits : BitVec 64) :
    @unpackMantissa Format.binary64 bits = 0#52 ↔ bits.toNat % (1 <<< 52) = 0 := by
  rw [← BitVec.toNat_inj]
  simp [unpackMantissa]

theorem decode_eq_notANumber_iff : decode x = .notANumber ↔ x.isNaN = true := by
  have hbits : x.isNaN = (unpack Format.binary64 x.toBits.toBitVec).isNaN := rfl
  have hexponent := unpackExponent_eq_iff x.toBits.toBitVec
  have hmantissa := unpackMantissa_eq_iff x.toBits.toBitVec
  rw [UInt64.toNat_toBitVec] at hexponent hmantissa
  rw [hbits, isNaN_unpack_iff, hexponent, ne_eq, hmantissa]
  unfold decode
  dsimp only
  split
  · next hfield =>
      split
      · next hfraction => simp_all
      · next hfraction => simp_all
  · next hfield =>
      split
      · split <;> simp_all
      · simp_all

theorem isNaN_infinity : (1.0 / 0.0 : Float).isNaN = false := by decide

theorem isNaN_zeroOverZero : (0.0 / 0.0 : Float).isNaN = true := by decide

theorem isNaN_scaled (m : Nat) (e : Int) : (scaled m e).isNaN = false := by
  have hzero : (0.0 : Float).isNaN = false := isNaN_ofDecimal 0 true 1
  unfold scaled
  dsimp only
  split
  · exact hzero
  · split
    · exact isNaN_infinity
    · split
      · exact hzero
      · split
        · exact isNaN_ofDecimal ..
        · exact isNaN_ofDecimal ..

end Doubles

section Reading

variable {cs : List Char} {c : Char} {x : Float}

theorem isNaN_of_unsignedValue (h : unsignedValue cs = some x) : x.isNaN = false := by
  simp only [unsignedValue, Option.bind_eq_bind, Option.bind_eq_some_iff] at h
  obtain ⟨⟨whole, afterWhole⟩, -, ⟨fraction, afterFraction⟩, -, h⟩ := h
  split at h
  · cases h
  · split at h
    · exact Option.some.inj h ▸ isNaN_scaled ..
    · split at h
      · obtain ⟨exponent, -, h⟩ := Option.bind_eq_some_iff.1 h
        exact Option.some.inj h ▸ isNaN_scaled ..
      · cases h

/-- The name of the value that is no number, in letters of any case. -/
def IsNaNName (cs : List Char) : Prop :=
  cs.map Char.toLower = ['n', 'a', 'n']

theorem isNaN_of_magnitude (h : magnitude cs = some x) : x.isNaN = true ↔ IsNaNName cs := by
  have hname : String.ofList (cs.map Char.toLower) = "nan" ↔ IsNaNName cs := by
    rw [IsNaNName, ← String.toList_inj, String.toList_ofList]
    exact Iff.rfl
  unfold magnitude at h
  dsimp only at h
  split at h
  · next hinfinite =>
      have hnan : ¬ String.ofList (cs.map Char.toLower) = "nan" := by
        rintro hnan
        rw [hnan] at hinfinite
        revert hinfinite
        decide
      rw [← Option.some.inj h, ← hname, isNaN_infinity]
      simp [hnan]
  · split at h
    · next hnan =>
        rw [← Option.some.inj h, ← hname, isNaN_zeroOverZero]
        simp [hnan]
    · next hnan =>
        rw [isNaN_of_unsignedValue h, ← hname]
        simp [hnan]

theorem digitValue?_le {value : Nat} (h : Text.digitValue? c = some value) : value ≤ 9 := by
  obtain ⟨first, hfirst, rfl⟩ := Option.map_eq_some_iff.1 h
  have hrange := List.find?_some hfirst
  simp at hrange
  omega

theorem plainDigit_cases (c : Char) : plainDigit c = c ∨ (plainDigit c).isDigit = true := by
  unfold plainDigit
  split
  · next value hvalue =>
      have hbound := digitValue?_le hvalue
      have hdigit : ∀ value : Fin 10, (Char.ofNat ('0'.toNat + value.val)).isDigit = true := by decide
      exact .inr (hdigit ⟨value, Nat.lt_succ_of_le hbound⟩)
  · exact .inl rfl

theorem plainDigit_of_between (hlow : 0x39 < c.toNat) (hhigh : c.toNat < 0x660) : plainDigit c = c := by
  have hzeros : ∀ first ∈ Text.digitZeros, first = 0x30 ∨ 0x660 ≤ first := by decide
  have hnone : Text.digitValue? c = none := by
    rw [Text.digitValue?, Option.map_eq_none_iff, List.find?_eq_none]
    intro first hfirst
    have hzero := hzeros first hfirst
    simp
    omega
  rw [plainDigit, hnone]

theorem plainDigit_eq_iff {d : Char} (hd : plainDigit d = d) (hdigit : d.isDigit = false) :
    plainDigit c = d ↔ c = d := by
  constructor
  · rintro rfl
    rcases plainDigit_cases c with hsame | hplain
    · exact hsame.symm
    · rw [hdigit] at hplain
      cases hplain
  · rintro rfl
    exact hd

theorem toLower_cases (c : Char) : c.toLower = c ∨ 0x41 ≤ c.toNat ∧ c.toNat ≤ 0x5a := by
  unfold Char.toLower
  split
  · next hcapital => exact .inr ⟨UInt32.le_iff_toNat_le.1 hcapital.1, UInt32.le_iff_toNat_le.1 hcapital.2⟩
  · exact .inl rfl

theorem toLower_plainDigit_eq_iff {d : Char} (hlow : 0x39 < d.toNat) (hhigh : d.toNat < 0x660) :
    (plainDigit c).toLower = d ↔ c.toLower = d := by
  rcases plainDigit_cases c with hsame | hplain
  · rw [hsame]
  · have hdigit : (plainDigit c).toNat ≤ 0x39 := by
      simp [Char.isDigit] at hplain
      exact UInt32.le_iff_toNat_le.1 hplain.2
    constructor
    · intro h
      rcases toLower_cases (plainDigit c) with hlower | hcapital
      · rw [hlower] at h
        rw [h] at hdigit
        omega
      · omega
    · intro h
      have hletter : plainDigit c = c := by
        rcases toLower_cases c with hlower | hcapital
        · rw [hlower] at h
          subst h
          exact plainDigit_of_between hlow hhigh
        · exact plainDigit_of_between (by omega) (by omega)
      rw [hletter, h]

theorem isNaNName_map_plainDigit : IsNaNName (cs.map plainDigit) ↔ IsNaNName cs := by
  have hmap : ∀ (name : List Char), (∀ d ∈ name, 0x39 < d.toNat ∧ d.toNat < 0x660) → ∀ cs : List Char,
      (cs.map plainDigit).map Char.toLower = name ↔ cs.map Char.toLower = name := by
    intro name
    induction name with
    | nil => simp
    | cons d name ih =>
        intro hname cs
        obtain ⟨⟨hlow, hhigh⟩, hrest⟩ := List.forall_mem_cons.1 hname
        cases cs with
        | nil => simp
        | cons c cs =>
            simp only [List.map_cons, List.cons.injEq]
            rw [toLower_plainDigit_eq_iff hlow hhigh, ih hrest]
  exact hmap _ (by simp) cs

theorem magnitude_of_isNaNName (h : IsNaNName cs) : magnitude cs = some (0.0 / 0.0) := by
  rw [magnitude, h]
  rfl

theorem exists_magnitude_isNaN_iff :
    (∃ x, magnitude cs = some x ∧ x.isNaN = true) ↔ IsNaNName cs := by
  constructor
  · rintro ⟨x, hx, hnan⟩
    exact (isNaN_of_magnitude hx).1 hnan
  · intro h
    exact ⟨_, magnitude_of_isNaNName h, isNaN_zeroOverZero⟩

/-- The name of the value that is no number, with a sign or without one. -/
def IsSignedNaNName (cs : List Char) : Prop :=
  ∃ sign name, cs = sign ++ name ∧ sign ∈ [[], ['-'], ['+']] ∧ IsNaNName name

theorem isSignedNaNName_of_sign {rest : List Char} (hc : c = '-' ∨ c = '+') :
    IsSignedNaNName (c :: rest) ↔ IsNaNName rest := by
  constructor
  · rintro ⟨sign, name, hcs, hsign, hname⟩
    simp only [List.mem_cons, List.not_mem_nil, or_false] at hsign
    rcases hsign with rfl | rfl | rfl
    · obtain rfl : c :: rest = name := hcs
      rcases hc with rfl | rfl <;> simp [IsNaNName] at hname
    · cases hcs
      exact hname
    · cases hcs
      exact hname
  · intro h
    refine ⟨[c], rest, rfl, ?_, h⟩
    rcases hc with rfl | rfl <;> simp

theorem isSignedNaNName_of_unsigned (h : ∀ rest, cs ≠ '-' :: rest ∧ cs ≠ '+' :: rest) :
    IsSignedNaNName cs ↔ IsNaNName cs := by
  constructor
  · rintro ⟨sign, name, rfl, hsign, hname⟩
    simp only [List.mem_cons, List.not_mem_nil, or_false] at hsign
    rcases hsign with rfl | rfl | rfl
    · exact hname
    · exact absurd rfl (h name).1
    · exact absurd rfl (h name).2
  · exact fun h => ⟨[], cs, rfl, by simp, h⟩

/-- What is read from a text is no number exactly when the text, but for padding, is its name. -/
theorem read?_isNaN_iff (s : String) :
    (∃ x, read? s = some x ∧ x.isNaN = true) ↔ IsSignedNaNName (unpadded s.toList) := by
  have hminus : ∀ c, plainDigit c = '-' ↔ c = '-' := fun _ => plainDigit_eq_iff (by decide) (by decide)
  have hplus : ∀ c, plainDigit c = '+' ↔ c = '+' := fun _ => plainDigit_eq_iff (by decide) (by decide)
  unfold read?
  generalize unpadded s.toList = cs
  cases cs with
  | nil =>
      rw [isSignedNaNName_of_unsigned (by simp)]
      exact exists_magnitude_isNaN_iff
  | cons c rest =>
      rw [List.map_cons]
      split
      · next signless heq =>
          obtain ⟨hc, rfl⟩ := List.cons.inj heq
          rw [isSignedNaNName_of_sign (.inl ((hminus c).1 hc)), ← isNaNName_map_plainDigit,
            ← exists_magnitude_isNaN_iff]
          constructor
          · rintro ⟨_, hread, hnan⟩
            obtain ⟨x, hx, rfl⟩ := Option.map_eq_some_iff.1 hread
            exact ⟨x, hx, isNaN_negate x ▸ hnan⟩
          · rintro ⟨x, hx, hnan⟩
            exact ⟨-x, by rw [hx, Option.map_some], (isNaN_negate x).trans hnan⟩
      · next signless heq =>
          obtain ⟨hc, rfl⟩ := List.cons.inj heq
          rw [isSignedNaNName_of_sign (.inr ((hplus c).1 hc)), ← isNaNName_map_plainDigit]
          exact exists_magnitude_isNaN_iff
      · next hnotMinus hnotPlus =>
          have hunsigned : ∀ others, c :: rest ≠ '-' :: others ∧ c :: rest ≠ '+' :: others := by
            intro others
            constructor
            · rintro ⟨⟩
              exact hnotMinus (rest.map plainDigit) (congrArg (· :: _) ((hminus _).2 rfl))
            · rintro ⟨⟩
              exact hnotPlus (rest.map plainDigit) (congrArg (· :: _) ((hplus _).2 rfl))
          rw [isSignedNaNName_of_unsigned hunsigned, ← isNaNName_map_plainDigit, List.map_cons]
          exact exists_magnitude_isNaN_iff

end Reading

end RecordBinding.Decimal
