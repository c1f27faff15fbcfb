import LineRpc.Proofs.Number.Rounding

/-!
# Single — the 32-bit form of a number

A number is rounded when it is stored in thirty-two bits, and it is read from them exactly: every
number of the short format is one of the long format too. So what is read is stored in bits that are
read as the same number.

* `Short`              : the mantissa and exponent of a number in the short format
* `round_finer`        : rounding to a format with room for more digits
* `round_coarser`      : rounding away zeros
* `toBits32_ofBits32`  : what is read is stored as its parts are
* `ofBits32_toBits32`  : what is read and stored again is read as before
-/

namespace LineRpc
namespace Number

open Float.Model Float.Model.UnpackedFloat

variable {s : Sign} {m : Nat} {e : Int}

/-! ## Exact rounding -/

section Formats

variable {spec : Format}

theorem log2_mul_two_pow (hm : 0 < m) (k : Nat) : (m * 2 ^ k).log2 = m.log2 + k := by
  refine (Nat.log2_eq_iff (by positivity)).mpr ⟨?_, ?_⟩
  · rw [pow_add]
    exact Nat.mul_le_mul_right _ (Nat.log2_self_le hm.ne')
  · rw [Nat.add_right_comm, pow_add]
    exact Nat.mul_lt_mul_of_pos_right Nat.lt_log2_self (by positivity)

/-- Zeros behind a mantissa do not change where the number starts. -/
theorem totalExponent_mul_two_pow (hm : 0 < m) (k : Nat) (e : Int) :
    totalExponent (m * 2 ^ k) e = totalExponent m (e + k) := by
  rw [totalExponent, totalExponent, log2_mul_two_pow hm, Nat.cast_add]
  ring

/-- Zeros that are shifted out leave nothing behind. -/
theorem shiftRight_zeros (m k : Nat) :
    (⟨m * 2 ^ k, false, false⟩ : ExtendedMantissa) >>> k = ⟨m, false, false⟩ := by
  induction k generalizing m with
  | zero =>
      rw [pow_zero, Nat.mul_one]
      rfl
  | succ k ih =>
      have hstep : (⟨m * 2 ^ (k + 1), false, false⟩ : ExtendedMantissa) >>> (k + 1) =
          ((⟨m * 2 * 2 ^ k, false, false⟩ : ExtendedMantissa) >>> k).shiftRightOne := by
        rw [pow_succ', ← Nat.mul_assoc]
        rfl
      rw [hstep, ih]
      simp [ExtendedMantissa.shiftRightOne]

/-- A mantissa whose last digits are zeros is shifted to the exponent that it should have. -/
theorem roundWithAccuracy_zeros (hm : 0 < m) (k : Nat)
    (ht : spec.targetExponent (totalExponent m e) = e) :
    roundWithAccuracy spec s (m * 2 ^ k) (e - k) .exact = .finite s m e hm := by
  have ht' : spec.targetExponent (totalExponent (m * 2 ^ k) (e - k)) = e := by
    rw [totalExponent_mul_two_pow hm, sub_add_cancel, ht]
  -- Only zeros are shifted out, so nothing is left to round.
  have hshift : shiftToTargetExponent spec (m * 2 ^ k) (e - k) .exact = (⟨m, false, false⟩, e) := by
    have hk : (e - (e - k)).toNat = k := by omega
    rw [shiftToTargetExponent, ht', shiftToExponent, hk]
    exact Prod.ext (shiftRight_zeros m k) (sub_add_cancel e _)
  have hstay : shiftToTargetExponent spec m e .exact = (⟨m, false, false⟩, e) := by
    simp only [shiftToTargetExponent, ht, shiftToExponent, sub_self]
    exact Prod.ext rfl (add_zero e)
  have hrounded : ExtendedMantissa.roundedMantissa ⟨m, false, false⟩ = m := rfl
  simp only [roundWithAccuracy, hshift, hrounded, hstay]
  rw [dif_neg hm.ne']

/-- Rounding to a format with room for more digits adds zeros. -/
theorem round_finer (hm : 0 < m) (h : spec.targetExponent (totalExponent m e) ≤ e) :
    UnpackedFloat.round spec s m e =
      .finite s (m * 2 ^ (e - spec.targetExponent (totalExponent m e)).toNat)
        (spec.targetExponent (totalExponent m e)) (by positivity) := by
  obtain ⟨k, hk⟩ : ∃ k : Nat, e - spec.targetExponent (totalExponent m e) = k :=
    ⟨_, (Int.toNat_of_nonneg (by omega)).symm⟩
  have hpos : 0 < m * 2 ^ k := by positivity
  have ht : spec.targetExponent (totalExponent (m * 2 ^ k) (e - k)) = e - k := by
    rw [totalExponent_mul_two_pow hm, sub_add_cancel]
    omega
  have hround := roundWithAccuracy_zeros (s := s) hpos 0 ht
  rw [pow_zero, Nat.mul_one, Nat.cast_zero, sub_zero] at hround
  simp only [UnpackedFloat.round, decreaseExponent, hk, Int.toNat_natCast, Nat.shiftLeft_eq, hround]
  exact finite_congr _ _ rfl (by omega)

/-- Rounding takes zeros away again. -/
theorem round_coarser (hm : 0 < m) (k : Nat) (ht : spec.targetExponent (totalExponent m e) = e) :
    UnpackedFloat.round spec s (m * 2 ^ k) (e - k) = .finite s m e hm := by
  have hstay : (e - k - spec.targetExponent (totalExponent (m * 2 ^ k) (e - k))).toNat = 0 := by
    rw [totalExponent_mul_two_pow hm, sub_add_cancel, ht]
    omega
  simp only [UnpackedFloat.round, decreaseExponent, hstay, Nat.shiftLeft_zero, Nat.cast_zero, sub_zero]
  exact roundWithAccuracy_zeros hm k ht

end Formats

/-! ## The short format -/

/-- The parts of a finite number that is read from thirty-two bits. The mantissa has twenty-four
bits, or fewer of them at the least exponent. -/
structure Short (m : Nat) (e : Int) : Prop where
  pos : 0 < m
  lt : m < 2 ^ 24
  low : -149 ≤ e
  high : e ≤ 104
  full : 2 ^ 23 ≤ m ∨ e = -149

/-- A single-precision number has a short mantissa. -/
theorem short_of_unpack {b : BitVec Format.binary32.numBits} {hp : 0 < m}
    (h : UnpackedFloat.unpack Format.binary32 b = .finite s m e hp) : Short m e := by
  have hman : (unpackMantissa b).toNat < 2 ^ 23 := (unpackMantissa b).isLt
  have hexp : (unpackExponent b).toNat < 2 ^ 8 := (unpackExponent b).isLt
  have hwidth : Format.binary32.mantissaBitsWithoutImplicit = 23 := rfl
  have hbias : Format.binary32.exponentBias = 127 := by decide
  rw [UnpackedFloat.unpack, hbias] at h
  split at h
  · split at h <;> cases h
  · rename_i he
    have hne : (unpackExponent b).toNat ≠ 255 := BitVec.toNat_ne.mp he
    -- The exponent field of zero means a subnormal number.
    split at h
    · rename_i he₀
      have hzero : (unpackExponent b).toNat = 0 := by
        rw [he₀]
        rfl
      split at h
      · cases h
      · injection h with _ hm he
        exact ⟨hp, by omega, by omega, by omega, .inr (by omega)⟩
    · rename_i he₀
      have hne₀ : (unpackExponent b).toNat ≠ 0 := BitVec.toNat_ne.mp he₀
      injection h with _ hm he
      have hfull : m = 2 ^ 23 + (unpackMantissa b).toNat :=
        hm.symm.trans (toNat_append_one _)
      exact ⟨hp, by omega, by omega, by omega, .inl (by omega)⟩

/-- The exponent is the one that the number should have in the short format. -/
theorem Short.targetExponent (h : Short m e) :
    Format.binary32.targetExponent (totalExponent m e) = e := by
  have hbits : ((Format.binary32.mantissaBits : Nat) : Int) = 24 := by decide
  have hmin : Format.binary32.minExponent = -149 := by decide
  have hlog : m.log2 < 24 := (Nat.log2_lt h.pos.ne').mpr h.lt
  have hlow := h.low
  rw [Format.targetExponent, hbits, hmin, totalExponent]
  rcases h.full with hfull | rfl
  · have hle : 23 ≤ m.log2 := (Nat.le_log2 h.pos.ne').mpr hfull
    omega
  · omega

/-- A number of the short format is rounded to the long one by zeros, and to the short one again by
taking them away. -/
theorem Short.reround (h : Short m e) :
    ∃ (n : Nat) (u : Int) (hn : 0 < n), Canonical n u ∧
      UnpackedFloat.round Format.binary64 s m e = .finite s n u hn ∧
      UnpackedFloat.round Format.binary32 s n u = .finite s m e h.pos := by
  have hlog : m.log2 < 24 := (Nat.log2_lt h.pos.ne').mpr h.lt
  have hlow := h.low
  have hhigh := h.high
  -- There is room for as many zeros as the mantissa is short of fifty-three digits.
  obtain ⟨k, hk⟩ : ∃ k : Nat, m.log2 + k = 52 := ⟨52 - m.log2, by omega⟩
  have ht : Format.binary64.targetExponent (totalExponent m e) = e - k := by
    rw [targetExponent_eq, totalExponent]
    omega
  have hcount : (e - (e - k)).toNat = k := by omega
  have hround : UnpackedFloat.round Format.binary64 s m e = _ := round_finer h.pos (by omega)
  have hlength : (m * 2 ^ k).log2 = 52 := by
    rw [log2_mul_two_pow h.pos, hk]
  obtain ⟨hfull, hlt⟩ := (Nat.log2_eq_iff (by have := h.pos; positivity)).mp hlength
  refine ⟨m * 2 ^ k, e - k, by have := h.pos; positivity,
    ⟨by have := h.pos; positivity, hlt, by omega, by omega, .inl hfull⟩, ?_,
    round_coarser h.pos k h.targetExponent⟩
  rw [hround]
  refine finite_congr _ _ ?_ ht
  rw [ht, hcount]

/-! ## Reading and storing -/

/-- What is read from thirty-two bits is stored as its parts are. -/
theorem toBits32_ofBits32 (b : UInt32) :
    toBits32 (ofBits32 b) = UInt32.ofBitVec
      (UnpackedFloat.pack Format.binary32 (UnpackedFloat.unpack Format.binary32 b.toBitVec)) := by
  have hread : reround Format.binary32 (Float.Model.pack (reround Format.binary64
      (UnpackedFloat.unpack Format.binary32 b.toBitVec))).unpack =
        UnpackedFloat.unpack Format.binary32 b.toBitVec := by
    cases hu : UnpackedFloat.unpack Format.binary32 b.toBitVec with
    | notANumber =>
        rfl
    | infinity s =>
        cases s <;> rfl
    | zero s =>
        cases s <;> rfl
    | finite s m e hp =>
        -- A short number is kept by the longer format, and rounded back it is itself.
        obtain ⟨n, u, hn, hc, hlong, hshort⟩ := (short_of_unpack hu).reround (s := s)
        rw [reround, hlong, unpack_pack_finite hn hc, reround, hshort]
  rw [toBits32, ofBits32]
  exact congrArg (fun u => UInt32.ofBitVec (UnpackedFloat.pack Format.binary32 u)) hread

/-- What is stored in thirty-two bits is read and stored as it was. -/
theorem toBits32_ofBits32_toBits32 (x : Float) : toBits32 (ofBits32 (toBits32 x)) = toBits32 x := by
  rw [toBits32_ofBits32]
  exact congrArg UInt32.ofBitVec (pack_unpack_of_valid (by decide) valid_pack)

/-- What is read from thirty-two bits is read again after it was stored. -/
theorem ofBits32_toBits32 (b : UInt32) : ofBits32 (toBits32 (ofBits32 b)) = ofBits32 b := by
  have hparts : UnpackedFloat.unpack Format.binary32 (toBits32 (ofBits32 b)).toBitVec =
      UnpackedFloat.unpack Format.binary32 b.toBitVec := by
    rw [toBits32_ofBits32]
    change UnpackedFloat.unpack _ (UnpackedFloat.pack _ _) = _
    cases hu : UnpackedFloat.unpack Format.binary32 b.toBitVec with
    | notANumber =>
        rfl
    | infinity s =>
        cases s <;> rfl
    | zero s =>
        cases s <;> rfl
    | finite s m e hp =>
        -- Only a NaN could have other bits than those it is packed with.
        have hvalid : Format.binary32.Valid b.toBitVec := by
          refine ⟨?_⟩
          intro he hm
          rw [UnpackedFloat.unpack, if_pos he, if_neg hm] at hu
          cases hu
        rw [← hu, pack_unpack_of_valid (by decide) hvalid]
  rw [ofBits32, hparts]
  rfl

end Number
end LineRpc
