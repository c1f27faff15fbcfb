import LineRpc.Proofs.Number.Integers

/-!
# Dyadic — large integers that are numbers

An integer is a number if it is one of fifty-three bits, followed by zeros, and not too large. A
divisor of such an integer has no more bits and no more zeros, so it is a number too, however large
the integer is.

* `Kept`             : natural numbers of fifty-three bits and then zeros
* `kept_of_integer?` : the size of an integer that is a number
* `Kept.of_dvd`      : divisors are kept too
* `ofNat_kept`       : what is kept is stored exactly
-/

namespace LineRpc
namespace Number

open Float.Model Float.Model.UnpackedFloat

variable {x : Float} {i : Int} {n g : Nat}

/-- A natural number of no more than fifty-three bits before its last zeros, and below the bound of
what is finite. -/
structure Kept (n : Nat) : Prop where
  bits : ∃ m a : Nat, m < 2 ^ 53 ∧ n = m * 2 ^ a
  bound : (n : ℚ) < 2 ^ 1024

/-- A mantissa with an exponent that is an integer has its bits and then zeros. -/
theorem kept_of_parts {m : Nat} {e : Int} (hm : m < 2 ^ 53) (he : e ≤ 971)
    (h : (m * 2 ^ e : ℚ) = n) : Kept n := by
  have hbound : (n : ℚ) < 2 ^ 1024 := by
    have hm' : (m : ℚ) < 2 ^ (53 : Int) := by exact_mod_cast hm
    calc (n : ℚ) = m * 2 ^ e := h.symm
      _ < 2 ^ (53 : Int) * 2 ^ e := by gcongr
      _ = 2 ^ (53 + e) := (zpow_add₀ (by norm_num) _ _).symm
      _ ≤ 2 ^ (1024 : Int) := zpow_le_zpow_right₀ (by norm_num) (by omega)
      _ = 2 ^ 1024 := zpow_natCast _ _
  refine ⟨?_, hbound⟩
  rcases le_total 0 e with hpos | hneg
  · obtain ⟨a, rfl⟩ := Int.eq_ofNat_of_zero_le hpos
    refine ⟨m, a, hm, ?_⟩
    rw [zpow_natCast] at h
    exact_mod_cast h.symm
  · -- Without zeros at the end, the integer itself has no more bits than the mantissa.
    have hle : (n : ℚ) ≤ m := by
      rw [← h]
      exact mul_le_of_le_one_right m.cast_nonneg (zpow_le_one_of_nonpos₀ (by norm_num) hneg)
    have hle : n ≤ m := by exact_mod_cast hle
    exact ⟨n, 0, lt_of_le_of_lt hle hm, by simp⟩

/-- The size of an integer that is a number is kept. -/
theorem kept_of_integer? (h : integer? x = some i) : Kept i.natAbs := by
  -- A number without a sign comes first; the sign changes nothing in the size.
  have hpositive {y : Float} {j : Int} {m : Nat} {e : Int} {hp : 0 < m}
      (hy : y.toModel.unpack = .finite .positive m e hp) (hj : integer? y = some j) :
      Kept j.natAbs := by
    obtain ⟨n, rfl, hvalue⟩ := value_of_integer? hy hj
    have hc := canonical_of_unpack hy
    exact kept_of_parts hc.lt hc.high hvalue
  cases hx : x.toModel.unpack with
  | zero s =>
      have hzero : integer? x = some 0 := by
        simp [integer?, scaled?, hx]
      cases h.symm.trans hzero
      exact ⟨⟨0, 0, by norm_num, rfl⟩, by positivity⟩
  | finite s m e hp =>
      cases s with
      | positive =>
          exact hpositive hx h
      | negative =>
          have hx' : (-x).toModel.unpack = .finite .positive m e hp := by
            rw [unpack_neg, hx]
            rfl
          have h' : integer? (-x) = some (-i) := by
            rw [integer?_neg, h]
            rfl
          rw [← Int.natAbs_neg]
          exact hpositive hx' h'
  | _ =>
      simp [integer?, scaled?, hx] at h

/-- A divisor has no more bits and no more zeros. -/
theorem Kept.of_dvd (h : Kept n) (hn : 0 < n) (hg : g ∣ n) : Kept g := by
  obtain ⟨m, a, hm, rfl⟩ := h.bits
  obtain ⟨k, t, hk, ht, rfl⟩ := (Nat.dvd_mul).mp hg
  obtain ⟨b, -, rfl⟩ := (Nat.dvd_prime_pow Nat.prime_two).mp ht
  have hle : k ≤ m := Nat.le_of_dvd (Nat.pos_of_mul_pos_right hn) hk
  have hsize : ((k * 2 ^ b : Nat) : ℚ) ≤ (m * 2 ^ a : Nat) := by
    exact_mod_cast Nat.le_of_dvd hn hg
  exact ⟨⟨k, b, lt_of_le_of_lt hle hm, rfl⟩, lt_of_le_of_lt hsize h.bound⟩

/-- The integer of a positive number that is one. -/
theorem integer?_of_value {m : Nat} {e : Int} {hp : 0 < m}
    (hx : x.toModel.unpack = .finite .positive m e hp) (h : (m * 2 ^ e : ℚ) = n) :
    integer? x = some (n : Int) := by
  have hscaled : scaled? x = some ⟨m, e⟩ := by
    simp [scaled?, hx, Sign.apply]
  have hint : isInteger x = true := by
    rcases le_or_gt 0 e with hpos | hneg
    · simp [isInteger, integer?, hscaled, hpos]
    · -- The bits behind the point are zeros, since the integer has none.
      obtain ⟨k, hk⟩ := Int.eq_ofNat_of_zero_le (by omega : 0 ≤ -e)
      obtain rfl : e = -(k : Int) := by omega
      have hm : (m : ℚ) = n * 2 ^ k := by
        rw [← h, zpow_neg, zpow_natCast, inv_mul_cancel_right₀ (by positivity)]
      have hm : m = n * 2 ^ k := by exact_mod_cast hm
      have hmod : (m : Int) % (2 ^ k : Nat) = 0 := by
        rw [hm, Nat.cast_mul]
        exact Int.mul_emod_left _ _
      have habs : (-(k : Int)).natAbs = k := by omega
      simp only [isInteger, integer?, hscaled, if_neg (not_le.mpr hneg), habs, Nat.pow_eq,
        if_pos hmod, Option.isSome_some]
  -- The integer that is read has the same value, so it is the same.
  obtain ⟨k, hk, hvalue⟩ := NDArray.integer?_positive hx hint
  have hsame : (k : ℚ) = n := hvalue.symm.trans h
  rw [hk, Nat.cast_injective hsame]

/-- What is kept is stored exactly, and without a sign. -/
theorem ofNat_kept (h : Kept n) :
    integer? (Float.ofNat n) = some (n : Int) ∧ isNegativeZero (Float.ofNat n) = false := by
  obtain ⟨m, a, hm, hn⟩ := h.bits
  rcases Nat.eq_zero_or_pos m with rfl | hpos
  · obtain rfl : n = 0 := by simpa using hn
    exact ⟨integer?_ofNat (by norm_num), by decide +kernel⟩
  obtain ⟨hfull, hc⟩ := canonical_shift hpos hm
  have hshort := value_toFloat hm hpos
  generalize m * 2 ^ (52 - m.log2) = M at hfull hc hshort
  generalize (m.log2 : Int) - 52 = u at hc hshort
  have hvalue : (M : ℚ) * 2 ^ (u + a) = n := by
    rw [zpow_add₀ (by norm_num), zpow_natCast, ← mul_assoc, hshort, hn]
    push_cast
    rfl
  -- The zeros at the end are taken up by the exponent, which is not too large for them.
  have hhigh : u + a ≤ 971 := by
    have hM : (2 : ℚ) ^ (52 : Int) ≤ M := by exact_mod_cast hfull
    have hlt : (2 : ℚ) ^ (52 + (u + a)) < 2 ^ (1024 : Int) := by
      calc (2 : ℚ) ^ (52 + (u + a)) = 2 ^ (52 : Int) * 2 ^ (u + a) := zpow_add₀ (by norm_num) _ _
        _ ≤ M * 2 ^ (u + a) := by gcongr
        _ = n := hvalue
        _ < 2 ^ 1024 := h.bound
        _ = 2 ^ (1024 : Int) := (zpow_natCast _ _).symm
    have := (zpow_lt_zpow_iff_right₀ (by norm_num : (1 : ℚ) < 2)).mp hlt
    omega
  have hlow := hc.low
  have hcanonical : Canonical M (u + a) := ⟨hc.pos, hc.lt, by omega, hhigh, .inl hfull⟩
  have hunpack : (Float.ofModel (Float.Model.pack (.finite .positive M (u + a) hc.pos))).toModel.unpack =
      .finite .positive M (u + a) hc.pos := unpack_pack_finite hc.pos hcanonical
  rw [ofNat_of_unpack hunpack hvalue]
  refine ⟨integer?_of_value hunpack hvalue, ?_⟩
  rw [isNegativeZero, hunpack]

end Number
end LineRpc
