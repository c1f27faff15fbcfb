import LineRpc.Json.Token
import LineRpc.Proofs.Number.Rounding

/-!
# Nearest — reading a decimal rounds correctly

A decimal with few digits is read as a product or a quotient of two numbers that are stored exactly,
any other is read from its integers. Either way one rounding is made, so the number that comes out
is the one that the decimal rounds to.

* `mul_finite_eq`, `div_finite_eq` : products and quotients are rounded once
* `unpack_toFloat`, `unpack_power` : short digits and small powers of ten are stored exactly
* `nearest_eq`                     : a decimal is read as the number it rounds to
-/

namespace LineRpc
namespace Number

open Float.Model Float.Model.UnpackedFloat

variable {m : Nat} {e : Int}

theorem gapBelow_pos (m : Nat) (e : Int) : 0 < gapBelow m e := by
  rw [gapBelow_eq]
  split <;> norm_num

theorem rounds_self (m : Nat) (e : Int) : Rounds m e m := by
  have hg : (0 : ℚ) < gapBelow m e := by exact_mod_cast gapBelow_pos m e
  exact ⟨by linarith, by linarith, fun _ => ⟨by linarith, by linarith⟩⟩

theorem near_exact (M : Nat) : Near (ExtendedMantissa.ofMantissaAndAccuracy M .exact) M :=
  rfl

/-- A product is the double that the exact product rounds to. -/
theorem mul_finite_eq {s₁ s₂ : Sign} {m₁ m₂ : Nat} {e₁ e₂ : Int} (h₁ : 0 < m₁) (h₂ : 0 < m₂)
    (hc : Canonical m e) (hbig : 2 ^ 52 ≤ m₁ * m₂)
    (hr : Rounds m e ((m₁ * 2 ^ e₁ : ℚ) * (m₂ * 2 ^ e₂) * 2 ^ (-e))) :
    UnpackedFloat.mul Format.binary64 (.finite s₁ m₁ e₁ h₁) (.finite s₂ m₂ e₂ h₂) =
      .finite (s₁ * s₂) m e hc.pos := by
  refine roundWithAccuracy_eq hc (near_exact _) ?_ ?_ (Or.inl (Nat.mul_pos h₁ h₂))
  · convert hr using 1
    rw [show e₁ + e₂ - e = e₁ + (e₂ + -e) by ring, zpow_add₀ (by norm_num),
      zpow_add₀ (by norm_num)]
    push_cast
    ring
  · have hlog : 52 ≤ (m₁ * m₂).log2 := (Nat.le_log2 (by omega)).mpr hbig
    rw [targetExponent_eq, totalExponent]
    omega

/-- The flags of a division say on which side of the half the rest lies. -/
theorem near_accuracyOfFraction {M n d : Nat} (hn : n < d) :
    Near (ExtendedMantissa.ofMantissaAndAccuracy M (accuracyOfFraction n d)) (M + n / d : ℚ) := by
  have hd : (0 : ℚ) < d := by
    have : 0 < d := by omega
    exact_mod_cast this
  have hlt : (n : ℚ) / d < 1 := by
    rw [div_lt_one hd]
    exact_mod_cast hn
  rw [accuracyOfFraction]
  split
  · rename_i h₀
    simp [Near, ExtendedMantissa.ofMantissaAndAccuracy, h₀]
  · rename_i h₀
    have hpos : (0 : ℚ) < n / d := by
      have : 0 < n := by omega
      positivity
    -- The fraction is compared with one half.
    rcases h : compare (2 * n) d with _ | _ | _
    · have hc : 2 * n < d := Nat.compare_eq_lt.mp h
      have : (n : ℚ) / d < 1 / 2 := by
        rw [div_lt_div_iff₀ hd (by norm_num)]
        have : (2 * n : ℚ) < d := by exact_mod_cast hc
        linarith
      change (M : ℚ) < _ ∧ _ < (M : ℚ) + 1 / 2
      exact ⟨by linarith, by linarith⟩
    · have hc : 2 * n = d := Nat.compare_eq_eq.mp h
      have : (n : ℚ) / d = 1 / 2 := by
        rw [div_eq_div_iff hd.ne' (by norm_num)]
        have : (2 * n : ℚ) = d := by exact_mod_cast hc
        linarith
      simp only [Near, ExtendedMantissa.ofMantissaAndAccuracy]
      rw [this]
    · have hc : d < 2 * n := Nat.compare_eq_gt.mp h
      have : 1 / 2 < (n : ℚ) / d := by
        rw [div_lt_div_iff₀ (by norm_num) hd]
        have : (d : ℚ) < 2 * n := by exact_mod_cast hc
        linarith
      change (M : ℚ) + 1 / 2 < _ ∧ _ < (M : ℚ) + 1
      exact ⟨by linarith, by linarith⟩

theorem zpow_log2_le {n : Nat} (h : 0 < n) : (2 : ℚ) ^ (n.log2 : Int) ≤ n := by
  rw [zpow_natCast]
  exact_mod_cast Nat.log2_self_le (by omega)

theorem lt_zpow_log2 (n : Nat) : (n : ℚ) < 2 ^ ((n.log2 : Int) + 1) := by
  have h : n < 2 ^ (n.log2 + 1) := Nat.lt_log2_self
  rw [show (n.log2 : Int) + 1 = ((n.log2 + 1 : Nat) : Int) by push_cast; ring, zpow_natCast]
  exact_mod_cast h

/-- The lengths of two mantissas bound their quotient. -/
theorem zpow_lt_div {a b k : Nat} (ha : 0 < a) (hb : 0 < b) :
    (2 : ℚ) ^ ((a.log2 : Int) + k - b.log2 - 1) < a * 2 ^ k / b := by
  have hbq : (0 : ℚ) < b := by exact_mod_cast hb
  -- A number lies between the powers of two of its length.
  rw [lt_div_iff₀ hbq]
  calc (2 : ℚ) ^ ((a.log2 : Int) + k - b.log2 - 1) * b
      < 2 ^ ((a.log2 : Int) + k - b.log2 - 1) * 2 ^ ((b.log2 : Int) + 1) := by
        gcongr
        exact lt_zpow_log2 b
    _ = 2 ^ (a.log2 : Int) * 2 ^ k := by
        rw [← zpow_add₀ (by norm_num), ← zpow_natCast, ← zpow_add₀ (by norm_num)]
        congr 1
        ring
    _ ≤ a * 2 ^ k := by
        gcongr
        exact zpow_log2_le ha

/-- A quotient is the whole part and the rest. -/
theorem whole_add_rest (a : Nat) {b : Nat} (hb : 0 < b) :
    ((a / b : Nat) : ℚ) + ((a % b : Nat) : ℚ) / b = a / b := by
  have hbq : (b : ℚ) ≠ 0 := by exact_mod_cast hb.ne'
  have hdiv : (b : ℚ) * (a / b : Nat) + (a % b : Nat) = a := by
    exact_mod_cast Nat.div_add_mod a b
  field_simp
  linarith

/-- The whole part of a quotient is not much shorter than the mantissas say; if there is none, then
they say that the quotient is less than one. -/
theorem length_quotient {a b k q : Nat} (ha : 0 < a) (hb : 0 < b)
    (hq : (a * 2 ^ k / b : ℚ) < q + 1) :
    (0 < q → (a.log2 : Int) + k - b.log2 - 1 < q.log2 + 1) ∧
      (q = 0 → (a.log2 : Int) + k - b.log2 - 1 < 0) := by
  have hlt := lt_trans (zpow_lt_div ha hb) hq
  constructor
  · intro _
    refine (zpow_lt_zpow_iff_right₀ (by norm_num : (1 : ℚ) < 2)).mp (lt_of_lt_of_le hlt ?_)
    have hnext : q + 1 ≤ 2 ^ (q.log2 + 1) := Nat.lt_log2_self
    calc (q : ℚ) + 1 ≤ 2 ^ (q.log2 + 1) := by exact_mod_cast hnext
      _ = 2 ^ ((q.log2 : Int) + 1) := by
          rw [← zpow_natCast]
          push_cast
          rfl
  · rintro rfl
    refine (zpow_lt_zpow_iff_right₀ (by norm_num : (1 : ℚ) < 2)).mp ?_
    simpa using hlt

/-- A quotient is the double that the exact quotient rounds to. -/
theorem div_finite_eq {s₁ s₂ : Sign} {m₁ m₂ : Nat} {e₁ e₂ : Int} (h₁ : 0 < m₁) (h₂ : 0 < m₂)
    (hc : Canonical m e) (hbig : -1074 ≤ e₁ - e₂)
    (hr : Rounds m e ((m₁ * 2 ^ e₁ : ℚ) / (m₂ * 2 ^ e₂) * 2 ^ (-e))) :
    UnpackedFloat.div Format.binary64 (.finite s₁ m₁ e₁ h₁) (.finite s₂ m₂ e₂ h₂) =
      .finite (s₁ / s₂) m e hc.pos := by
  have hT : Format.binary64.targetExponent (totalExponent m₁ e₁ - totalExponent m₂ e₂) =
      max ((m₁.log2 : Int) - m₂.log2 + e₁ - e₂ - 53) (-1074) := by
    rw [targetExponent_eq, totalExponent, totalExponent]
    congr 1
    ring
  simp only [UnpackedFloat.div, divCore, hT]
  -- The dividend is shifted by `k`, so that the whole part is long enough.
  obtain ⟨E, hE⟩ : ∃ E, min (e₁ - e₂) (max ((m₁.log2 : Int) - m₂.log2 + e₁ - e₂ - 53) (-1074)) = E :=
    ⟨_, rfl⟩
  obtain ⟨k, hk⟩ : ∃ k : Nat, e₁ - e₂ - E = k := ⟨_, (Int.toNat_of_nonneg (by omega)).symm⟩
  rw [hE, hk, Int.toNat_natCast, Nat.shiftLeft_eq]
  have hvalue := whole_add_rest (m₁ * 2 ^ k) h₂
  generalize hq : m₁ * 2 ^ k / m₂ = q at hvalue ⊢
  have hnear := near_accuracyOfFraction (M := q) (Nat.mod_lt (m₁ * 2 ^ k) h₂)
  rw [hvalue] at hnear
  push_cast at hnear
  have hqlt := (near_bounds hnear).2
  rw [ofMantissaAndAccuracy_mantissa] at hqlt
  rcases length_quotient h₁ h₂ hqlt with ⟨hlen, hzero⟩
  refine roundWithAccuracy_eq hc hnear ?_ ?_ ?_
  · convert hr using 1
    rw [← zpow_natCast (2 : ℚ) k, show E - e = e₁ + -e₂ + -(k : Int) + -e by omega]
    simp only [zpow_add₀ (show (2 : ℚ) ≠ 0 by norm_num), zpow_neg]
    field_simp
  · rw [targetExponent_eq, totalExponent]
    rcases Nat.eq_zero_or_pos q with h₀ | hpos
    · have := hzero h₀
      omega
    · have := hlen hpos
      omega
  · rcases Nat.eq_zero_or_pos q with h₀ | hpos
    · have := hzero h₀
      omega
    · exact Or.inl hpos

/-! ## Whole numbers and powers of ten -/

/-- A positive number below `2 ^ 53`, brought to fifty-three bits. -/
theorem canonical_shift {n : Nat} (hpos : 0 < n) (hlt : n < 2 ^ 53) :
    2 ^ 52 ≤ n * 2 ^ (52 - n.log2) ∧ Canonical (n * 2 ^ (52 - n.log2)) ((n.log2 : Int) - 52) := by
  have hlog : n.log2 < 53 := (Nat.log2_lt (by omega)).mpr hlt
  have hsplit : n.log2 + (52 - n.log2) = 52 := by omega
  have hfull : 2 ^ 52 ≤ n * 2 ^ (52 - n.log2) := by
    calc 2 ^ 52 = 2 ^ n.log2 * 2 ^ (52 - n.log2) := by rw [← pow_add, hsplit]
      _ ≤ n * 2 ^ (52 - n.log2) := Nat.mul_le_mul_right _ (Nat.log2_self_le (by omega))
  have hless : n * 2 ^ (52 - n.log2) < 2 ^ 53 := by
    calc n * 2 ^ (52 - n.log2) < 2 ^ (n.log2 + 1) * 2 ^ (52 - n.log2) :=
          Nat.mul_lt_mul_of_pos_right Nat.lt_log2_self (by positivity)
      _ = 2 ^ 53 := by rw [← pow_add, show n.log2 + 1 + (52 - n.log2) = 53 by omega]
  exact ⟨hfull, by positivity, hless, by omega, by omega, Or.inl hfull⟩

/-- A natural number below 2^53 is kept exactly, with a full mantissa. -/
theorem round_ofNat {n : Nat} (hpos : 0 < n) (hlt : n < 2 ^ 53) :
    UnpackedFloat.ofNat Format.binary64 n =
      .finite .positive (n * 2 ^ (52 - n.log2)) ((n.log2 : Int) - 52) (by positivity) := by
  have hlog : n.log2 < 53 := (Nat.log2_lt (by omega)).mpr hlt
  have hc := (canonical_shift hpos hlt).2
  have hcmp : compare (n : Int) 0 = .gt := by
    rw [Int.compare_eq_gt]
    exact_mod_cast hpos
  have ht : Format.binary64.targetExponent (totalExponent n 0) = (n.log2 : Int) - 52 := by
    rw [targetExponent_eq, totalExponent]
    omega
  have hk : (0 - ((n.log2 : Int) - 52)).toNat = 52 - n.log2 := by omega
  simp only [UnpackedFloat.ofNat, UnpackedFloat.ofInt, UnpackedFloat.normalize, hcmp,
    UnpackedFloat.round, decreaseExponent, ht, hk, Int.toNat_natCast, Nat.shiftLeft_eq]
  have he : (0 : Int) - ((52 - n.log2 : Nat) : Int) = (n.log2 : Int) - 52 := by omega
  rw [he]
  -- The shift to full length loses no bits, so the rounding is exact.
  refine roundWithAccuracy_eq hc (near_exact _) ?_ ?_ (Or.inl hc.pos)
  · rw [sub_self, zpow_zero, mul_one]
    exact rounds_self _ _
  · rw [targetExponent_of_canonical hc]

/-- The exact value of a natural number below `2 ^ 53` as a stored number. -/
theorem unpack_toFloat {n : Nat} (hpos : 0 < n) (hlt : n < 2 ^ 53) :
    n.toUInt64.toFloat.toModel.unpack =
      .finite .positive (n * 2 ^ (52 - n.log2)) ((n.log2 : Int) - 52) (by positivity) := by
  have hn : n.toUInt64.toNat = n := by
    rw [Nat.toUInt64, UInt64.toNat_ofNat']
    exact Nat.mod_eq_of_lt (by norm_num at hlt ⊢; omega)
  have hu : n.toUInt64.toFloat.toModel =
      Float.Model.pack (UnpackedFloat.ofNat Format.binary64 n.toUInt64.toNat) := rfl
  rw [hu, hn, round_ofNat hpos hlt]
  exact unpack_pack_finite _ (canonical_shift hpos hlt).2

theorem value_toFloat {n : Nat} (hlt : n < 2 ^ 53) (hpos : 0 < n) :
    (((n * 2 ^ (52 - n.log2) : Nat) : ℚ) * 2 ^ ((n.log2 : Int) - 52)) = n := by
  have hlog : n.log2 < 53 := (Nat.log2_lt (by omega)).mpr hlt
  have he : (n.log2 : Int) - 52 = -((52 - n.log2 : Nat) : Int) := by omega
  rw [he, zpow_neg, zpow_natCast]
  push_cast
  field_simp

/-- The table of powers of ten holds the powers of ten. -/
theorem bits_power : ∀ (i : Nat) (_ : i < Float.exactlyRepresentablePowersOfTen.size),
    Float.exactlyRepresentablePowersOfTen[i].toModel.toBits.toBitVec =
      UnpackedFloat.pack Format.binary64
        (.finite .positive (5 ^ i * 2 ^ (52 - (5 ^ i).log2)) (((5 ^ i).log2 : Int) - 52 + i)
          (by positivity)) := by
  decide +kernel

theorem five_pow_lt {i : Nat} (hi : i < 23) : 5 ^ i < 2 ^ 53 := by
  calc 5 ^ i ≤ 5 ^ 22 := Nat.pow_le_pow_right (by norm_num) (by omega)
    _ < 2 ^ 53 := by norm_num

/-- Each power of ten in the table has a power of five, brought to fifty-three bits, as its
mantissa. -/
theorem unpack_power {i : Nat} (h : i < Float.exactlyRepresentablePowersOfTen.size) :
    Float.exactlyRepresentablePowersOfTen[i].toModel.unpack =
      .finite .positive (5 ^ i * 2 ^ (52 - (5 ^ i).log2)) (((5 ^ i).log2 : Int) - 52 + i)
        (by positivity) := by
  have hbits := bits_power i h
  generalize Float.exactlyRepresentablePowersOfTen[i].toModel = p at hbits ⊢
  have hi : i < 23 := h
  obtain ⟨hfull, hc⟩ := canonical_shift (n := 5 ^ i) (by positivity) (five_pow_lt hi)
  have hlog : (5 ^ i).log2 < 53 := (Nat.log2_lt (by positivity)).mpr (five_pow_lt hi)
  have hpow : Canonical (5 ^ i * 2 ^ (52 - (5 ^ i).log2)) (((5 ^ i).log2 : Int) - 52 + i) :=
    ⟨hc.pos, hc.lt, by omega, by omega, Or.inl hfull⟩
  -- The table has the bits of the power, so its number is the packed power.
  have hpack : p =
      Float.Model.pack (.finite .positive (5 ^ i * 2 ^ (52 - (5 ^ i).log2))
        (((5 ^ i).log2 : Int) - 52 + i) hpow.pos) := by
    rw [← pack_unpack p]
    simp only [Float.Model.pack, pack_unpack_bits, hbits]
  rw [hpack, unpack_pack_finite _ hpow]

theorem value_power {i : Nat} (hi : i < 23) :
    (((5 ^ i * 2 ^ (52 - (5 ^ i).log2) : Nat) : ℚ) * 2 ^ (((5 ^ i).log2 : Int) - 52 + i)) = 10 ^ i := by
  rw [zpow_add₀ (by norm_num), ← mul_assoc, value_toFloat (five_pow_lt hi) (by positivity),
    zpow_natCast]
  push_cast
  rw [← mul_pow]
  norm_num

/-! ## Decimals -/

/-- What rounds to a finite number is neither too small nor too large to be one. -/
theorem bounds_of_rounds {q : ℚ} (hc : Canonical m e) (hr : Rounds m e (q * 2 ^ (-e))) :
    (2 : ℚ) ^ (-1075 : Int) ≤ q ∧ q < 2 ^ (1024 : Int) := by
  have hlow := hc.low
  have hhigh := hc.high
  have hq : q = q * 2 ^ (-e) * 2 ^ e := by
    rw [mul_assoc, ← zpow_add₀ (by norm_num), neg_add_cancel, zpow_zero, mul_one]
  have hm : (1 : ℚ) ≤ m := by exact_mod_cast hc.pos
  have hlt : (m : ℚ) + 1 ≤ 2 ^ (53 : Int) := by exact_mod_cast hc.lt
  have hnear := nearestEven_of_rounds hr
  -- The least mantissa is one and the greatest is below `2 ^ 53`, and half a unit is the most that
  -- rounding adds or takes.
  constructor
  · calc (2 : ℚ) ^ (-1075 : Int) ≤ 2 ^ (-1 + e) := zpow_le_zpow_right₀ (by norm_num) (by omega)
      _ = 1 / 2 * 2 ^ e := by rw [zpow_add₀ (by norm_num)]; norm_num
      _ ≤ q * 2 ^ (-e) * 2 ^ e := by
          gcongr
          linarith [hnear.1]
      _ = q := hq.symm
  · calc q = q * 2 ^ (-e) * 2 ^ e := hq
      _ < 2 ^ (53 : Int) * 2 ^ e := by
          gcongr
          linarith [hnear.2.1]
      _ = 2 ^ (53 + e) := by rw [zpow_add₀ (by norm_num)]
      _ ≤ 2 ^ (1024 : Int) := zpow_le_zpow_right₀ (by norm_num) (by omega)

theorem two_zpow_le_ten_zpow {x : Int} (h : 0 ≤ x) : (2 : ℚ) ^ x ≤ 10 ^ x := by
  rcases Int.eq_ofNat_of_zero_le h with ⟨n, rfl⟩
  simp only [zpow_natCast]
  exact pow_le_pow_left₀ (by norm_num) (by norm_num) n

variable {D : Nat} {x : Int}

/-- A decimal that rounds to a double has no exponent above 2048. -/
theorem exponent_le_of_rounds (hD : 0 < D) (hc : Canonical m e)
    (hr : Rounds m e (D * 10 ^ x * 2 ^ (-e))) : x ≤ 2048 := by
  by_contra hx
  have hlt := (bounds_of_rounds hc hr).2
  have hle : (2 : ℚ) ^ (1024 : Int) ≤ D * 10 ^ x := by
    have hone : (1 : ℚ) ≤ D := by exact_mod_cast hD
    calc (2 : ℚ) ^ (1024 : Int) ≤ 2 ^ x := zpow_le_zpow_right₀ (by norm_num) (by omega)
      _ ≤ 10 ^ x := two_zpow_le_ten_zpow (by omega)
      _ ≤ D * 10 ^ x := le_mul_of_one_le_left (by positivity) hone
  linarith

/-- Nor has it one far below zero. -/
theorem le_exponent_of_rounds (hc : Canonical m e) (hr : Rounds m e (D * 10 ^ x * 2 ^ (-e))) :
    -(2048 + D.log2 : Int) ≤ x := by
  by_contra hx
  have hle := (bounds_of_rounds hc hr).1
  -- A number this small would be rounded to zero.
  have hlt : (D : ℚ) * 10 ^ x < 2 ^ (-1075 : Int) := by
    have hten : (10 : ℚ) ^ x ≤ 2 ^ x := by
      have h := two_zpow_le_ten_zpow (x := -x) (by omega)
      rw [zpow_neg, zpow_neg] at h
      exact (inv_le_inv₀ (by positivity) (by positivity)).mp h
    calc (D : ℚ) * 10 ^ x ≤ D * 2 ^ x := by gcongr
      _ < 2 ^ ((D.log2 : Int) + 1) * 2 ^ x := by
          gcongr
          exact lt_zpow_log2 D
      _ = 2 ^ ((D.log2 : Int) + 1 + x) := by rw [← zpow_add₀ (by norm_num)]
      _ ≤ 2 ^ (-1075 : Int) := zpow_le_zpow_right₀ (by norm_num) (by omega)
  linarith

/-- A decimal is read as the double that it rounds to. -/
theorem ofScientific_eq (hD : 0 < D) (hc : Canonical m e)
    (hr : Rounds m e (D * 10 ^ x * 2 ^ (-e))) :
    UnpackedFloat.ofScientific Format.binary64 D x = .finite .positive m e hc.pos := by
  have hhigh := exponent_le_of_rounds hD hc hr
  have hlow := le_exponent_of_rounds hc hr
  have hbits : (2 : Int) ^ Format.binary64.exponentBits = 2048 := by decide
  have hman : Format.binary64.mantissaBits = 53 := by decide
  rw [UnpackedFloat.ofScientific, dif_neg (by omega), if_neg (by omega), if_neg (by omega)]
  -- A power of ten is multiplied with, or divided by.
  by_cases hx : 0 ≤ x
  · rw [if_pos hx]
    rcases Int.eq_ofNat_of_zero_le hx with ⟨n, rfl⟩
    refine mul_finite_eq _ _ hc ?_ ?_
    · rw [hman, Nat.shiftLeft_eq]
      have : 2 ^ 52 ≤ D * 2 ^ 53 := by omega
      exact le_trans this (Nat.le_mul_of_pos_right _ (by positivity))
    · convert hr using 2
      simp only [hman, Nat.shiftLeft_eq, Int.toNat_natCast, zpow_natCast]
      push_cast
      rw [zpow_neg]
      norm_num
      field_simp
  · rw [if_neg hx]
    obtain ⟨n, hn⟩ : ∃ n : Nat, -x = n := ⟨_, (Int.toNat_of_nonneg (by omega)).symm⟩
    refine div_finite_eq _ _ hc (by norm_num) ?_
    convert hr using 2
    rw [hn, Int.toNat_natCast, show x = -(n : Int) by omega, zpow_neg, zpow_natCast]
    push_cast
    norm_num
    rfl

/-- Reading a decimal gives the finite number that its value rounds to. -/
theorem nearest_eq (hD : 0 < D) (hc : Canonical m e) (hr : Rounds m e (D * 10 ^ x * 2 ^ (-e))) :
    Json.Token.nearest D x = Float.ofModel (Float.Model.pack (.finite .positive m e hc.pos)) := by
  rw [Json.Token.nearest, Float.ofScientific]
  by_cases hfast : D < 2 ^ 53 ∧ x.natAbs ≤ 22
  · -- Both the digits and the power of ten are stored exactly.
    rw [dif_pos hfast]
    have hi : x.natAbs < 23 := by omega
    have hdigits := unpack_toFloat hD hfast.1
    have hpower := unpack_power (show x.natAbs < Float.exactlyRepresentablePowersOfTen.size from hi)
    have hvD := value_toFloat hfast.1 hD
    have hvP := value_power hi
    have hlogD : D.log2 < 53 := (Nat.log2_lt (by omega)).mpr hfast.1
    have hlogP : (5 ^ x.natAbs).log2 < 53 := (Nat.log2_lt (by positivity)).mpr (five_pow_lt hi)
    -- A negative power of ten divides the digits, any other multiplies them.
    by_cases hx : x < 0
    · simp only [hx, decide_true, if_true]
      refine congrArg (fun u => Float.ofModel (Float.Model.pack u)) ?_
      rw [hdigits, hpower]
      refine div_finite_eq _ _ hc (by omega) ?_
      rw [hvD, hvP]
      convert hr using 2
      rw [show x = -(x.natAbs : Int) by omega, zpow_neg, zpow_natCast, Int.natAbs_neg,
        Int.natAbs_natCast, div_eq_mul_inv]
    · simp only [hx, decide_false, Bool.false_eq_true, if_false]
      refine congrArg (fun u => Float.ofModel (Float.Model.pack u)) ?_
      rw [hdigits, hpower]
      refine mul_finite_eq _ _ hc ?_ ?_
      · have h := (canonical_shift hD hfast.1).1
        exact le_trans h (Nat.le_mul_of_pos_right _ (by positivity))
      · rw [hvD, hvP]
        convert hr using 2
        rw [← zpow_natCast, show (x.natAbs : Int) = x by omega]
  · -- Long digits or a large power of ten go through the integers.
    rw [dif_neg hfast]
    have hsign : (if decide (x < 0) = true then Int.negOfNat x.natAbs else Int.ofNat x.natAbs) =
        x := by
      rcases lt_or_ge x 0 with hx | hx
      · rw [if_pos (decide_eq_true hx), Int.negOfNat_eq, Int.ofNat_eq_natCast]
        omega
      · rw [if_neg (by simpa using hx), Int.ofNat_eq_natCast]
        omega
    simp only [hsign, Float.Model.ofScientific]
    rw [ofScientific_eq hD hc hr]

end Number
end LineRpc
