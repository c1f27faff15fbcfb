import LineRpc.Proofs.Number.Whole

/-!
# Magnitude — products of numbers that are zero, one or more

A product of two numbers is rounded once. Rounding keeps the order of numbers, it leaves natural
numbers below `2 ^ 53` as they are, and what grows too large becomes infinite. So of two products
with one factor in common, the one with the larger other factor is not the smaller one, unless it is
no number at all: that is a zero that meets an infinity.

* `RoundsTo`      : a number and what it is rounded to, without a bound
* `roundsTo_mono` : rounding keeps the order
* `roundsTo_ofNat`: natural numbers that are kept
* `Amount`        : how much a number is, if it is zero, one or more
* `amount_mul`    : a product is rounded once
* `mul_mono`      : products keep the order
-/

namespace LineRpc
namespace Number

open Float.Model Float.Model.UnpackedFloat

/-! ## Rounding without a bound -/

/-- The number `q` is rounded to `r`, the nearest of the numbers whose mantissas have fifty-three
bits. -/
def RoundsTo (q r : ℚ) : Prop :=
  ∃ (n : Nat) (u : Int), r = n * 2 ^ u ∧ 2 ^ 52 ≤ n ∧ n ≤ 2 ^ 53 ∧ NearestEven n (q * 2 ^ (-u)) ∧
    (2 : ℚ) ^ (52 + u) ≤ q ∧ q < 2 ^ (53 + u)

/-- Rounding to an integer keeps the order. -/
theorem nearestEven_mono {m n : Nat} {y z : ℚ} (hm : NearestEven m y) (hn : NearestEven n z)
    (h : y ≤ z) : m ≤ n := by
  by_contra hlt
  have hstep : (n : ℚ) + 1 ≤ m := by
    have : n + 1 ≤ m := by omega
    exact_mod_cast this
  -- Both numbers lie in the middle between two neighbours, so they are the same.
  have heq : y = z := by linarith [hm.1, hn.2.1]
  subst heq
  have := eq_of_nearestEven hm hn
  omega

/-- Rounding keeps the order. -/
theorem roundsTo_mono {q q' r r' : ℚ} (h : RoundsTo q r) (h' : RoundsTo q' r') (hle : q ≤ q') :
    r ≤ r' := by
  obtain ⟨n, u, rfl, hlow, hhigh, hnear, hleast, hless⟩ := h
  obtain ⟨n', u', rfl, hlow', hhigh', hnear', hleast', hless'⟩ := h'
  have htwo : (1 : ℚ) < 2 := by norm_num
  rcases lt_trichotomy u u' with hlt | rfl | hgt
  · -- All numbers with a smaller exponent come before those with a larger one.
    have hn : (n : ℚ) ≤ 2 ^ (53 : Int) := by exact_mod_cast hhigh
    have hn' : (2 : ℚ) ^ (52 : Int) ≤ n' := by exact_mod_cast hlow'
    calc (n : ℚ) * 2 ^ u ≤ 2 ^ (53 : Int) * 2 ^ u := by gcongr
      _ = 2 ^ (53 + u) := (zpow_add₀ (by norm_num) _ _).symm
      _ ≤ 2 ^ (52 + u') := zpow_le_zpow_right₀ htwo.le (by omega)
      _ = 2 ^ (52 : Int) * 2 ^ u' := zpow_add₀ (by norm_num) _ _
      _ ≤ n' * 2 ^ u' := by gcongr
  · have hscaled : q * 2 ^ (-u) ≤ q' * 2 ^ (-u) := by gcongr
    have hn : (n : ℚ) ≤ n' := by exact_mod_cast nearestEven_mono hnear hnear' hscaled
    gcongr
  · exfalso
    have hexponents : (2 : ℚ) ^ (53 + u') ≤ 2 ^ (52 + u) := zpow_le_zpow_right₀ htwo.le (by omega)
    linarith

/-- A number rounds to one number only. -/
theorem roundsTo_unique {q r r' : ℚ} (h : RoundsTo q r) (h' : RoundsTo q r') : r = r' :=
  le_antisymm (roundsTo_mono h h' le_rfl) (roundsTo_mono h' h le_rfl)

/-- A number whose mantissa has fifty-three bits is rounded to itself. -/
theorem roundsTo_full {n : Nat} {u : Int} (hlow : 2 ^ 52 ≤ n) (hhigh : n < 2 ^ 53) :
    RoundsTo (n * 2 ^ u) (n * 2 ^ u) := by
  have hcancel : (n : ℚ) * 2 ^ u * 2 ^ (-u) = n := by
    have hinverse : (2 : ℚ) ^ u * 2 ^ (-u) = 1 := by
      rw [zpow_neg]
      exact mul_inv_cancel₀ (by positivity)
    simp only [mul_assoc, hinverse, mul_one]
  refine ⟨n, u, rfl, hlow, hhigh.le, ?_, ?_, ?_⟩
  · simpa only [hcancel] using nearestEven_of_rounds (rounds_self n u)
  · have hn : (2 : ℚ) ^ (52 : Int) ≤ n := by exact_mod_cast hlow
    calc (2 : ℚ) ^ (52 + u) = 2 ^ (52 : Int) * 2 ^ u := zpow_add₀ (by norm_num) _ _
      _ ≤ n * 2 ^ u := by gcongr
  · have hn : (n : ℚ) < 2 ^ (53 : Int) := by exact_mod_cast hhigh
    calc (n : ℚ) * 2 ^ u < 2 ^ (53 : Int) * 2 ^ u := by gcongr
      _ = 2 ^ (53 + u) := (zpow_add₀ (by norm_num) _ _).symm

/-- Natural numbers below `2 ^ 53` are kept. -/
theorem roundsTo_ofNat {n : Nat} (hpos : 0 < n) (hlt : n < 2 ^ 53) : RoundsTo n n := by
  have hcanonical := canonical_shift hpos hlt
  have hfull := roundsTo_full (u := (n.log2 : Int) - 52) hcanonical.1 hcanonical.2.lt
  simpa only [value_toFloat hlt hpos] using hfull

theorem roundsTo_bound : RoundsTo (2 ^ 53) (2 ^ 53) := by
  have hfull := roundsTo_full (n := 2 ^ 52) (u := 1) le_rfl (by norm_num)
  have hvalue : (((2 ^ 52 : Nat) : ℚ) * 2 ^ (1 : Int)) = 2 ^ 53 := by norm_num
  simpa only [hvalue] using hfull

/-! ## The rounding of the model -/

theorem shiftToTargetExponent_full {m : Nat} {u : Int} (hlow : 2 ^ 52 ≤ m) (hhigh : m < 2 ^ 53)
    (hu : -1074 ≤ u) :
    shiftToTargetExponent Format.binary64 m u .exact = (⟨m, false, false⟩, u) := by
  have ht : Format.binary64.targetExponent (totalExponent m u) = u := by
    rw [targetExponent_eq, totalExponent, log2_of_full hlow hhigh]
    omega
  simp only [shiftToTargetExponent, shiftToExponent, ht, sub_self]
  exact congrArg _ (add_zero u)

/-- Rounding leaves a mantissa of full length, or the next power of two. -/
theorem length_of_nearestEven {n : Nat} {y : ℚ} (h : NearestEven n y) (hlow : (2 : ℚ) ^ 52 ≤ y)
    (hhigh : y < 2 ^ 53) : 2 ^ 52 ≤ n ∧ n ≤ 2 ^ 53 := by
  constructor
  · have : (2 : ℚ) ^ 52 < n + 1 := by linarith [h.2.1]
    have : 2 ^ 52 < n + 1 := by exact_mod_cast this
    omega
  · have : (n : ℚ) < 2 ^ 53 + 1 := by linarith [h.1]
    have : n < 2 ^ 53 + 1 := by exact_mod_cast this
    omega

/-- The numbers that an exponent is right for are those with so many bits before the point. -/
theorem bounds_of_log2 {M k : Nat} {E : Int} (hM : 0 < M) (hk : M.log2 = 52 + k) :
    (2 : ℚ) ^ (52 + (E + k)) ≤ M * 2 ^ E ∧ (M : ℚ) * 2 ^ E < 2 ^ (53 + (E + k)) := by
  have hlow := zpow_log2_le hM
  have hhigh := lt_zpow_log2 M
  constructor
  · calc (2 : ℚ) ^ (52 + (E + k)) = 2 ^ ((M.log2 : Int)) * 2 ^ E := by
          rw [← zpow_add₀ (by norm_num)]
          congr 1
          omega
      _ ≤ M * 2 ^ E := by gcongr
  · calc (M : ℚ) * 2 ^ E < 2 ^ ((M.log2 : Int) + 1) * 2 ^ E := by gcongr
      _ = 2 ^ (53 + (E + k)) := by
          rw [← zpow_add₀ (by norm_num)]
          congr 1
          omega

/-- The first shift takes a long mantissa to full length. -/
theorem shiftToTargetExponent_long {M k : Nat} {E : Int} (hk : M.log2 = 52 + k)
    (hexponent : -53 < E + k) :
    shiftToTargetExponent Format.binary64 M E .exact =
      (ExtendedMantissa.ofMantissaAndAccuracy M .exact >>> k, E + k) := by
  have ht : Format.binary64.targetExponent (totalExponent M E) = E + k := by
    rw [targetExponent_eq, totalExponent, hk]
    omega
  have hamount : (E + k - E).toNat = k := by omega
  simp only [shiftToTargetExponent, shiftToExponent, ht, hamount]

/-- What is rounded after the first shift is the nearest mantissa. It has full length or is the next
power of two. -/
theorem roundsTo_shifted {M k R : Nat} {E : Int} (hM : 2 ^ 52 ≤ M) (hk : M.log2 = 52 + k)
    (hR : (ExtendedMantissa.ofMantissaAndAccuracy M .exact >>> k).roundedMantissa = R) :
    RoundsTo (M * 2 ^ E) (R * 2 ^ (E + k)) ∧ 2 ^ 52 ≤ R ∧ R ≤ 2 ^ 53 := by
  obtain ⟨hleast, hless⟩ := bounds_of_log2 (E := E) (by omega) hk
  have hscaled : (M : ℚ) / 2 ^ k = M * 2 ^ E * 2 ^ (-(E + k)) := by
    rw [mul_assoc, ← zpow_add₀ (by norm_num), show E + -(E + (k : Int)) = -(k : Int) by ring,
      zpow_neg, zpow_natCast, div_eq_mul_inv]
  have hnear : NearestEven R (M / 2 ^ k) := by
    simpa only [hR] using nearestEven_of_near (near_shiftRight (near_exact M) k)
  -- The shifted mantissa has 53 bits, so rounding can carry it to the next length but no farther.
  have hlow : (2 : ℚ) ^ 52 ≤ M / 2 ^ k := by
    have : 2 ^ (52 + k) ≤ M := hk ▸ Nat.log2_self_le (by omega)
    rw [le_div_iff₀ (by positivity), ← pow_add]
    exact_mod_cast this
  have hhigh : (M : ℚ) / 2 ^ k < 2 ^ 53 := by
    have : M < 2 ^ (52 + k + 1) := hk ▸ Nat.lt_log2_self
    rw [div_lt_iff₀ (by positivity), ← pow_add, show 53 + k = 52 + k + 1 by omega]
    exact_mod_cast this
  have hlength := length_of_nearestEven hnear hlow hhigh
  exact ⟨⟨R, E + k, rfl, hlength.1, hlength.2, hscaled ▸ hnear, hleast, hless⟩, hlength⟩

/-- A long mantissa that stands for one or more is rounded to full length, however large it is. -/
theorem roundWithAccuracy_long {s : Sign} {M : Nat} {E : Int} (hM : 2 ^ 52 ≤ M)
    (hone : (1 : ℚ) ≤ M * 2 ^ E) :
    ∃ (m : Nat) (e : Int) (hp : 0 < m), 2 ^ 52 ≤ m ∧ m < 2 ^ 53 ∧ -1074 ≤ e ∧
      roundWithAccuracy Format.binary64 s M E .exact = .finite s m e hp ∧
      RoundsTo (M * 2 ^ E) (m * 2 ^ e) := by
  have hlog : 52 ≤ M.log2 := (Nat.le_log2 (by omega)).mpr hM
  obtain ⟨k, hk⟩ : ∃ k, M.log2 = 52 + k := Nat.exists_eq_add_of_le hlog
  -- One is below the next power of two, so the exponent is not too small.
  have hexponent : -53 < E + k := by
    have hless := (bounds_of_log2 (E := E) (by omega : 0 < M) hk).2
    have : (2 : ℚ) ^ (0 : Int) < 2 ^ (53 + (E + k)) := by simpa using lt_of_le_of_lt hone hless
    have := (zpow_lt_zpow_iff_right₀ (by norm_num : (1 : ℚ) < 2)).mp this
    omega
  have hshift := shiftToTargetExponent_long hk hexponent
  generalize hR : (ExtendedMantissa.ofMantissaAndAccuracy M .exact >>> k).roundedMantissa = R
  obtain ⟨hrounds, hlow, hhigh⟩ := roundsTo_shifted (E := E) hM hk hR
  rcases hhigh.lt_or_eq with hlt | rfl
  · -- The mantissa has its length, and the second shift has nothing to do.
    have hR₀ : 0 < R := by omega
    have hfull := shiftToTargetExponent_full hlow hlt (by omega : -1074 ≤ E + k)
    refine ⟨R, E + k, hR₀, hlow, hlt, by omega, ?_, hrounds⟩
    simp only [roundWithAccuracy, hshift, hR, hfull]
    rw [dif_neg (by omega)]
  · -- Rounding has carried into the next bit, which the second shift takes up.
    refine ⟨2 ^ 52, E + k + 1, by norm_num, le_rfl, by norm_num, by omega, ?_, ?_⟩
    · have hcarry : shiftToTargetExponent Format.binary64 (2 ^ 53) (E + k) .exact =
          (⟨2 ^ 52, false, false⟩, E + k + 1) := by
        simpa using shiftToTargetExponent_carry (e := E + k + 1) (by omega)
      simp only [roundWithAccuracy, hshift, hR, hcarry]
      rw [dif_neg (by norm_num)]
    · have hvalue : (((2 ^ 52 : Nat) : ℚ) * 2 ^ (E + k + 1)) = (2 ^ 53 : Nat) * 2 ^ (E + k) := by
        rw [zpow_add₀ (by norm_num)]
        norm_num
        ring
      simpa only [hvalue] using hrounds

/-! ## Amounts -/

/-- How much a number is, if it is zero, or one or more. -/
inductive Amount (x : Float) : WithTop ℚ → Prop
  | zero {s : Sign} (unpack : x.toModel.unpack = .zero s) : Amount x 0
  | finite {m : Nat} {e : Int} {hp : 0 < m} (unpack : x.toModel.unpack = .finite .positive m e hp)
      (one : (1 : ℚ) ≤ m * 2 ^ e) : Amount x ((m * 2 ^ e : ℚ) : WithTop ℚ)
  | infinite (unpack : x.toModel.unpack = .infinity .positive) : Amount x ⊤

/-- What is too large is infinite. -/
def bounded (r : ℚ) : WithTop ℚ :=
  if r < 2 ^ 1024 then r else ⊤

theorem bounded_mono {r r' : ℚ} (h : r ≤ r') : bounded r ≤ bounded r' := by
  by_cases hr' : r' < 2 ^ 1024
  · have hr : r < 2 ^ 1024 := lt_of_le_of_lt h hr'
    simpa [bounded, hr, hr'] using h
  · simp [bounded, hr']

theorem unpack_pack_infinity (s : Sign) :
    (Float.Model.pack (.infinity s)).unpack = .infinity s := by
  cases s <;> rfl

/-- An exponent that is too large makes an infinity. -/
theorem pack_overflow {s : Sign} {m : Nat} {e : Int} (hp : 0 < m) (he : 971 < e) :
    Float.Model.pack (.finite s m e hp) = Float.Model.pack (.infinity s) := by
  have hbits : UnpackedFloat.pack Format.binary64 (.finite s m e hp) =
      UnpackedFloat.pack Format.binary64 (.infinity s) := by
    have hbias : Format.binary64.exponentBias = 1023 := by decide
    have hexponent : 2 ^ Format.binary64.exponentBits ≤
        (e + (Format.binary64.exponentBias : Nat) + (52 : Nat)).toNat + 1 := by
      have : 2 ^ Format.binary64.exponentBits = 2048 := by decide
      omega
    simp only [UnpackedFloat.pack, if_pos hexponent]
  simp only [Float.Model.pack, hbits]

/-- A finite number that is one or more has a mantissa of full length. -/
theorem full_of_one_le {m : Nat} {e : Int} (hc : Canonical m e) (hone : (1 : ℚ) ≤ m * 2 ^ e) :
    2 ^ 52 ≤ m := by
  rcases hc.full with hfull | rfl
  · exact hfull
  · exfalso
    have hm : (m : ℚ) < 2 ^ (53 : Int) := by exact_mod_cast hc.lt
    have : (m : ℚ) * 2 ^ (-1074 : Int) < 1 := by
      calc (m : ℚ) * 2 ^ (-1074 : Int) < 2 ^ (53 : Int) * 2 ^ (-1074 : Int) := by gcongr
        _ = 2 ^ (53 + -1074 : Int) := (zpow_add₀ (by norm_num) _ _).symm
        _ ≤ 1 := zpow_le_one_of_nonpos₀ (by norm_num) (by norm_num)
    linarith

/-- What is rounded to full length is stored, or it is infinite. -/
theorem amount_pack {m : Nat} {e : Int} {hp : 0 < m} (hlow : 2 ^ 52 ≤ m) (hhigh : m < 2 ^ 53)
    (he : -1074 ≤ e) (hone : (1 : ℚ) ≤ m * 2 ^ e) :
    Amount (Float.ofModel (Float.Model.pack (.finite .positive m e hp))) (bounded (m * 2 ^ e)) := by
  have hm : (2 : ℚ) ^ (52 : Int) ≤ m := by exact_mod_cast hlow
  have hm' : (m : ℚ) < 2 ^ (53 : Int) := by exact_mod_cast hhigh
  -- The largest exponent of a finite number is 971.
  by_cases hbound : e ≤ 971
  · have hc : Canonical m e := ⟨hp, hhigh, he, hbound, .inl hlow⟩
    have hsmall : (m : ℚ) * 2 ^ e < 2 ^ 1024 := by
      calc (m : ℚ) * 2 ^ e < 2 ^ (53 : Int) * 2 ^ e := by gcongr
        _ = 2 ^ (53 + e) := (zpow_add₀ (by norm_num) _ _).symm
        _ ≤ 2 ^ (1024 : Int) := zpow_le_zpow_right₀ (by norm_num) (by omega)
        _ = 2 ^ 1024 := zpow_natCast _ _
    have hunpack : (Float.ofModel (Float.Model.pack (.finite .positive m e hp))).toModel.unpack =
        .finite .positive m e hp := unpack_pack_finite hp hc
    simpa only [bounded, if_pos hsmall] using Amount.finite hunpack hone
  · have hlarge : ¬ (m : ℚ) * 2 ^ e < 2 ^ 1024 := by
      refine not_lt.mpr ?_
      calc (2 : ℚ) ^ 1024 = 2 ^ (1024 : Int) := (zpow_natCast _ _).symm
        _ ≤ 2 ^ (52 + e) := zpow_le_zpow_right₀ (by norm_num) (by omega)
        _ = 2 ^ (52 : Int) * 2 ^ e := zpow_add₀ (by norm_num) _ _
        _ ≤ m * 2 ^ e := by gcongr
    have hunpack : (Float.ofModel (Float.Model.pack (.finite .positive m e hp))).toModel.unpack =
        .infinity .positive := by
      simpa only [pack_overflow hp (not_le.mp hbound)] using unpack_pack_infinity .positive
    simpa only [bounded, if_neg hlarge] using Amount.infinite hunpack

variable {x y d : Float}

/-- A number is zero, or one or more and finite, or infinite. -/
theorem amount_cases {v : WithTop ℚ} (h : Amount x v) :
    (v = 0 ∧ ∃ s, x.toModel.unpack = .zero s) ∨
      (∃ (m : Nat) (e : Int) (hp : 0 < m), x.toModel.unpack = .finite .positive m e hp ∧
        v = ((m * 2 ^ e : ℚ) : WithTop ℚ) ∧ (1 : ℚ) ≤ m * 2 ^ e) ∨
      v = ⊤ ∧ x.toModel.unpack = .infinity .positive := by
  cases h with
  | zero unpack =>
      exact .inl ⟨rfl, _, unpack⟩
  | finite unpack one =>
      exact .inr (.inl ⟨_, _, _, unpack, rfl, one⟩)
  | infinite unpack =>
      exact .inr (.inr ⟨rfl, unpack⟩)

/-- A double has one amount. -/
theorem amount_unique {v v' : WithTop ℚ} (h : Amount x v) (h' : Amount x v') : v = v' := by
  -- A zero, a finite number and infinity are unpacked to different forms.
  rcases amount_cases h with ⟨rfl, s, hs⟩ | ⟨m, e, hp, hm, rfl, -⟩ | ⟨rfl, hinf⟩
  · rcases amount_cases h' with ⟨rfl, -⟩ | ⟨m', e', hp', hm', -, -⟩ | ⟨-, hinf'⟩
    · rfl
    · cases hs.symm.trans hm'
    · cases hs.symm.trans hinf'
  · rcases amount_cases h' with ⟨-, s', hs'⟩ | ⟨m', e', hp', hm', rfl, -⟩ | ⟨-, hinf'⟩
    · cases hm.symm.trans hs'
    · cases hm.symm.trans hm'
      rfl
    · cases hm.symm.trans hinf'
  · rcases amount_cases h' with ⟨-, s', hs'⟩ | ⟨m', e', hp', hm', -, -⟩ | ⟨rfl, -⟩
    · cases hinf.symm.trans hs'
    · cases hinf.symm.trans hm'
    · rfl

theorem not_isNaN_of_amount {v : WithTop ℚ} (h : Amount x v) : ¬ x.isNaN = true := by
  change ¬ x.toModel.unpack.isNaN = true
  rcases amount_cases h with ⟨-, s, hs⟩ | ⟨m, e, hp, hm, -, -⟩ | ⟨-, hinf⟩
  · simp [hs, UnpackedFloat.isNaN]
  · simp [hm, UnpackedFloat.isNaN]
  · simp [hinf, UnpackedFloat.isNaN]

/-- An amount from one on has a full mantissa. -/
theorem amount_parts {v : ℚ} (h : Amount x v) (hv : 1 ≤ v) :
    ∃ (m : Nat) (e : Int) (hp : 0 < m), x.toModel.unpack = .finite .positive m e hp ∧
      v = m * 2 ^ e ∧ 2 ^ 52 ≤ m := by
  rcases amount_cases h with ⟨hzero, -⟩ | ⟨m, e, hp, hunpack, hvalue, hone⟩ | ⟨htop, -⟩
  · have : v = 0 := by exact_mod_cast hzero
    linarith
  · have hv' : v = m * 2 ^ e := by exact_mod_cast hvalue
    exact ⟨m, e, hp, hunpack, hv', full_of_one_le (canonical_of_unpack hunpack) hone⟩
  · exact absurd htop WithTop.coe_ne_top

/-- A product of numbers that are one or more is rounded once, and what is too large is infinite. -/
theorem amount_mul {v w : ℚ} (hx : Amount x v) (hy : Amount y w) (hv : 1 ≤ v) (hw : 1 ≤ w) :
    ∃ r, RoundsTo (v * w) r ∧ Amount (x * y) (bounded r) := by
  obtain ⟨m₁, e₁, h₁, hunpack₁, rfl, hfull₁⟩ := amount_parts hx hv
  obtain ⟨m₂, e₂, h₂, hunpack₂, rfl, hfull₂⟩ := amount_parts hy hw
  have hvalue : ((m₁ * m₂ : Nat) : ℚ) * 2 ^ (e₁ + e₂) = m₁ * 2 ^ e₁ * (m₂ * 2 ^ e₂) := by
    rw [zpow_add₀ (by norm_num)]
    push_cast
    ring
  have hone : (1 : ℚ) ≤ ((m₁ * m₂ : Nat) : ℚ) * 2 ^ (e₁ + e₂) := by
    rw [hvalue]
    exact one_le_mul_of_one_le_of_one_le hv hw
  have hlong : 2 ^ 52 ≤ m₁ * m₂ := le_trans hfull₁ (Nat.le_mul_of_pos_right m₁ h₂)
  obtain ⟨m, e, hp, hlow, hhigh, he, hround, hrounds⟩ :=
    roundWithAccuracy_long (s := .positive) hlong hone
  have hproduct : x * y = Float.ofModel (Float.Model.pack (.finite .positive m e hp)) := by
    rw [mul_eq, hunpack₁, hunpack₂, ← hround]
    rfl
  rw [hvalue] at hrounds
  -- One is kept, so what is not less than one is not rounded below it.
  have hleast : (1 : ℚ) ≤ m * 2 ^ e := by
    have hkept : RoundsTo 1 1 := by exact_mod_cast roundsTo_ofNat (n := 1) (by norm_num) (by norm_num)
    exact roundsTo_mono hkept hrounds (one_le_mul_of_one_le_of_one_le hv hw)
  exact ⟨m * 2 ^ e, hrounds, hproduct ▸ amount_pack hlow hhigh he hleast⟩

/-- A product with NaN is NaN. -/
theorem isNaN_mul (h : x.isNaN = true) (y : Float) : (x * y).isNaN = true := by
  have hx : x.toModel.unpack = .notANumber := by
    change x.toModel.unpack.isNaN = true at h
    cases hu : x.toModel.unpack <;> simp [hu, UnpackedFloat.isNaN] at h ⊢
  have hproduct : x * y = Float.ofModel (Float.Model.pack .notANumber) := by
    rw [mul_eq, hx]
    rfl
  rw [hproduct]
  rfl

theorem amount_of_mul_zero {s : Sign}
    (h : UnpackedFloat.mul Format.binary64 x.toModel.unpack y.toModel.unpack = .zero s) :
    Amount (x * y) 0 := by
  have hproduct : (x * y).toModel.unpack = .zero s := by
    rw [mul_eq, h]
    cases s <;> rfl
  exact .zero hproduct

/-- A finite number times zero is zero. -/
theorem amount_mul_zero {v w : ℚ} (hx : Amount x v) (hy : Amount y w) (h : v = 0 ∨ w = 0) :
    Amount (x * y) 0 := by
  rcases amount_cases hx with ⟨-, s, hs⟩ | ⟨m, e, hp, hm, hv, hone⟩ | ⟨htop, -⟩
  · rcases amount_cases hy with ⟨-, t, ht⟩ | ⟨m', e', hp', hm', -⟩ | ⟨htop, -⟩
    · exact amount_of_mul_zero (by rw [hs, ht]; rfl)
    · exact amount_of_mul_zero (by rw [hs, hm']; rfl)
    · exact absurd htop WithTop.coe_ne_top
  · -- The first factor is one or more, so it is the second one that is zero.
    have hw : w = 0 := by
      refine h.resolve_left ?_
      rintro rfl
      have : (0 : ℚ) = m * 2 ^ e := by exact_mod_cast hv
      linarith
    subst hw
    rcases amount_cases hy with ⟨-, t, ht⟩ | ⟨m', e', hp', hm', hv', hone'⟩ | ⟨htop, -⟩
    · exact amount_of_mul_zero (by rw [hm, ht]; rfl)
    · have : (0 : ℚ) = m' * 2 ^ e' := by exact_mod_cast hv'
      linarith
    · exact absurd htop WithTop.coe_ne_top
  · exact absurd htop WithTop.coe_ne_top

/-- An infinity times zero is no number, and times any other finite number it is an infinity. -/
theorem amount_infinity_mul {w : ℚ} (hx : Amount x ⊤) (hy : Amount y w) :
    (w = 0 ∧ (x * y).isNaN = true) ∨ (1 ≤ w ∧ Amount (x * y) ⊤) := by
  have hinf : x.toModel.unpack = .infinity .positive := by
    rcases amount_cases hx with ⟨hzero, -⟩ | ⟨m, e, hp, -, hv, -⟩ | ⟨-, hinf⟩
    · exact absurd hzero WithTop.top_ne_zero
    · exact absurd hv.symm WithTop.coe_ne_top
    · exact hinf
  rcases amount_cases hy with ⟨hw, s, hs⟩ | ⟨m, e, hp, hm, hv, hone⟩ | ⟨htop, -⟩
  · refine .inl ⟨by exact_mod_cast hw, ?_⟩
    rw [mul_eq, hinf, hs]
    cases s <;> rfl
  · refine .inr ⟨?_, .infinite ?_⟩
    · have : w = m * 2 ^ e := by exact_mod_cast hv
      linarith
    · rw [mul_eq, hinf, hm]
      exact unpack_pack_infinity .positive
  · exact absurd htop WithTop.coe_ne_top

/-- An amount is zero, or one or more. -/
theorem eq_zero_or_one_le {v : ℚ} (h : Amount x v) : v = 0 ∨ 1 ≤ v := by
  rcases amount_cases h with ⟨hzero, -⟩ | ⟨m, e, -, -, hv, hone⟩ | ⟨htop, -⟩
  · exact .inl (by exact_mod_cast hzero)
  · have : v = m * 2 ^ e := by exact_mod_cast hv
    exact .inr (by linarith)
  · exact absurd htop WithTop.coe_ne_top

theorem amount_nonneg {v : WithTop ℚ} (h : Amount x v) : 0 ≤ v := by
  cases v with
  | top =>
      exact le_top
  | coe v =>
      have hv : (0 : ℚ) ≤ v := by
        rcases eq_zero_or_one_le h with rfl | hone <;> linarith
      exact_mod_cast hv

/-- A factor that is finite and one or more makes a product. -/
theorem exists_amount_mul {v : WithTop ℚ} {w : ℚ} (hx : Amount x v) (hd : Amount d w) (hw : 1 ≤ w) :
    ∃ t, Amount (x * d) t := by
  cases v with
  | top =>
      rcases amount_infinity_mul hx hd with ⟨rfl, -⟩ | ⟨-, hproduct⟩
      · norm_num at hw
      · exact ⟨⊤, hproduct⟩
  | coe v =>
      rcases eq_zero_or_one_le hx with hzero | hone
      · exact ⟨0, amount_mul_zero hx hd (.inl hzero)⟩
      · obtain ⟨r, -, hproduct⟩ := amount_mul hx hd hone hw
        exact ⟨bounded r, hproduct⟩

/-- Products with a common factor keep the order of the other factors, unless the larger product is
no number. -/
theorem mul_mono {v v' : WithTop ℚ} {w : ℚ} (hx : Amount x v) (hy : Amount y v') (hle : v ≤ v')
    (hd : Amount d w) :
    (y * d).isNaN = true ∨ ∃ t t', Amount (x * d) t ∧ Amount (y * d) t' ∧ t ≤ t' := by
  cases v' with
  | top =>
      rcases amount_infinity_mul hy hd with ⟨-, hnan⟩ | ⟨hw, hproduct⟩
      · exact .inl hnan
      · obtain ⟨t, ht⟩ := exists_amount_mul hx hd hw
        exact .inr ⟨t, ⊤, ht, hproduct, le_top⟩
  | coe v' =>
      cases v with
      | top =>
          exact absurd (top_le_iff.mp hle) WithTop.coe_ne_top
      | coe v =>
          have hle : v ≤ v' := by exact_mod_cast hle
          right
          rcases eq_zero_or_one_le hd with hw | hw
          · exact ⟨0, 0, amount_mul_zero hx hd (.inr hw), amount_mul_zero hy hd (.inr hw), le_rfl⟩
          rcases eq_zero_or_one_le hx with hv | hv
          · obtain ⟨t', ht'⟩ := exists_amount_mul hy hd hw
            exact ⟨0, t', amount_mul_zero hx hd (.inl hv), ht', amount_nonneg ht'⟩
          · -- Both products are rounded, and rounding keeps the order.
            obtain ⟨r, hr, hxd⟩ := amount_mul hx hd hv hw
            obtain ⟨r', hr', hyd⟩ := amount_mul hy hd (le_trans hv hle) hw
            have hfactor : v * w ≤ v' * w := by gcongr
            exact ⟨_, _, hxd, hyd, bounded_mono (roundsTo_mono hr hr' hfactor)⟩

/-! ## Natural numbers -/

/-- What a number is that stands for a natural number `p`: the number itself while it is small, and
then no less than `2 ^ 53`. -/
def Tracks (v : WithTop ℚ) (p : Nat) : Prop :=
  (p < 2 ^ 53 → v = (p : ℚ)) ∧ (2 ^ 53 ≤ p → ((2 ^ 53 : ℚ) : WithTop ℚ) ≤ v)

theorem bounded_of_lt {r : ℚ} (h : r ≤ 2 ^ 53) : bounded r = r := by
  have : r < 2 ^ 1024 := lt_of_le_of_lt h (pow_lt_pow_right₀ (by norm_num) (by norm_num))
  simp only [bounded, if_pos this]

theorem tracks_zero : Tracks 0 0 :=
  ⟨fun _ => by norm_num, fun h => absurd h (by norm_num)⟩

/-- What is zero stands for zero. -/
theorem eq_zero_of_tracks {p : Nat} (h : Tracks 0 p) : p = 0 := by
  rcases lt_or_ge p (2 ^ 53) with hp | hp
  · have : (0 : ℚ) = p := by exact_mod_cast h.1 hp
    exact_mod_cast this.symm
  · have : (2 ^ 53 : ℚ) ≤ 0 := by exact_mod_cast h.2 hp
    norm_num at this

/-- Infinity tracks whatever has reached 2^53. -/
theorem tracks_infinity {p : Nat} : Tracks ⊤ p ↔ 2 ^ 53 ≤ p := by
  constructor
  · intro h
    by_contra hp
    exact absurd (h.1 (not_le.mp hp)).symm WithTop.coe_ne_top
  · intro hp
    exact ⟨fun h => absurd hp (not_le.mpr h), fun _ => le_top⟩

/-- What is small stands for the same natural number. -/
theorem eq_of_tracks {v : WithTop ℚ} {p n : Nat} (h : Tracks v p) (hn : n < 2 ^ 53)
    (hv : v ≤ (n : ℚ)) : p < 2 ^ 53 ∧ v = (p : ℚ) := by
  rcases lt_or_ge p (2 ^ 53) with hp | hp
  · exact ⟨hp, h.1 hp⟩
  · have hle : (2 ^ 53 : ℚ) ≤ n := by exact_mod_cast le_trans (h.2 hp) hv
    have : 2 ^ 53 ≤ n := by exact_mod_cast hle
    omega

/-- A rounded product stands for the exact product. -/
theorem tracks_bounded {v r : ℚ} {p k : Nat} (hv : Tracks v p) (hone : 1 ≤ v) (hk : 1 ≤ k)
    (hr : RoundsTo (v * k) r) : Tracks (bounded r) (p * k) := by
  constructor
  · intro hsmall
    -- A factor of a product below the bound is below it, so neither number has been rounded.
    have hp : p < 2 ^ 53 := lt_of_le_of_lt (Nat.le_mul_of_pos_right p hk) hsmall
    have hvp : v = p := by exact_mod_cast hv.1 hp
    have hpos : 0 < p := by
      have : (1 : ℚ) ≤ p := hvp ▸ hone
      exact_mod_cast this
    have hkept : RoundsTo (v * k) (p * k : Nat) := by
      have hexact := roundsTo_ofNat (Nat.mul_pos hpos hk) hsmall
      simpa [hvp] using hexact
    have hvalue : r = (p * k : Nat) := roundsTo_unique hr hkept
    have hbound : r ≤ 2 ^ 53 := by
      rw [hvalue]
      exact_mod_cast hsmall.le
    rw [bounded_of_lt hbound, hvalue]
  · intro hlarge
    have hfactor : (2 ^ 53 : ℚ) ≤ v * k := by
      have hkq : (1 : ℚ) ≤ k := by exact_mod_cast hk
      rcases lt_or_ge p (2 ^ 53) with hp | hp
      · have hvp : v = p := by exact_mod_cast hv.1 hp
        rw [hvp]
        exact_mod_cast hlarge
      · have hv' : (2 ^ 53 : ℚ) ≤ v := by exact_mod_cast hv.2 hp
        nlinarith
    -- Rounding is monotone and keeps the bound itself.
    have hrounded := bounded_mono (roundsTo_mono roundsTo_bound hr hfactor)
    simpa only [bounded_of_lt le_rfl] using hrounded

theorem tracks_self (p : Nat) : Tracks (p : ℚ) p :=
  ⟨fun _ => rfl, fun h => by exact_mod_cast h⟩

/-- One more factor: the product is NaN, or goes on tracking. -/
theorem tracks_mul {v : WithTop ℚ} {p k : Nat} (hx : Amount x v) (hv : Tracks v p)
    (hd : Amount d (k : ℚ)) :
    (x * d).isNaN = true ∨ ∃ t, Amount (x * d) t ∧ Tracks t (p * k) := by
  -- Only infinity times zero is not a number.
  cases v with
  | top =>
      rcases amount_infinity_mul hx hd with ⟨-, hnan⟩ | ⟨hk, hproduct⟩
      · exact .inl hnan
      · have hk : 1 ≤ k := by exact_mod_cast hk
        have hp := tracks_infinity.mp hv
        exact .inr ⟨⊤, hproduct, tracks_infinity.mpr (le_trans hp (Nat.le_mul_of_pos_right p hk))⟩
  | coe v =>
      right
      rcases eq_zero_or_one_le hx with rfl | hone
      · have hp := eq_zero_of_tracks hv
        exact ⟨0, amount_mul_zero hx hd (.inl rfl), by simpa [hp] using tracks_zero⟩
      rcases eq_zero_or_one_le hd with hk | hk
      · have hk' : k = 0 := by exact_mod_cast hk
        exact ⟨0, amount_mul_zero hx hd (.inr hk), by simpa [hk'] using tracks_zero⟩
      · obtain ⟨r, hr, hproduct⟩ := amount_mul hx hd hone hk
        exact ⟨bounded r, hproduct, tracks_bounded hv hone (by exact_mod_cast hk) hr⟩

/-- Natural numbers are multiplied exactly if their product is kept. -/
theorem amount_mul_kept {p k : Nat} (hx : Amount x (p : ℚ)) (hd : Amount d (k : ℚ))
    (h : p * k < 2 ^ 53) : Amount (x * d) ((p * k : Nat) : ℚ) := by
  rcases eq_zero_or_one_le hd with hk | hk
  · have hk' : k = 0 := by exact_mod_cast hk
    simpa [hk'] using amount_mul_zero hx hd (.inr hk)
  · obtain ⟨t, ht⟩ := exists_amount_mul hx hd hk
    rcases tracks_mul hx (tracks_self p) hd with hnan | ⟨t', ht', htracks⟩
    · exact absurd hnan (not_isNaN_of_amount ht)
    · exact htracks.1 h ▸ ht'

/-- The amount of a natural number that is kept. -/
theorem amount_ofNat {n : Nat} (h : n < 2 ^ 53) : Amount (Float.ofNat n) (n : ℚ) := by
  rcases Nat.eq_zero_or_pos n with rfl | hpos
  · have hzero : (Float.ofNat 0).toModel.unpack = .zero .positive := unpack_zero
    simpa using Amount.zero hzero
  · have hvalue := value_toFloat h hpos
    have hone : (1 : ℚ) ≤ n := by exact_mod_cast hpos
    simpa only [hvalue] using Amount.finite (unpack_ofNat hpos h) (hvalue ▸ hone)

/-- Mantissas of full length and their exponents are determined by the number. -/
theorem exponent_le_of_full {m n : Nat} {e u : Int} (hm : m < 2 ^ 53) (hn : 2 ^ 52 ≤ n)
    (h : (n : ℚ) * 2 ^ u ≤ m * 2 ^ e) : u ≤ e := by
  have hn' : (2 : ℚ) ^ (52 : Int) ≤ n := by exact_mod_cast hn
  have hm' : (m : ℚ) < 2 ^ (53 : Int) := by exact_mod_cast hm
  have hlt : (2 : ℚ) ^ (52 + u) < 2 ^ (53 + e) := by
    calc (2 : ℚ) ^ (52 + u) = 2 ^ (52 : Int) * 2 ^ u := zpow_add₀ (by norm_num) _ _
      _ ≤ n * 2 ^ u := by gcongr
      _ ≤ m * 2 ^ e := h
      _ < 2 ^ (53 : Int) * 2 ^ e := by gcongr
      _ = 2 ^ (53 + e) := (zpow_add₀ (by norm_num) _ _).symm
  have := (zpow_lt_zpow_iff_right₀ (by norm_num : (1 : ℚ) < 2)).mp hlt
  omega

/-- Full mantissas with one value have one exponent. -/
theorem parts_of_full {m n : Nat} {e u : Int} (hm : 2 ^ 52 ≤ m) (hm' : m < 2 ^ 53)
    (hn : 2 ^ 52 ≤ n) (hn' : n < 2 ^ 53) (h : (m : ℚ) * 2 ^ e = n * 2 ^ u) : e = u ∧ m = n := by
  have he : e = u := le_antisymm (exponent_le_of_full hn' hm h.le) (exponent_le_of_full hm' hn h.ge)
  subst he
  have : (m : ℚ) = n := mul_right_cancel₀ (by positivity) h
  exact ⟨rfl, by exact_mod_cast this⟩

/-- Whether two numbers are equal does not depend on their order. -/
theorem beq_comm (x y : Float) : (x == y) = (y == x) := by
  change (x.toModel.unpack.compare y.toModel.unpack == some .eq) =
    (y.toModel.unpack.compare x.toModel.unpack == some .eq)
  cases x.toModel.unpack with
  | finite s m e hm =>
      cases y.toModel.unpack with
      | finite t n u hn =>
          -- Exponents and mantissas are compared, and both are equal or not in either order.
          cases s <;> cases t <;> simp [UnpackedFloat.compare, eq_comm (a := u), eq_comm (a := n)]
      | infinity t =>
          cases s <;> cases t <;> simp [UnpackedFloat.compare]
      | zero t =>
          cases s <;> cases t <;> simp [UnpackedFloat.compare]
      | notANumber =>
          cases s <;> simp [UnpackedFloat.compare]
  | infinity s =>
      rcases y.toModel.unpack with (_ | _) | _ | (_ | _) | ⟨_ | _, n, u, hn⟩ <;> cases s <;> rfl
  | zero s =>
      rcases y.toModel.unpack with (_ | _) | _ | (_ | _) | ⟨_ | _, n, u, hn⟩ <;> cases s <;> rfl
  | notANumber =>
      rcases y.toModel.unpack with (_ | _) | _ | (_ | _) | ⟨_ | _, n, u, hn⟩ <;> rfl

/-- A number is equal to a natural number that is kept exactly if it is as much. -/
theorem beq_ofNat_iff {n : Nat} (h : n < 2 ^ 53) {v : WithTop ℚ} (hx : Amount x v) :
    (x == Float.ofNat n) = true ↔ v = (n : ℚ) := by
  change (x.toModel.unpack.compare (Float.ofNat n).toModel.unpack == some .eq) = true ↔ _
  -- A zero has no mantissa to compare.
  rcases Nat.eq_zero_or_pos n with rfl | hpos
  · have hzero : (Float.ofNat 0).toModel.unpack = .zero .positive := unpack_zero
    rcases amount_cases hx with ⟨rfl, s, hs⟩ | ⟨m, e, hp, hm, rfl, hone⟩ | ⟨rfl, hinf⟩
    · simp [hs, hzero, UnpackedFloat.compare]
    · have hne : ((m * 2 ^ e : ℚ) : WithTop ℚ) ≠ ((0 : Nat) : ℚ) := by
        have : (m : ℚ) * 2 ^ e ≠ ((0 : Nat) : ℚ) := by
          push_cast
          linarith
        exact_mod_cast this
      simpa [hm, hzero, UnpackedFloat.compare] using hne
    · simp [hinf, hzero, UnpackedFloat.compare]
  · have hn := unpack_ofNat hpos h
    have hvalue := value_toFloat h hpos
    have hfull := canonical_shift hpos h
    rcases amount_cases hx with ⟨rfl, s, hs⟩ | ⟨m, e, hp, hm, rfl, hone⟩ | ⟨rfl, hinf⟩
    · have hne : (0 : WithTop ℚ) ≠ (n : ℚ) := by
        have : (0 : ℚ) ≠ n := by exact_mod_cast hpos.ne
        exact_mod_cast this
      simpa [hs, hn, UnpackedFloat.compare] using hne
    · have hc := canonical_of_unpack hm
      -- Both mantissas have the full length, so equal values have equal parts.
      have hparts : ((m * 2 ^ e : ℚ) : WithTop ℚ) = (n : ℚ) ↔
          e = (n.log2 : Int) - 52 ∧ m = n * 2 ^ (52 - n.log2) := by
        constructor
        · intro heq
          have heq : (m : ℚ) * 2 ^ e = n := by exact_mod_cast heq
          exact parts_of_full (full_of_one_le hc hone) hc.lt hfull.1 hfull.2.lt
            (heq.trans hvalue.symm)
        · rintro ⟨rfl, rfl⟩
          exact congrArg _ hvalue
      simp only [hm, hn, UnpackedFloat.compare, hparts, beq_iff_eq, Option.some.injEq,
        Ordering.then_eq_eq, Int.compare_eq_eq, Nat.compare_eq_eq]
    · simp [hinf, hn, UnpackedFloat.compare]

end Number
end LineRpc
