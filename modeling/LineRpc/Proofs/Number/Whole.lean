import LineRpc.NDArray.Basic
import LineRpc.Proofs.Number.ReadBack

/-!
# Whole — natural numbers as numbers, and the two zeros

Natural numbers below `2 ^ 53` are stored exactly. The negative zero differs from zero in its sign
only: no comparison tells them apart, and a product of the one is up to its sign a product of the
other.

* `unpack_ofNat`         : a natural number is stored exactly
* `one_mul_finite`       : one is neutral for finite numbers
* `unsignedZero_mul`     : a product does not depend on the sign of a zero
* `beq_unsignedZero`     : nor does a comparison
-/

namespace LineRpc
namespace Number

open Float.Model Float.Model.UnpackedFloat

/-! ## Natural numbers -/

/-- The double of a natural number is what its digits are read as. -/
theorem ofNat_eq_nearest (n : Nat) : Float.ofNat n = Json.Token.nearest n 0 :=
  rfl

theorem unpack_ofNat {n : Nat} (hpos : 0 < n) (hlt : n < 2 ^ 53) :
    (Float.ofNat n).toModel.unpack =
      .finite .positive (n * 2 ^ (52 - n.log2)) ((n.log2 : Int) - 52) (by positivity) := by
  have hc := (canonical_shift hpos hlt).2
  -- The number itself is in the middle of its interval.
  have hr : Rounds (n * 2 ^ (52 - n.log2)) ((n.log2 : Int) - 52)
      (n * 10 ^ (0 : Int) * 2 ^ (-((n.log2 : Int) - 52))) := by
    have hvalue := value_toFloat hlt hpos
    have hz : ((n : ℚ) * 10 ^ (0 : Int) * 2 ^ (-((n.log2 : Int) - 52))) =
        (n * 2 ^ (52 - n.log2) : Nat) := by
      rw [zpow_zero, mul_one, ← hvalue, mul_assoc, ← zpow_add₀ (by norm_num), add_neg_cancel,
        zpow_zero, mul_one]
    rw [hz]
    exact rounds_self _ _
  rw [ofNat_eq_nearest, nearest_eq hpos hc hr]
  exact unpack_pack_finite _ hc

theorem isFinite_ofNat {n : Nat} (h : n < 2 ^ 53) : (Float.ofNat n).isFinite = true := by
  change (Float.ofNat n).toModel.unpack.isFinite = true
  rcases Nat.eq_zero_or_pos n with rfl | hpos
  · rfl
  · rw [unpack_ofNat hpos h]
    rfl

/-! ## Finite numbers -/

theorem isNaN_of_isFinite {x : Float} (h : x.isFinite = true) : x.isNaN = false := by
  change x.toModel.unpack.isNaN = false
  rcases finite_cases h with ⟨s, hs⟩ | ⟨s, m, e, hp, hf⟩
  · rw [hs]
    rfl
  · rw [hf]
    rfl

theorem beq_self_of_isFinite {x : Float} (h : x.isFinite = true) : (x == x) = true := by
  change (x.toModel.unpack.compare x.toModel.unpack == some .eq) = true
  rcases finite_cases h with ⟨s, hs⟩ | ⟨s, m, e, hp, hf⟩
  · rw [hs]
    rfl
  · rw [hf]
    cases s <;> simp [UnpackedFloat.compare]

theorem mul_eq (x y : Float) :
    x * y = Float.ofModel
      (Float.Model.pack (UnpackedFloat.mul Format.binary64 x.toModel.unpack y.toModel.unpack)) :=
  rfl

/-- One is neutral for finite numbers. -/
theorem one_mul_finite {x : Float} (h : x.isFinite = true) : 1 * x = x := by
  have hone : (1 : Float).toModel.unpack =
      .finite .positive (2 ^ 52) (-52) (by positivity) := by
    exact unpack_ofNat (n := 1) (by norm_num) (by norm_num)
  rw [mul_eq, hone]
  apply ofModel_pack_of_unpack
  rcases finite_cases h with ⟨s, hs⟩ | ⟨s, m, e, hp, hf⟩
  · rw [hs]
    cases s <;> rfl
  · have hc := canonical_of_unpack hf
    rw [hf]
    have hsign : Sign.positive * s = s := by
      cases s <;> rfl
    -- The exact product is the mantissa itself, which rounds to itself.
    have hr : Rounds m e (((2 ^ 52 : Nat) * 2 ^ (-52 : Int) : ℚ) * (m * 2 ^ e) * 2 ^ (-e)) := by
      have hz : (((2 ^ 52 : Nat) * 2 ^ (-52 : Int) : ℚ) * (m * 2 ^ e) * 2 ^ (-e)) = m := by
        rw [zpow_neg, zpow_neg]
        push_cast
        field_simp
      rw [hz]
      exact rounds_self _ _
    rw [mul_finite_eq (by positivity) hp hc (Nat.le_mul_of_pos_right _ hp) hr, hsign]

/-! ## The two zeros -/

/-- Taking off the sign changes nothing but a zero. -/
theorem unsignedZero_cases (x : Float) :
    unsignedZero x = x ∨ ∃ s, x.toModel.unpack = .zero s ∧ unsignedZero x = 0 := by
  cases hx : x.toModel.unpack with
  | zero s =>
      exact Or.inr ⟨s, rfl, unsignedZero_of_zero hx⟩
  | _ =>
      left
      rw [unsignedZero, if_neg (by simp [isNegativeZero, hx])]

theorem unsignedZero_unsignedZero (x : Float) : unsignedZero (unsignedZero x) = unsignedZero x := by
  rcases unsignedZero_cases x with h | ⟨s, -, h⟩
  · rw [h, h]
  · rw [h]
    exact unsignedZero_of_zero unpack_zero

theorem isFinite_unsignedZero (x : Float) : (unsignedZero x).isFinite = x.isFinite := by
  rcases unsignedZero_cases x with h | ⟨s, hs, h⟩
  · rw [h]
  · have hx : x.isFinite = true := by
      change x.toModel.unpack.isFinite = true
      rw [hs]
      rfl
    rw [h, hx]
    rfl

theorem isNaN_unsignedZero {x : Float} (h : x.isFinite = true) :
    (unsignedZero x).isNaN = false := by
  refine isNaN_of_isFinite ?_
  rw [isFinite_unsignedZero]
  exact h

theorem unpack_unsignedZero (x : Float) :
    (unsignedZero x).toModel.unpack = x.toModel.unpack ∨
      ∃ s, x.toModel.unpack = .zero s ∧ (unsignedZero x).toModel.unpack = .zero .positive := by
  rcases unsignedZero_cases x with h | ⟨s, hs, h⟩
  · rw [h]
    exact Or.inl rfl
  · rw [h]
    exact Or.inr ⟨s, hs, unpack_zero⟩

/-- Comparison does not see the sign of zero. -/
theorem compare_unsignedZero (x : Float) (u : UnpackedFloat) :
    (unsignedZero x).toModel.unpack.compare u = x.toModel.unpack.compare u := by
  rcases unpack_unsignedZero x with h | ⟨s, hs, h⟩
  · rw [h]
  · rw [h, hs]
    cases u with
    | infinity t =>
        cases t <;> rfl
    | finite t m e hp =>
        cases t <;> rfl
    | _ =>
        rfl

/-- A comparison does not see the sign of a zero. -/
theorem beq_unsignedZero (x y : Float) : (unsignedZero x == y) = (x == y) := by
  change ((unsignedZero x).toModel.unpack.compare y.toModel.unpack == some .eq) = _
  rw [compare_unsignedZero]
  rfl

theorem beq_unsignedZero_right (x y : Float) : (x == unsignedZero y) = (x == y) := by
  change (x.toModel.unpack.compare (unsignedZero y).toModel.unpack == some .eq) =
    (x.toModel.unpack.compare y.toModel.unpack == some .eq)
  rcases unpack_unsignedZero y with h | ⟨s, hs, h⟩
  · rw [h]
  · rw [h, hs]
    cases x.toModel.unpack with
    | infinity t =>
        cases t <;> rfl
    | finite t m e hp =>
        cases t <;> rfl
    | _ =>
        rfl

/-- Of the natural numbers only zero is equal to zero. -/
theorem eq_zero_of_beq {n : Nat} (hn : n < 2 ^ 53) (h : (Float.ofNat n == 0) = true) : n = 0 := by
  rcases Nat.eq_zero_or_pos n with hz | hpos
  · exact hz
  · change ((Float.ofNat n).toModel.unpack.compare (0 : Float).toModel.unpack == some .eq) = true at h
    rw [unpack_ofNat hpos hn, unpack_zero] at h
    cases h

theorem lt_iff_compare (x y : Float) :
    x < y ↔ (x.toModel.unpack.compare y.toModel.unpack == some .lt) = true := by
  change (decide (x.toModel < y.toModel) = true) ↔ _
  rw [decide_eq_true_iff]
  rfl

theorem lt_unsignedZero (x y : Float) : unsignedZero x < y ↔ x < y := by
  rw [lt_iff_compare, lt_iff_compare, compare_unsignedZero]

/-- The stored form of a product, without the sign of a zero. -/
def unsignedProduct (u v : UnpackedFloat) : Float :=
  unsignedZero (Float.ofModel (Float.Model.pack (UnpackedFloat.mul Format.binary64 u v)))

theorem unsignedZero_ofModel_zero (s t : Sign) :
    unsignedZero (Float.ofModel (Float.Model.pack (.zero s))) =
      unsignedZero (Float.ofModel (Float.Model.pack (.zero t))) := by
  cases s <;> cases t <;> rfl

theorem unsignedProduct_zero_left (s t : Sign) (u : UnpackedFloat) :
    unsignedProduct (.zero s) u = unsignedProduct (.zero t) u := by
  cases u with
  | notANumber =>
      rfl
  | infinity v =>
      rfl
  | zero v =>
      exact unsignedZero_ofModel_zero _ _
  | finite v m e hp =>
      exact unsignedZero_ofModel_zero _ _

theorem unsignedProduct_zero_right (s t : Sign) (u : UnpackedFloat) :
    unsignedProduct u (.zero s) = unsignedProduct u (.zero t) := by
  cases u with
  | notANumber =>
      rfl
  | infinity v =>
      rfl
  | zero v =>
      exact unsignedZero_ofModel_zero _ _
  | finite v m e hp =>
      exact unsignedZero_ofModel_zero _ _

/-- A product depends on the signs of zeros by its own sign at most. -/
theorem unsignedZero_mul (x y : Float) :
    unsignedZero (unsignedZero x * unsignedZero y) = unsignedZero (x * y) := by
  change unsignedProduct _ _ = unsignedProduct _ _
  have hleft : unsignedProduct (unsignedZero x).toModel.unpack (unsignedZero y).toModel.unpack =
      unsignedProduct x.toModel.unpack (unsignedZero y).toModel.unpack := by
    rcases unpack_unsignedZero x with h | ⟨s, hs, h⟩
    · rw [h]
    · rw [h, hs]
      exact unsignedProduct_zero_left _ _ _
  rcases unpack_unsignedZero y with h | ⟨s, hs, h⟩
  · rw [hleft, h]
  · rw [hleft, h, hs]
    exact unsignedProduct_zero_right _ _ _

end Number
end LineRpc
