import LineRpc.Number.Shortest
import LineRpc.Proofs.Number.Packed

/-!
# Rounding — a shifted mantissa keeps track of the number

While bits are shifted out of a mantissa, a round bit and a sticky bit say where the number lies
between two mantissas. They say enough to choose the nearer one, the even one in the middle, so
rounding finds the canonical parts that a number is nearest to.

* `Near`                 : where a number lies if an extended mantissa stands for it
* `near_shiftRight`      : shifting keeps track of the number
* `Rounds`               : the interval of the numbers that round to canonical parts
* `exponent_of_rounds`   : the interval settles the exponent
* `roundWithAccuracy_eq` : rounding finds these parts
-/

namespace LineRpc
namespace Number

open Float.Model Float.Model.UnpackedFloat

/-- Where a number `y` lies if an extended mantissa stands for it. -/
def Near (em : ExtendedMantissa) (y : ℚ) : Prop :=
  match em.roundBit, em.stickyBit with
  | false, false => y = em.mantissa
  | false, true => em.mantissa < y ∧ y < em.mantissa + 1 / 2
  | true, false => y = em.mantissa + 1 / 2
  | true, true => em.mantissa + 1 / 2 < y ∧ y < em.mantissa + 1

theorem near_shiftRightOne {em : ExtendedMantissa} {y : ℚ} (h : Near em y) :
    Near em.shiftRightOne (y / 2) := by
  rcases em with ⟨m, r, s⟩
  have hm : (m : ℚ) = 2 * (m / 2 : Nat) + (m % 2 : Nat) := by
    exact_mod_cast (Nat.div_add_mod m 2).symm
  -- The bit that is shifted out becomes the round bit, and the old round bit a sticky one.
  rcases Nat.mod_two_eq_zero_or_one m with h₀ | h₀
  · have hbit : (m % 2 != 0) = false := by simp [h₀]
    rw [h₀] at hm
    cases r <;> cases s <;>
      simp only [Near, ExtendedMantissa.shiftRightOne, hbit, Bool.or_self, Bool.or_true,
        Bool.or_false] at h ⊢ <;>
      norm_num at h hm ⊢ <;>
      first
        | linarith
        | exact ⟨by linarith, by linarith⟩
  · have hbit : (m % 2 != 0) = true := by simp [h₀]
    rw [h₀] at hm
    cases r <;> cases s <;>
      simp only [Near, ExtendedMantissa.shiftRightOne, hbit, Bool.or_self, Bool.or_true,
        Bool.or_false] at h ⊢ <;>
      norm_num at h hm ⊢ <;>
      first
        | linarith
        | exact ⟨by linarith, by linarith⟩

/-- Shifting out bits keeps track of what was lost. -/
theorem near_shiftRight {em : ExtendedMantissa} {y : ℚ} (h : Near em y) (n : Nat) :
    Near (em >>> n) (y / 2 ^ n) := by
  induction n with
  | zero =>
      rw [pow_zero, div_one]
      exact h
  | succ n ih =>
      have hs := near_shiftRightOne ih
      rw [div_div, ← pow_succ] at hs
      exact hs

/-- Of the whole numbers, `m` is nearest to `y`, or one of the two nearest and even. -/
def NearestEven (m : Nat) (y : ℚ) : Prop :=
  (m : ℚ) - 1 / 2 ≤ y ∧ y ≤ m + 1 / 2 ∧
    (m % 2 = 1 → (m : ℚ) - 1 / 2 < y ∧ y < m + 1 / 2)

/-- Rounding by the flags is rounding to the nearest, ties to even. -/
theorem nearestEven_of_near {em : ExtendedMantissa} {y : ℚ} (h : Near em y) :
    NearestEven em.roundedMantissa y := by
  rcases em with ⟨m, r, s⟩
  cases r <;> cases s <;>
    simp only [Near, NearestEven, ExtendedMantissa.roundedMantissa, ExtendedMantissa.accuracy,
      Accuracy.roundToNearestEven] at h ⊢
  · exact ⟨by linarith, by linarith, fun _ => ⟨by linarith, by linarith⟩⟩
  · exact ⟨by linarith, by linarith, fun _ => ⟨by linarith, by linarith⟩⟩
  · -- Half way between two: the sum of the mantissa and its last bit is even.
    rcases Nat.mod_two_eq_zero_or_one m with h₀ | h₀ <;>
      rw [h₀] <;>
      push_cast <;>
      exact ⟨by linarith, by linarith, fun _ => by omega⟩
  · push_cast
    exact ⟨by linarith, by linarith, fun _ => ⟨by linarith, by linarith⟩⟩

/-- There is one nearest integer, ties to even. -/
theorem eq_of_nearestEven {m n : Nat} {y : ℚ} (hm : NearestEven m y) (hn : NearestEven n y) :
    m = n := by
  rcases hm with ⟨hm₁, hm₂, hm₃⟩
  rcases hn with ⟨hn₁, hn₂, hn₃⟩
  have h₁ : m ≤ n + 1 := by
    have : (m : ℚ) ≤ n + 1 := by linarith
    exact_mod_cast this
  have h₂ : n ≤ m + 1 := by
    have : (n : ℚ) ≤ m + 1 := by linarith
    exact_mod_cast this
  by_contra hne
  -- Of two neighbours one is odd, and the middle between them is not in the reach of that one.
  have hcases : m = n + 1 ∨ n = m + 1 := by omega
  rcases hcases with rfl | rfl
  · push_cast at hm₁ hm₃
    rcases Nat.mod_two_eq_zero_or_one n with h₀ | h₀
    · have := hm₃ (by omega)
      linarith
    · have := hn₃ h₀
      linarith
  · push_cast at hn₁ hn₃
    rcases Nat.mod_two_eq_zero_or_one m with h₀ | h₀
    · have := hn₃ (by omega)
      linarith
    · have := hm₃ h₀
      linarith

/-! ## Canonical form -/

theorem targetExponent_eq (t : Int) :
    Format.binary64.targetExponent t = max (t - 53) (-1074) := by
  have hbits : ((Format.binary64.mantissaBits : Nat) : Int) = 53 := by decide
  have hmin : Format.binary64.minExponent = -1074 := by decide
  rw [Format.targetExponent, hbits, hmin]

/-- A canonical number stands at the exponent it rounds to. -/
theorem targetExponent_of_canonical {m : Nat} {e : Int} (h : Canonical m e) :
    Format.binary64.targetExponent (totalExponent m e) = e := by
  have hlow := h.low
  rw [targetExponent_eq, totalExponent]
  rcases h.full with hl | he
  · rw [log2_of_full hl h.lt]
    omega
  · have hlog : m.log2 < 53 := (Nat.log2_lt (by have := h.pos; omega)).mpr h.lt
    omega

theorem ofMantissaAndAccuracy_mantissa (m : Nat) (a : Accuracy) :
    (ExtendedMantissa.ofMantissaAndAccuracy m a).mantissa = m := by
  rcases a with _ | o
  · rfl
  · cases o <;> rfl

theorem near_bounds {em : ExtendedMantissa} {y : ℚ} (h : Near em y) :
    (em.mantissa : ℚ) ≤ y ∧ y < em.mantissa + 1 := by
  rcases em with ⟨m, r, s⟩
  cases r <;> cases s <;>
    simp only [Near] at h ⊢ <;>
    exact ⟨by linarith, by linarith⟩

/-- The numbers, measured in units of `2 ^ e`, that have `m * 2 ^ e` as the nearest of its format.
-/
def Rounds (m : Nat) (e : Int) (z : ℚ) : Prop :=
  (m : ℚ) - gapBelow m e / 4 ≤ z ∧ z ≤ m + 1 / 2 ∧
    (m % 2 = 1 → (m : ℚ) - gapBelow m e / 4 < z ∧ z < m + 1 / 2)

theorem gapBelow_eq (m : Nat) (e : Int) :
    gapBelow m e = if m = 2 ^ 52 ∧ -1074 < e then 1 else 2 :=
  rfl

theorem gapBelow_le_two (m : Nat) (e : Int) : gapBelow m e ≤ 2 := by
  rw [gapBelow_eq]
  split <;> norm_num

theorem nearestEven_of_rounds {m : Nat} {e : Int} {z : ℚ} (h : Rounds m e z) : NearestEven m z := by
  have hg : (gapBelow m e : ℚ) ≤ 2 := by exact_mod_cast gapBelow_le_two m e
  rcases h with ⟨h₁, h₂, h₃⟩
  refine ⟨by linarith, h₂, fun ho => ?_⟩
  have := h₃ ho
  exact ⟨by linarith, by linarith⟩

/-- With a mantissa of full length, a number that rounds up to a power of two may have the exponent
below; any other has the same exponent. -/
theorem exponent_of_rounds_full {m L : Nat} {e x : Int} {z : ℚ} (hm : 2 ^ 52 ≤ m) (he : -1074 ≤ e)
    (hr : Rounds m e z) (htop : (L : Int) + x - e < 53)
    (hhigh : z < (2 : ℚ) ^ (L + 1 + x - e)) :
    max (L + x - 52) (-1074) = e ∨
      (max (L + x - 52) (-1074) = e - 1 ∧ m = 2 ^ 52 ∧ gapBelow m e = 1 ∧ L + x - 52 = e - 1) := by
  have hmq : (2 : ℚ) ^ 52 ≤ m := by exact_mod_cast hm
  have hg : (gapBelow m e : ℚ) ≤ 2 := by exact_mod_cast gapBelow_le_two m e
  have hbottom : 51 < (L : Int) + 1 + x - e := by
    refine (zpow_lt_zpow_iff_right₀ (by norm_num : (1 : ℚ) < 2)).mp (lt_of_le_of_lt ?_ hhigh)
    have hr₁ := hr.1
    norm_num
    linarith
  by_cases hgap : m = 2 ^ 52 ∧ -1074 < e
  · -- The gap below the least mantissa is half as wide, so the exponent may be one less.
    have hone : gapBelow m e = 1 := if_pos hgap
    have hsplit : (L : Int) + x - e = 51 ∨ (L : Int) + x - e = 52 := by omega
    rcases hsplit with h | h
    · exact Or.inr ⟨by omega, hgap.1, hone, by omega⟩
    · exact Or.inl (by omega)
  · left
    by_cases hleast : e = -1074
    · omega
    · -- The mantissa is not the least one, so the gap below it is a whole unit.
      have htwo : gapBelow m e = 2 := if_neg hgap
      have hm' : 2 ^ 52 + 1 ≤ m := by omega
      have hmq' : (2 : ℚ) ^ 52 + 1 ≤ m := by exact_mod_cast hm'
      have hbottom' : 52 < (L : Int) + 1 + x - e := by
        refine (zpow_lt_zpow_iff_right₀ (by norm_num : (1 : ℚ) < 2)).mp (lt_of_le_of_lt ?_ hhigh)
        have hr₁ := hr.1
        rw [htwo] at hr₁
        push_cast at hr₁
        norm_num
        linarith
      omega

/-- A number that rounds to canonical parts has their exponent, or the one below if it lies below a
power of two that it rounds up to. -/
theorem exponent_of_rounds {m L : Nat} {e x : Int} {z : ℚ} (hc : Canonical m e) (hr : Rounds m e z)
    (hlow : (2 : ℚ) ^ (L + x - e) ≤ z) (hhigh : z < (2 : ℚ) ^ (L + 1 + x - e)) :
    max (L + x - 52) (-1074) = e ∨
      (max (L + x - 52) (-1074) = e - 1 ∧ m = 2 ^ 52 ∧ gapBelow m e = 1 ∧ L + x - 52 = e - 1) := by
  have hr₂ := hr.2.1
  by_cases hfull : 2 ^ 52 ≤ m
  · refine exponent_of_rounds_full hfull hc.low hr ?_ hhigh
    have hlt : (m : ℚ) + 1 / 2 < 2 ^ (53 : Int) := by
      have : (m : ℚ) + 1 ≤ 2 ^ 53 := by exact_mod_cast hc.lt
      norm_num
      linarith
    exact (zpow_lt_zpow_iff_right₀ (by norm_num)).mp (lt_of_le_of_lt (le_trans hlow hr₂) hlt)
  · -- A short mantissa has the least exponent, and rounding does not lengthen it too much.
    left
    have he : e = -1074 := by
      have := hc.full
      omega
    have hm : (m : ℚ) + 1 ≤ 2 ^ 52 := by
      have : m + 1 ≤ 2 ^ 52 := by omega
      exact_mod_cast this
    have htop : (L : Int) + x - e < 52 := by
      refine (zpow_lt_zpow_iff_right₀ (by norm_num : (1 : ℚ) < 2)).mp (lt_of_le_of_lt hlow ?_)
      norm_num
      linarith
    omega

/-- A number below one unit of the least exponent rounds to that unit or to nothing. -/
theorem canonical_of_small {m : Nat} {e : Int} {z : ℚ} (hc : Canonical m e) (hr : Rounds m e z)
    (hz : z < 1) : e = -1074 := by
  have hm : (m : ℚ) < 2 ^ 52 := by
    have h₁ := (nearestEven_of_rounds hr).1
    linarith
  have hm' : m < 2 ^ 52 := by exact_mod_cast hm
  have := hc.full
  omega

/-! ## Rounding -/

theorem shiftToTargetExponent_of_canonical {m : Nat} {e : Int} (h : Canonical m e) :
    shiftToTargetExponent Format.binary64 m e .exact = (⟨m, false, false⟩, e) := by
  have ht := targetExponent_of_canonical h
  simp only [shiftToTargetExponent, shiftToExponent, ht, sub_self]
  exact congrArg _ (add_zero e)

/-- A mantissa that was rounded up to 2^53 moves to the next exponent. -/
theorem shiftToTargetExponent_carry {e : Int} (h : -1074 < e) :
    shiftToTargetExponent Format.binary64 (2 ^ 53) (e - 1) .exact = (⟨2 ^ 52, false, false⟩, e) := by
  have ht : Format.binary64.targetExponent (totalExponent (2 ^ 53) (e - 1)) = e := by
    rw [targetExponent_eq, totalExponent, Nat.log2_two_pow]
    omega
  have hk : (e - (e - 1)).toNat = 1 := by omega
  simp only [shiftToTargetExponent, shiftToExponent, ht, hk]
  refine Prod.ext rfl ?_
  simp

/-- The length of a mantissa bounds the number, in whatever unit. -/
theorem scaled_lt {M : Nat} {y : ℚ} (hy : y < M + 1) (E e : Int) :
    y * (2 : ℚ) ^ (E - e) < (2 : ℚ) ^ ((M.log2 : Int) + 1 + E - e) := by
  have hlog : y < (2 : ℚ) ^ (M.log2 + 1) := by
    refine lt_of_lt_of_le hy ?_
    exact_mod_cast Nat.lt_log2_self
  calc y * (2 : ℚ) ^ (E - e)
      < 2 ^ (M.log2 + 1) * 2 ^ (E - e) := by gcongr
    _ = 2 ^ ((M.log2 : Int) + 1 + E - e) := by
        rw [add_sub_assoc, zpow_add₀ (by norm_num), ← zpow_natCast]
        push_cast
        rfl

/-- The exponent after the mantissa was shifted to its target. If the mantissa is empty, then the
number is less than one unit of the least exponent. -/
theorem exponent_of_shift {M m : Nat} {E e : Int} {y : ℚ} (hc : Canonical m e)
    (hr : Rounds m e (y * (2 : ℚ) ^ (E - e))) (hlow : (M : ℚ) ≤ y) (hhigh : y < M + 1)
    (hM : 0 < M ∨ E = -1074) :
    max ((M.log2 : Int) + E - 52) (-1074) = e ∨
      (max ((M.log2 : Int) + E - 52) (-1074) = e - 1 ∧ m = 2 ^ 52 ∧ gapBelow m e = 1 ∧
        (M.log2 : Int) + E - 52 = e - 1) := by
  -- Without a mantissa the value is below one, and the exponent is the least one.
  rcases Nat.eq_zero_or_pos M with rfl | hpos
  · have hE : E = -1074 := hM.resolve_left (lt_irrefl 0)
    have hz : y * (2 : ℚ) ^ (E - e) < 1 := by
      have hle : (2 : ℚ) ^ (E - e) ≤ 1 := by
        refine zpow_le_one_of_nonpos₀ (by norm_num) ?_
        have := hc.low
        omega
      have hy : y < 1 := by simpa using hhigh
      have hpos : (0 : ℚ) < (2 : ℚ) ^ (E - e) := by positivity
      nlinarith
    have he := canonical_of_small hc hr hz
    left
    rw [Nat.log2_zero]
    omega
  · refine exponent_of_rounds hc hr ?_ (scaled_lt hhigh E e)
    have hlog : (2 : ℚ) ^ M.log2 ≤ y := by
      refine le_trans ?_ hlow
      exact_mod_cast Nat.log2_self_le (by omega)
    calc (2 : ℚ) ^ ((M.log2 : Int) + E - e)
        = 2 ^ M.log2 * 2 ^ (E - e) := by
          rw [add_sub_assoc, zpow_add₀ (by norm_num), zpow_natCast]
      _ ≤ y * 2 ^ (E - e) := by gcongr

/-- If the shift ends at the exponent of the parts, rounding leaves their mantissa. -/
theorem roundedMantissa_eq {em : ExtendedMantissa} {m k : Nat} {E e : Int} {y : ℚ}
    (hn : Near em y) (hr : Rounds m e (y * (2 : ℚ) ^ (E - e))) (hk : E + k = e) :
    (em >>> k).roundedMantissa = m := by
  refine eq_of_nearestEven (nearestEven_of_near (near_shiftRight hn k)) ?_
  have hz : y / 2 ^ k = y * (2 : ℚ) ^ (E - e) := by
    rw [show E - e = -(k : Int) by omega, zpow_neg, zpow_natCast, div_eq_mul_inv]
  rw [hz]
  exact nearestEven_of_rounds hr

/-- If the shift ends one exponent below, rounding carries into the next bit. -/
theorem roundedMantissa_carry {em : ExtendedMantissa} {k : Nat} {E e : Int} {y : ℚ}
    (hn : Near em y) (hr : Rounds (2 ^ 52) e (y * (2 : ℚ) ^ (E - e)))
    (hgap : gapBelow (2 ^ 52) e = 1) (hhigh : y * (2 : ℚ) ^ (E - e) < 2 ^ (52 : Int))
    (hk : E + k = e - 1) : (em >>> k).roundedMantissa = 2 ^ 53 := by
  refine eq_of_nearestEven (nearestEven_of_near (near_shiftRight hn k)) ?_
  -- Below a power of two the grid is twice as fine, so the mantissa doubles.
  have hz : y / 2 ^ k = 2 * (y * (2 : ℚ) ^ (E - e)) := by
    rw [show E - e = -(k : Int) + -1 by omega, zpow_add₀ (by norm_num), zpow_neg, zpow_natCast,
      div_eq_mul_inv]
    norm_num
    ring
  have hlow := hr.1
  rw [hgap] at hlow
  rw [hz]
  norm_num at hlow hhigh
  refine ⟨?_, ?_, fun ho => ?_⟩
  · push_cast
    linarith
  · push_cast
    linarith
  · norm_num at ho

/-- Rounding finds the canonical parts that a number is nearest to. `E` may be any exponent that is
not too large, and `y` is the number in units of `2 ^ E`. -/
theorem roundWithAccuracy_eq {s : Sign} {M m : Nat} {E e : Int} {a : Accuracy} {y : ℚ}
    (hc : Canonical m e) (hn : Near (ExtendedMantissa.ofMantissaAndAccuracy M a) y)
    (hr : Rounds m e (y * (2 : ℚ) ^ (E - e)))
    (hE : E ≤ Format.binary64.targetExponent (totalExponent M E)) (hM : 0 < M ∨ E = -1074) :
    roundWithAccuracy Format.binary64 s M E a = .finite s m e hc.pos := by
  have hy := near_bounds hn
  rw [ofMantissaAndAccuracy_mantissa] at hy
  have ht : Format.binary64.targetExponent (totalExponent M E) = max (M.log2 + E - 52) (-1074) := by
    rw [targetExponent_eq, totalExponent]
    congr 1
    ring
  rw [ht] at hE
  obtain ⟨k, hk⟩ : ∃ k : Nat, max (M.log2 + E - 52) (-1074) - E = k :=
    ⟨_, (Int.toNat_of_nonneg (by omega)).symm⟩
  have hshift : shiftToTargetExponent Format.binary64 M E a =
      (ExtendedMantissa.ofMantissaAndAccuracy M a >>> k, max (M.log2 + E - 52) (-1074)) := by
    simp only [shiftToTargetExponent, shiftToExponent, ht, hk, Int.toNat_natCast]
    refine Prod.ext rfl ?_
    simp only
    omega
  rw [roundWithAccuracy, hshift]
  simp only
  rcases exponent_of_shift hc hr hy.1 hy.2 hM with he | ⟨he, rfl, hgap, hx⟩
  · -- The first shift ends where it should, and the second one has nothing to do.
    rw [roundedMantissa_eq hn hr (by omega), he, shiftToTargetExponent_of_canonical hc]
    simp only
    rw [dif_neg (by have := hc.pos; omega)]
  · -- The first shift ends too low, and the second one takes up the carry.
    have hhigh := scaled_lt hy.2 E e
    rw [show (M.log2 : Int) + 1 + E - e = 52 by omega] at hhigh
    rw [roundedMantissa_carry hn hr hgap hhigh (by omega), he, shiftToTargetExponent_carry (by omega)]
    simp only
    rw [dif_neg (by norm_num)]

end Number
end LineRpc
