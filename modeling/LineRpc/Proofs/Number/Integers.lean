import LineRpc.Proofs.NDArray.Product

/-!
# Integers — numbers that are integers

An integer below `2 ^ 53` is stored as a number that is just this integer, with its sign. The other
way round, the number of the integer that a number is, is this number again, up to the sign of a
zero. Numbers that are not negative are ordered as their amounts are.

* `lt_iff_of_amount`        : the order of two amounts
* `integer?_ofInt`          : a small integer is stored exactly
* `ofInt_of_integer?`       : an integer gives back the number it is read from
* `isDimension_iff`         : natural numbers
-/

namespace LineRpc
namespace Number

open Float.Model Float.Model.UnpackedFloat

variable {x y : Float} {i : Int} {n : Nat}

/-! ## The order -/

/-- Mantissas of full length are ordered by their exponents first. -/
theorem lt_iff_of_full {m n : Nat} {e u : Int} (hm : 2 ^ 52 ≤ m) (hm' : m < 2 ^ 53)
    (hn : 2 ^ 52 ≤ n) (hn' : n < 2 ^ 53) :
    (m : ℚ) * 2 ^ e < n * 2 ^ u ↔ e < u ∨ e = u ∧ m < n := by
  have hsame : (m : ℚ) * 2 ^ u < n * 2 ^ u ↔ m < n := by
    rw [mul_lt_mul_iff_left₀ (by positivity)]
    exact_mod_cast Iff.rfl
  constructor
  · intro h
    -- With mantissas of full length the exponents decide, unless they are the same.
    rcases (exponent_le_of_full hn' hm h.le).lt_or_eq with hlt | rfl
    · exact .inl hlt
    · exact .inr ⟨rfl, hsame.mp h⟩
  · rintro (hlt | ⟨rfl, h⟩)
    · refine not_le.mp fun hle => ?_
      exact absurd (exponent_le_of_full hm' hn hle) (not_le.mpr hlt)
    · exact hsame.mpr h

/-- Numbers compare as their amounts do. -/
theorem lt_iff_of_amount {v w : WithTop ℚ} (hx : Amount x v) (hy : Amount y w) : x < y ↔ v < w := by
  rw [lt_iff_compare]
  -- Each side is zero, a finite number from one on, or infinite.
  rcases amount_cases hx with ⟨rfl, s, hs⟩ | ⟨m, e, hp, hm, rfl, hone⟩ | ⟨rfl, hinf⟩
  · rcases amount_cases hy with ⟨rfl, t, ht⟩ | ⟨n, u, hq, hn, rfl, hone'⟩ | ⟨rfl, hinf'⟩
    · simp [hs, ht, UnpackedFloat.compare]
    · have hpos : (0 : WithTop ℚ) < ((n * 2 ^ u : ℚ) : WithTop ℚ) := by
        have hpos : (0 : ℚ) < n * 2 ^ u := lt_of_lt_of_le one_pos hone'
        exact_mod_cast hpos
      simpa [hs, hn, UnpackedFloat.compare] using hpos
    · simp [hs, hinf', UnpackedFloat.compare]
  · rcases amount_cases hy with ⟨rfl, t, ht⟩ | ⟨n, u, hq, hn, rfl, hone'⟩ | ⟨rfl, hinf'⟩
    · have hpos : ¬ ((m * 2 ^ e : ℚ) : WithTop ℚ) < 0 := by
        have hpos : (0 : ℚ) ≤ m * 2 ^ e := le_trans zero_le_one hone
        exact not_lt.mpr (by exact_mod_cast hpos)
      simpa [hm, ht, UnpackedFloat.compare] using hpos
    · -- Both are finite, and both have mantissas of full length.
      have hcm := canonical_of_unpack hm
      have hcn := canonical_of_unpack hn
      rw [WithTop.coe_lt_coe, lt_iff_of_full (full_of_one_le hcm hone) hcm.lt
        (full_of_one_le hcn hone') hcn.lt]
      simp [hm, hn, UnpackedFloat.compare, Ordering.then_eq_lt, Int.compare_eq_lt, Nat.compare_eq_lt]
    · have hlt : ((m * 2 ^ e : ℚ) : WithTop ℚ) < ⊤ := WithTop.coe_lt_top _
      simpa only [hm, hinf', UnpackedFloat.compare, beq_self_eq_true, true_iff] using hlt
  · rcases amount_cases hy with ⟨rfl, t, ht⟩ | ⟨n, u, hq, hn, rfl, hone'⟩ | ⟨rfl, hinf'⟩
    · simp [hinf, ht, UnpackedFloat.compare]
    · simp [hinf, hn, UnpackedFloat.compare]
    · simp [hinf, hinf', UnpackedFloat.compare]

/-! ## Signs -/

/-- Taking the negative changes the sign and nothing else. -/
theorem unpack_neg (x : Float) : (-x).toModel.unpack = x.toModel.unpack.neg := by
  change (Float.Model.pack x.toModel.unpack.neg).unpack = _
  cases hx : x.toModel.unpack with
  | notANumber =>
      rfl
  | infinity s =>
      exact unpack_pack_infinity (-s)
  | zero s =>
      cases s <;> rfl
  | finite s m e hp =>
      exact unpack_pack_finite hp (canonical_of_unpack hx)

theorem integer?_neg (x : Float) : integer? (-x) = (integer? x).map fun i => -i := by
  rw [integer?, integer?, scaled?, scaled?, unpack_neg]
  cases x.toModel.unpack with
  | finite s m e hp =>
      have hsign : (-s).apply (m : Int) = -s.apply (m : Int) := by
        cases s with
        | positive => rfl
        | negative => exact (neg_neg _).symm
      -- The bits behind the point are zeros on both sides or on neither.
      have hdvd {k : Int} : (-s.apply (m : Int)) % k = 0 ↔ s.apply (m : Int) % k = 0 := by
        rw [← Int.dvd_iff_emod_eq_zero, ← Int.dvd_iff_emod_eq_zero, Int.dvd_neg]
      simp only [UnpackedFloat.neg, hsign, hdvd]
      split
      · simp
      · split
        · rename_i hmod
          rw [Int.neg_ediv_of_dvd (Int.dvd_of_emod_eq_zero hmod)]
          rfl
        · rfl
  | _ =>
      rfl

theorem neg_neg_number (x : Float) : -(-x) = x := by
  apply eq_of_unpack_eq
  rw [unpack_neg, unpack_neg]
  cases x.toModel.unpack with
  | notANumber =>
      rfl
  | infinity s | zero s | finite s m e hp =>
      cases s <;> rfl

/-! ## Integers as numbers -/

theorem isInteger_of_integer? (h : integer? x = some i) : isInteger x = true := by
  rw [isInteger, h]
  rfl

theorem toInt_of_integer? (h : integer? x = some i) : toInt x = i := by
  rw [toInt, h]
  rfl

/-- A positive number that is an integer is this integer in value, a natural number. -/
theorem value_of_integer? {m : Nat} {e : Int} {hp : 0 < m}
    (hx : x.toModel.unpack = .finite .positive m e hp) (h : integer? x = some i) :
    ∃ n : Nat, i = n ∧ (m * 2 ^ e : ℚ) = n := by
  obtain ⟨n, hn, hvalue⟩ := NDArray.integer?_positive hx (isInteger_of_integer? h)
  exact ⟨n, Option.some.inj (h.symm.trans hn), hvalue⟩

/-- The integer part of an integer is the integer. -/
theorem truncate_of_integer? (h : integer? x = some i) : truncate x = i := by
  rw [integer?] at h
  rw [truncate]
  cases hs : scaled? x with
  | none =>
      simp [hs] at h
  | some s =>
      rw [hs] at h
      simp only at h ⊢
      split at h
      · rename_i hexponent
        rw [if_pos hexponent]
        exact Option.some.inj h
      · rename_i hexponent
        rw [if_neg hexponent]
        -- With a negative exponent nothing is cut off, since the division leaves no rest.
        split at h
        · rename_i hmod
          rw [Int.tdiv_eq_ediv_of_dvd (Int.dvd_of_emod_eq_zero hmod)]
          exact Option.some.inj h
        · cases h

/-- A natural number is given back by its double. -/
theorem toNat_ofNat (h : n < 2 ^ 53) : toNat (Float.ofNat n) = n := by
  have hamount := (NDArray.amount_of_isDimension (NDArray.isDimension_ofNat h)).2
  have hn : ((toNat (Float.ofNat n) : ℚ) : WithTop ℚ) = (n : ℚ) :=
    amount_unique hamount (amount_ofNat h)
  exact_mod_cast hn

theorem integer?_ofNat (h : n < 2 ^ 53) : integer? (Float.ofNat n) = some (n : Int) := by
  have hint := (NDArray.amount_of_isDimension (NDArray.isDimension_ofNat h)).1
  rwa [toNat_ofNat h] at hint

/-- A small integer is stored exactly. -/
theorem integer?_ofInt (h : i.natAbs < 2 ^ 53) : integer? (Float.ofInt i) = some i := by
  cases i with
  | ofNat n =>
      exact integer?_ofNat h
  | negSucc n =>
      change integer? (-(Float.ofNat (n + 1))) = _
      rw [integer?_neg, integer?_ofNat (by simpa using h)]
      rfl

/-- A natural number gives back the positive number it is read from, however large that is. -/
theorem ofNat_of_unpack {m : Nat} {e : Int} {hp : 0 < m}
    (hx : x.toModel.unpack = .finite .positive m e hp) (hvalue : (m * 2 ^ e : ℚ) = n) :
    Float.ofNat n = x := by
  have hc := canonical_of_unpack hx
  have hn : 0 < n := by
    have : (0 : ℚ) < n := by
      rw [← hvalue]
      positivity
    exact_mod_cast this
  have hr : Rounds m e (n * 10 ^ (0 : Int) * 2 ^ (-e)) := by
    have hz : ((n : ℚ) * 10 ^ (0 : Int) * 2 ^ (-e)) = m := by
      rw [← hvalue, zpow_zero, mul_one, mul_assoc, ← zpow_add₀ (by norm_num), add_neg_cancel,
        zpow_zero, mul_one]
    rw [hz]
    exact rounds_self m e
  rw [ofNat_eq_nearest, nearest_eq hn hc hr]
  exact ofModel_pack_of_unpack hx

/-- The integer of a positive double has that double. -/
theorem ofInt_of_positive {m : Nat} {e : Int} {hp : 0 < m}
    (hx : x.toModel.unpack = .finite .positive m e hp) (h : integer? x = some i) :
    Float.ofInt i = x ∧ 0 < i := by
  obtain ⟨n, rfl, hvalue⟩ := value_of_integer? hx h
  have hpos : (0 : ℚ) < n := by
    rw [← hvalue]
    positivity
  exact ⟨ofNat_of_unpack hx hvalue, by exact_mod_cast hpos⟩

/-- The negative of a negative number is positive, and it is the negative integer. -/
theorem ofInt_of_negative {m : Nat} {e : Int} {hp : 0 < m}
    (hx : x.toModel.unpack = .finite .negative m e hp) (h : integer? x = some i) :
    Float.ofInt (-i) = -x ∧ i < 0 := by
  have hx' : (-x).toModel.unpack = .finite .positive m e hp := by
    rw [unpack_neg, hx]
    rfl
  have hi : integer? (-x) = some (-i) := by
    rw [integer?_neg, h]
    rfl
  obtain ⟨hnumber, hpos⟩ := ofInt_of_positive hx' hi
  exact ⟨hnumber, neg_pos.mp hpos⟩

/-- The number of the integer that a number is, is this number, up to the sign of a zero. -/
theorem ofInt_of_integer? (h : integer? x = some i) : Float.ofInt i = unsignedZero x := by
  cases hx : x.toModel.unpack with
  | zero s =>
      have hzero : integer? x = some 0 := by
        simp [integer?, scaled?, hx]
      cases h.symm.trans hzero
      exact (unsignedZero_of_zero hx).symm
  | finite s m e hp =>
      -- A number with a mantissa has no sign to lose.
      have hself : unsignedZero x = x := by
        rw [unsignedZero, if_neg (by simp [isNegativeZero, hx])]
      rw [hself]
      cases s with
      | positive =>
          exact (ofInt_of_positive hx h).1
      | negative =>
          obtain ⟨hnumber, hneg⟩ := ofInt_of_negative hx h
          obtain ⟨k, rfl⟩ : ∃ k : Nat, i = Int.negSucc k := Int.eq_negSucc_of_lt_zero hneg
          calc Float.ofInt (Int.negSucc k) = -(Float.ofInt (-Int.negSucc k)) := rfl
            _ = -(-x) := by rw [hnumber]
            _ = x := neg_neg_number x
  | _ =>
      simp [integer?, scaled?, hx] at h

/-- A natural number is not below zero. -/
theorem not_lt_zero_of_integer? (h : integer? x = some (n : Int)) : ¬ x < 0 := by
  rw [lt_iff_compare, unpack_zero]
  cases hx : x.toModel.unpack with
  | zero s =>
      simp [UnpackedFloat.compare]
  | finite s m e hp =>
      cases s with
      | positive =>
          simp [UnpackedFloat.compare]
      | negative =>
          have hneg := (ofInt_of_negative hx h).2
          omega
  | _ =>
      simp [integer?, scaled?, hx] at h

end Number

namespace NDArray

/-- Dimensions are natural numbers, and the other way round. -/
theorem isDimension_iff {d : Float} :
    isDimension d = true ↔ ∃ n : Nat, Number.integer? d = some (n : Int) := by
  constructor
  · intro h
    exact ⟨_, (amount_of_isDimension h).1⟩
  · rintro ⟨n, hn⟩
    rw [isDimension, Number.isInteger_of_integer? hn,
    decide_eq_false (Number.not_lt_zero_of_integer? hn)]
    rfl

end NDArray
end LineRpc
