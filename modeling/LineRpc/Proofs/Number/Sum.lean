import LineRpc.Proofs.Number.Integers

/-!
# Sum — sums of numbers that are one or more

A sum of two numbers that are one or more is rounded once, as a product is. So counting on by one is
exact up to `2 ^ 53`, and there it stops: the number after `2 ^ 53` lies in the middle between two
numbers, and it is rounded back to the even one of them.

* `amount_add`        : a sum is rounded once
* `amount_add_one`    : counting on below `2 ^ 53`
* `amount_bound_add`  : counting on at `2 ^ 53`
* `le_iff_of_amount`  : the order of two amounts, equality included
-/

namespace LineRpc
namespace Number

open Float.Model Float.Model.UnpackedFloat

variable {x y : Float} {n : Nat}

/-! ## The sum of the model -/

theorem add_eq (x y : Float) :
    x + y = Float.ofModel
      (Float.Model.pack (UnpackedFloat.add Format.binary64 x.toModel.unpack y.toModel.unpack)) :=
  rfl

/-- A smaller exponent makes a larger mantissa, and the number stays the same. -/
theorem aligned_value {m : Nat} {e t : Int} (h : t ≤ e) :
    ((decreaseExponent m e t).1 : ℚ) * 2 ^ t = m * 2 ^ e ∧ m ≤ (decreaseExponent m e t).1 := by
  obtain ⟨k, rfl⟩ : ∃ k : Nat, e = t + k := Int.le.dest h |>.imp fun _ hk => hk.symm
  have hshift : (decreaseExponent m (t + k) t).1 = m * 2 ^ k := by
    simp only [decreaseExponent, add_sub_cancel_left, Int.toNat_natCast, Nat.shiftLeft_eq]
  rw [hshift]
  constructor
  · rw [zpow_add₀ (by norm_num), zpow_natCast]
    push_cast
    ring
  · exact Nat.le_mul_of_pos_right m (Nat.two_pow_pos k)

/-- A long mantissa needs no more bits before it is rounded. -/
theorem round_long {s : Sign} {M : Nat} {E : Int} (hM : 2 ^ 52 ≤ M) :
    UnpackedFloat.round Format.binary64 s M E =
      roundWithAccuracy Format.binary64 s M E .exact := by
  have hlog : 52 ≤ M.log2 := (Nat.le_log2 (by omega)).mpr hM
  have htarget : (E - Format.binary64.targetExponent (totalExponent M E)).toNat = 0 := by
    rw [targetExponent_eq, totalExponent]
    omega
  simp only [UnpackedFloat.round, decreaseExponent, htarget, Nat.shiftLeft_zero, Nat.cast_zero,
    sub_zero]

/-- Positive numbers are added in units of the smaller exponent. -/
theorem add_finite_eq {m n : Nat} {e u : Int} (hm : 0 < m) (hn : 0 < n) :
    UnpackedFloat.add Format.binary64 (.finite .positive m e hm) (.finite .positive n u hn) =
      UnpackedFloat.round Format.binary64 .positive
        ((decreaseExponent m e (min e u)).1 + (decreaseExponent n u (min e u)).1) (min e u) := by
  have hpos : 0 < (decreaseExponent m e (min e u)).1 :=
    lt_of_lt_of_le hm (aligned_value (min_le_left e u)).2
  generalize hM : (decreaseExponent m e (min e u)).1 = M at hpos
  generalize hN : (decreaseExponent n u (min e u)).1 = N
  have hcompare : compare ((M : Int) + N) 0 = .gt := by
    rw [Int.compare_eq_gt]
    omega
  have hnat : ((M : Int) + N).toNat = M + N := Int.toNat_natCast (M + N)
  simp only [UnpackedFloat.add, hM, hN, Sign.apply, UnpackedFloat.normalize, hcompare, hnat]

/-! ## Amounts -/

/-- A sum of numbers that are one or more is rounded once, and what is too large is infinite. -/
theorem amount_add {v w : ℚ} (hx : Amount x v) (hy : Amount y w) (hv : 1 ≤ v) (hw : 1 ≤ w) :
    ∃ r, RoundsTo (v + w) r ∧ Amount (x + y) (bounded r) := by
  obtain ⟨m, e, hm, hunpack, rfl, hfull⟩ := amount_parts hx hv
  obtain ⟨n, u, hn, hunpack', rfl, -⟩ := amount_parts hy hw
  obtain ⟨hleft, hlong⟩ := aligned_value (m := m) (min_le_left e u)
  obtain ⟨hright, -⟩ := aligned_value (m := n) (min_le_right e u)
  have hsum := add_finite_eq (e := e) (u := u) hm hn
  -- From here on the sum has one mantissa, in units of the smaller exponent.
  generalize (decreaseExponent m e (min e u)).1 = M at hleft hlong hsum
  generalize (decreaseExponent n u (min e u)).1 = N at hright hsum
  have hvalue : ((M + N : Nat) : ℚ) * 2 ^ min e u = m * 2 ^ e + n * 2 ^ u := by
    rw [← hleft, ← hright]
    push_cast
    ring
  have hone : (1 : ℚ) ≤ ((M + N : Nat) : ℚ) * 2 ^ min e u := by
    rw [hvalue]
    linarith
  obtain ⟨k, t, hk, hlow, hhigh, ht, hround, hrounds⟩ :=
    roundWithAccuracy_long (s := .positive) (by omega : 2 ^ 52 ≤ M + N) hone
  have hpacked : x + y = Float.ofModel (Float.Model.pack (.finite .positive k t hk)) := by
    rw [add_eq, hunpack, hunpack', hsum, round_long (by omega), hround]
  rw [hvalue] at hrounds hone
  have hleast : (1 : ℚ) ≤ k * 2 ^ t := by
    have hkept : RoundsTo 1 1 := by exact_mod_cast roundsTo_ofNat (n := 1) (by norm_num) (by norm_num)
    exact roundsTo_mono hkept hrounds hone
  exact ⟨k * 2 ^ t, hrounds, hpacked ▸ amount_pack hlow hhigh ht hleast⟩

/-- Below `2 ^ 53`, one more is counted exactly. -/
theorem amount_add_one (hx : Amount x (n : ℚ)) (hpos : 0 < n) (hlt : n < 2 ^ 53) :
    Amount (x + 1) ((n + 1 : Nat) : ℚ) := by
  have hn : (1 : ℚ) ≤ n := by exact_mod_cast hpos
  obtain ⟨r, hrounds, hsum⟩ := amount_add hx NDArray.amount_one hn le_rfl
  -- Up to the bound every natural number is kept.
  have hkept : RoundsTo (n + 1) (n + 1) := by
    rcases (Nat.succ_le_of_lt hlt).lt_or_eq with hsmall | hbound
    · exact_mod_cast roundsTo_ofNat n.succ_pos hsmall
    · have hvalue : (n : ℚ) + 1 = 2 ^ 53 := by exact_mod_cast hbound
      rw [hvalue]
      exact roundsTo_bound
  have hr : r = ((n + 1 : Nat) : ℚ) := by
    rw [roundsTo_unique hrounds hkept]
    push_cast
    rfl
  have hsize : r ≤ 2 ^ 53 := by
    rw [hr]
    exact_mod_cast hlt
  rwa [bounded_of_lt hsize, hr] at hsum

/-- One more than `2 ^ 53` lies in the middle between two numbers, and is rounded to the even one.
-/
theorem roundsTo_bound_add_one : RoundsTo (2 ^ 53 + 1) (2 ^ 53) := by
  refine ⟨2 ^ 52, 1, by norm_num, le_rfl, by norm_num, ⟨by norm_num, by norm_num, ?_⟩, by norm_num,
    by norm_num⟩
  intro hodd
  exact absurd hodd (by norm_num)

/-- At `2 ^ 53` counting on stops. -/
theorem amount_bound_add (hx : Amount x ((2 ^ 53 : Nat) : ℚ)) :
    Amount (x + 1) ((2 ^ 53 : Nat) : ℚ) := by
  obtain ⟨r, hrounds, hsum⟩ := amount_add hx NDArray.amount_one (by norm_num) le_rfl
  have hr : r = 2 ^ 53 := by
    refine roundsTo_unique hrounds ?_
    push_cast
    exact roundsTo_bound_add_one
  rw [hr, bounded_of_lt le_rfl] at hsum
  exact_mod_cast hsum

/-! ## The order -/

theorem le_iff_compare (x y : Float) :
    x ≤ y ↔ (x.toModel.unpack.compare y.toModel.unpack).any (·.isLE) = true := by
  change decide (x.toModel ≤ y.toModel) = true ↔ _
  rw [decide_eq_true_iff]
  rfl

/-- Comparing the other way round swaps the outcome. -/
theorem compare_swap (u v : UnpackedFloat) : v.compare u = (u.compare v).map Ordering.swap := by
  cases u with
  | finite s m e hm =>
      cases v with
      | finite t n f hn =>
          -- Only two finite numbers are compared by more than their signs.
          cases s <;> cases t <;>
            simp [UnpackedFloat.compare, Ordering.swap_then, Int.compare_swap, Nat.compare_swap]
      | infinity t =>
          cases s <;> cases t <;> rfl
      | zero t =>
          cases s <;> cases t <;> rfl
      | notANumber =>
          cases s <;> rfl
  | infinity s =>
      rcases v with (_ | _) | _ | (_ | _) | ⟨_ | _, n, f, hn⟩ <;> cases s <;> rfl
  | zero s =>
      rcases v with (_ | _) | _ | (_ | _) | ⟨_ | _, n, f, hn⟩ <;> cases s <;> rfl
  | notANumber =>
      rcases v with (_ | _) | _ | (_ | _) | ⟨_ | _, n, f, hn⟩ <;> rfl

/-- Of two numbers that compare, the one is not larger exactly if the other is not smaller. -/
theorem le_iff_not_lt {x y : Float} (h : x.toModel.unpack.compare y.toModel.unpack ≠ none) :
    x ≤ y ↔ ¬ y < x := by
  rw [le_iff_compare, lt_iff_compare, compare_swap x.toModel.unpack]
  cases hcompare : x.toModel.unpack.compare y.toModel.unpack with
  | none =>
      exact absurd hcompare h
  | some o =>
      cases o <;> simp

/-- Amounts compare, and in the order of what they are. -/
theorem le_iff_of_amount {v w : WithTop ℚ} (hx : Amount x v) (hy : Amount y w) : x ≤ y ↔ v ≤ w := by
  have hcompare : x.toModel.unpack.compare y.toModel.unpack ≠ none := by
    rcases amount_cases hx with ⟨-, s, hs⟩ | ⟨m, e, hp, hm, -⟩ | ⟨-, hinf⟩ <;>
      rcases amount_cases hy with ⟨-, t, ht⟩ | ⟨n, u, hq, hn, -⟩ | ⟨-, hinf'⟩ <;>
      simp_all [UnpackedFloat.compare]
  rw [le_iff_not_lt hcompare, lt_iff_of_amount hy hx, not_lt]

end Number
end LineRpc
