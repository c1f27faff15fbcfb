import LineRpc.Proofs.Number.Integers

/-!
# Safe — integers that are kept as numbers, and those beyond

An integer below `2 ^ 53` in size is a number as it is. A larger one is rounded when it becomes a
number, and a very large one becomes infinite. Rounding keeps the order, and `2 ^ 53` is rounded to
itself, so nothing that is too large comes back as a safe integer: it makes no difference whether
the safe range is asked for before rounding or after it.

* `amount_ofNat_large` : a large natural number is rounded once
* `amount_of_integer?` : an amount that is an integer
* `large_of_ofNat`     : what is large stays large
* `isSafe_ofInt`       : the safe integers, asked for after rounding
-/

namespace LineRpc
namespace Number

open Float.Model Float.Model.UnpackedFloat

variable {x : Float} {i : Int} {n : Nat}

/-! ## Large natural numbers -/

/-- A large natural number is written with fifty-three bits behind the point and then rounded. -/
theorem ofNat_large (hn : 2 ^ 53 ≤ n) :
    Float.ofNat n = Float.ofModel (Float.Model.pack
      (roundWithAccuracy Format.binary64 .positive (n * 2 ^ 53) (-53) .exact)) := by
  -- Large integers do not take the short way through a table of powers.
  have hslow : ¬ (n < 2 ^ 53 ∧ (0 : Int).natAbs ≤ 22) := by
    intro h
    exact absurd h.1 (not_lt.mpr hn)
  have hmantissa : Format.binary64.mantissaBits = 53 := by decide
  have hbits : (2 : Int) ^ Format.binary64.exponentBits = 2048 := by decide
  have hrounded : UnpackedFloat.ofScientific Format.binary64 n 0 =
      roundWithAccuracy Format.binary64 .positive (n * 2 ^ 53) (-53) .exact := by
    rw [UnpackedFloat.ofScientific, dif_neg (by omega), if_neg (by omega), if_neg (by omega),
      if_pos le_rfl]
    have hpower : n * 2 ^ 53 * 10 ^ (0 : Int).toNat = n * 2 ^ 53 := Nat.mul_one _
    simp only [UnpackedFloat.mul, hmantissa, Nat.shiftLeft_eq, hpower]
    rfl
  have hmodel : Float.ofNat n =
      Float.ofModel (Float.Model.pack (UnpackedFloat.ofScientific Format.binary64 n 0)) := by
    rw [ofNat_eq_nearest, Json.Token.nearest, Float.ofScientific, dif_neg hslow]
    rfl
  rw [hmodel, hrounded]

/-- A large natural number is rounded once, and what is too large is infinite. -/
theorem amount_ofNat_large (hn : 2 ^ 53 ≤ n) :
    ∃ r, RoundsTo n r ∧ Amount (Float.ofNat n) (bounded r) := by
  -- A mantissa with 53 zeros behind it is long enough to be rounded.
  have hvalue : ((n * 2 ^ 53 : Nat) : ℚ) * 2 ^ (-53 : Int) = n := by
    push_cast
    rw [mul_assoc, zpow_neg]
    norm_num
  have hlong : 2 ^ 52 ≤ n * 2 ^ 53 := by omega
  have hlarge : (1 : ℚ) ≤ n := by
    have hpos : 1 ≤ n := le_trans (by norm_num) hn
    exact_mod_cast hpos
  obtain ⟨m, e, hp, hlow, hhigh, he, hround, hrounds⟩ :=
    roundWithAccuracy_long (s := .positive) (E := -53) hlong (by rw [hvalue]; exact hlarge)
  rw [hvalue] at hrounds
  have hone : (1 : ℚ) ≤ m * 2 ^ e := by
    have hkept : RoundsTo 1 1 := by exact_mod_cast roundsTo_ofNat (n := 1) (by norm_num) (by norm_num)
    exact roundsTo_mono hkept hrounds hlarge
  refine ⟨m * 2 ^ e, hrounds, ?_⟩
  rw [ofNat_large hn, hround]
  exact amount_pack hlow hhigh he hone

/-! ## Back to integers -/

/-- An amount that is an integer is as much as that. -/
theorem amount_of_integer? {v : WithTop ℚ} (hx : Amount x v) (h : integer? x = some i) :
    v = ((i : ℚ) : WithTop ℚ) := by
  rcases amount_cases hx with ⟨rfl, s, hs⟩ | ⟨m, e, hp, hm, rfl, -⟩ | ⟨-, hinf⟩
  · have hzero : integer? x = some 0 := by
      simp [integer?, scaled?, hs]
    cases h.symm.trans hzero
    norm_num
  · obtain ⟨n, rfl, hvalue⟩ := value_of_integer? hm h
    rw [hvalue]
    norm_num
  · simp [integer?, scaled?, hinf] at h

/-- The number of a large natural number is no small integer: rounding keeps the order, and `2 ^ 53`
stays where it is. -/
theorem large_of_ofNat (hn : 2 ^ 53 ≤ n) (h : integer? (Float.ofNat n) = some i) :
    (2 ^ 53 : Int) ≤ i := by
  obtain ⟨r, hrounds, hamount⟩ := amount_ofNat_large hn
  have hbound : (2 ^ 53 : ℚ) ≤ n := by exact_mod_cast hn
  have hrounded : ((2 ^ 53 : ℚ) : WithTop ℚ) ≤ bounded r := by
    have hkept := bounded_mono (roundsTo_mono roundsTo_bound hrounds hbound)
    simpa only [bounded_of_lt le_rfl] using hkept
  rw [amount_of_integer? hamount h] at hrounded
  exact_mod_cast hrounded

/-! ## The safe range -/

theorem isSafe_neg (x : Float) : isSafe (-x) = isSafe x := by
  rw [isSafe, isSafe, integer?_neg]
  cases integer? x with
  | none =>
      rfl
  | some i =>
      simp only [Option.map_some, Int.natAbs_neg]

/-- Natural numbers are safe below 2^53. -/
theorem isSafe_ofNat (n : Nat) : isSafe (Float.ofNat n) = true ↔ n < 2 ^ 53 := by
  have hmax : maxSafe.toNat = 2 ^ 53 - 1 := by decide
  rw [isSafe, hmax]
  rcases lt_or_ge n (2 ^ 53) with hn | hn
  · have hsmall : n ≤ 2 ^ 53 - 1 := by omega
    refine iff_of_true ?_ hn
    rw [integer?_ofNat hn]
    exact decide_eq_true hsmall
  · -- Rounding cannot lead back into the safe range.
    refine iff_of_false ?_ (not_lt.mpr hn)
    cases hint : integer? (Float.ofNat n) with
    | none =>
        exact Bool.false_ne_true
    | some i =>
        have hlarge := large_of_ofNat hn hint
        rw [decide_eq_true_iff]
        omega

/-- An integer is safe as a number exactly if it is below `2 ^ 53` in size. -/
theorem isSafe_ofInt (i : Int) : isSafe (Float.ofInt i) = true ↔ i.natAbs < 2 ^ 53 := by
  cases i with
  | ofNat n =>
      exact isSafe_ofNat n
  | negSucc n =>
      change isSafe (-(Float.ofNat (n + 1))) = true ↔ n + 1 < 2 ^ 53
      rw [isSafe_neg, isSafe_ofNat]

end Number
end LineRpc
