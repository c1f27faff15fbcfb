import LineRpc.Proofs.Number.Rounding

/-!
# Shortest — the decimal of a number rounds back to it

The digits are looked for on ever finer grids of powers of ten. Whatever is found lies in the
interval of the number, and the grid sixteen places below the leading digit is fine enough for one
of the two neighbours of the number to lie there.

* `inside_iff`       : the test on the grid is the rounding interval
* `leading_le`       : the leading digit is not placed too high
* `hit?_leading`     : a fine grid has a hit
* `rounds_shortest`  : the shortest decimal rounds back
-/

namespace LineRpc
namespace Number

variable {m d : Nat} {e k : Int}

/-! ## Counting digits -/

theorem digitCount_pos (n : Nat) : 0 < digitCount n :=
  Nat.length_toDigits_pos

/-- A number is below ten to the number of its digits. -/
theorem lt_pow_digitCount (n : Nat) : n < 10 ^ digitCount n :=
  (Nat.length_toDigits_le_iff (by norm_num) (digitCount_pos n)).mp le_rfl

theorem pow_digitCount_le {n : Nat} (h : 0 < n) : 10 ^ (digitCount n - 1) ≤ n := by
  by_contra hlt
  have hone : 0 < digitCount n - 1 := by
    by_contra h₀
    rw [show digitCount n - 1 = 0 by omega, pow_zero] at hlt
    omega
  have hle : digitCount n ≤ digitCount n - 1 :=
    (Nat.length_toDigits_le_iff (by norm_num) hone).mpr (by omega)
  omega

/-- A power with any exponent, as a fraction of natural powers. -/
theorem zpow_eq_div (b : ℚ) (x : Int) : b ^ x = b ^ x.toNat / b ^ (-x).toNat := by
  rcases le_total 0 x with h | h
  · rcases Int.eq_ofNat_of_zero_le h with ⟨n, rfl⟩
    simp
  · rcases Int.eq_ofNat_of_zero_le (show 0 ≤ -x by omega) with ⟨n, hn⟩
    rw [show x = -(n : Int) by omega]
    simp

/-- The leading digit of `m * 2 ^ e` is not placed too high. -/
theorem leading_le (hm : 0 < m) (e : Int) : (10 : ℚ) ^ leading m e ≤ m * 2 ^ e := by
  obtain ⟨num, hnum⟩ : ∃ num, m * Nat.pow 2 e.toNat = num := ⟨_, rfl⟩
  obtain ⟨den, hden⟩ : ∃ den, Nat.pow 2 (-e).toNat = den := ⟨_, rfl⟩
  have hnum₀ : 0 < num := by
    rw [← hnum]
    exact Nat.mul_pos hm (Nat.pow_pos (by norm_num))
  have hden₀ : 0 < den := by
    rw [← hden]
    exact Nat.pow_pos (by norm_num)
  have hdenQ : (0 : ℚ) < den := by exact_mod_cast hden₀
  have hvalue : (m : ℚ) * 2 ^ e = num / den := by
    rw [zpow_eq_div, ← hnum, ← hden]
    push_cast [Nat.pow_eq]
    ring
  rw [hvalue, leading, hnum, hden]
  -- The difference of the lengths is the exponent or one too high, which is tested.
  generalize hguess : (digitCount num - digitCount den : Int) = guess
  split
  · rename_i hle
    rw [zpow_eq_div, div_le_div_iff₀ (by positivity) hdenQ, mul_comm]
    exact_mod_cast hle
  · have hlow : (10 : ℚ) ^ (digitCount num - 1) ≤ num := by exact_mod_cast pow_digitCount_le hnum₀
    have hhigh : (den : ℚ) ≤ 10 ^ digitCount den := by
      exact_mod_cast (lt_pow_digitCount den).le
    have hsplit : guess - 1 = ((digitCount num - 1 : Nat) : Int) - (digitCount den : Nat) := by
      have := digitCount_pos num
      omega
    rw [hsplit, zpow_sub₀ (by norm_num), zpow_natCast, zpow_natCast]
    gcongr

/-! ## The grid of a power of ten -/

/-- The factor that brings quarters of the last place to the common measure. -/
def gridScale (e k : Int) : Nat :=
  Nat.pow 2 (e - 2).toNat * Nat.pow 10 (-k).toNat

/-- A step of the grid in the common measure. -/
def gridUnit (e k : Int) : Nat :=
  Nat.pow 2 (2 - e).toNat * Nat.pow 10 k.toNat

/-- Whether a point of the grid reads back as the number. -/
def inside (m : Nat) (e k : Int) (d : Nat) : Bool :=
  if m % 2 = 0 then
    (4 * m - gapBelow m e) * gridScale e k ≤ d * gridUnit e k &&
      d * gridUnit e k ≤ (4 * m + 2) * gridScale e k
  else
    (4 * m - gapBelow m e) * gridScale e k < d * gridUnit e k &&
      d * gridUnit e k < (4 * m + 2) * gridScale e k

/-- The point of the grid at the number or below it. -/
def pointBelow (m : Nat) (e k : Int) : Nat :=
  4 * m * gridScale e k / gridUnit e k

theorem gridScale_pos (e k : Int) : 0 < gridScale e k :=
  Nat.mul_pos (Nat.pow_pos (by norm_num)) (Nat.pow_pos (by norm_num))

theorem gridUnit_pos (e k : Int) : 0 < gridUnit e k :=
  Nat.mul_pos (Nat.pow_pos (by norm_num)) (Nat.pow_pos (by norm_num))

/-- A step of the grid is `10 ^ k`. -/
theorem gridUnit_eq (e k : Int) :
    (gridUnit e k : ℚ) = 4 * (10 ^ k * 2 ^ (-e)) * gridScale e k := by
  have htwo : (2 : ℚ) ^ (-e) * 4 = 2 ^ (2 - e).toNat / 2 ^ (e - 2).toNat := by
    have h := zpow_eq_div 2 (2 - e)
    rw [neg_sub] at h
    rw [← h, show (2 : Int) - e = -e + 2 by ring, zpow_add₀ (by norm_num)]
    norm_num
  have hten : (10 : ℚ) ^ k = 10 ^ k.toNat / 10 ^ (-k).toNat := zpow_eq_div 10 k
  have hsplit : (4 : ℚ) * (10 ^ k * 2 ^ (-e)) * gridScale e k =
      (2 ^ (-e) * 4) * 10 ^ k * gridScale e k := by ring
  rw [hsplit, htwo, hten, gridUnit, gridScale]
  push_cast [Nat.pow_eq]
  field_simp

theorem cast_gridUnit (n : Nat) (e k : Int) :
    ((n * gridUnit e k : Nat) : ℚ) = 4 * (n * 10 ^ k * 2 ^ (-e)) * gridScale e k := by
  push_cast
  rw [gridUnit_eq]
  ring

theorem gapBelow_le (hm : 0 < m) (e : Int) : gapBelow m e ≤ 4 * m := by
  have := gapBelow_le_two m e
  omega

/-- The test on the grid is the interval of the number. -/
theorem inside_iff (hm : 0 < m) :
    inside m e k d = true ↔ Rounds m e (d * 10 ^ k * 2 ^ (-e)) := by
  have hs : (0 : ℚ) < gridScale e k := by exact_mod_cast gridScale_pos e k
  obtain ⟨z, hz⟩ : ∃ z : ℚ, d * 10 ^ k * 2 ^ (-e) = z := ⟨_, rfl⟩
  have hpoint : ((d * gridUnit e k : Nat) : ℚ) = 4 * z * gridScale e k := by
    rw [cast_gridUnit, hz]
  have hlow : (((4 * m - gapBelow m e) * gridScale e k : Nat) : ℚ) =
      (4 * m - gapBelow m e) * gridScale e k := by
    rw [Nat.cast_mul, Nat.cast_sub (gapBelow_le hm e)]
    push_cast
    ring
  have hhigh : (((4 * m + 2) * gridScale e k : Nat) : ℚ) = (4 * m + 2) * gridScale e k := by
    push_cast
    ring
  rw [hz, inside, Rounds]
  -- An even mantissa takes in the ends of its interval.
  rcases Nat.mod_two_eq_zero_or_one m with h₀ | h₀
  · rw [if_pos h₀, Bool.and_eq_true, decide_eq_true_eq, decide_eq_true_eq,
      ← Nat.cast_le (α := ℚ), ← Nat.cast_le (α := ℚ), hpoint, hlow, hhigh,
      mul_le_mul_iff_left₀ hs, mul_le_mul_iff_left₀ hs]
    constructor
    · rintro ⟨h₁, h₂⟩
      exact ⟨by linarith, by linarith, fun ho => by omega⟩
    · rintro ⟨h₁, h₂, -⟩
      exact ⟨by linarith, by linarith⟩
  · rw [if_neg (by omega), Bool.and_eq_true, decide_eq_true_eq, decide_eq_true_eq,
      ← Nat.cast_lt (α := ℚ), ← Nat.cast_lt (α := ℚ), hpoint, hlow, hhigh,
      mul_lt_mul_iff_left₀ hs, mul_lt_mul_iff_left₀ hs]
    constructor
    · rintro ⟨h₁, h₂⟩
      exact ⟨by linarith, by linarith, fun _ => ⟨by linarith, by linarith⟩⟩
    · rintro ⟨-, -, h₃⟩
      have ⟨h₁, h₂⟩ := h₃ h₀
      exact ⟨by linarith, by linarith⟩

/-! ## Hits -/

theorem hit?_eq (m : Nat) (e k : Int) :
    hit? m e k =
      match inside m e k (pointBelow m e k), inside m e k (pointBelow m e k + 1) with
      | true, true =>
          match compare (2 * (4 * m * gridScale e k))
            ((2 * pointBelow m e k + 1) * gridUnit e k) with
          | .lt => some (pointBelow m e k)
          | .gt => some (pointBelow m e k + 1)
          | .eq =>
              some (if pointBelow m e k % 2 = 0 then pointBelow m e k else pointBelow m e k + 1)
      | true, false => some (pointBelow m e k)
      | false, true => some (pointBelow m e k + 1)
      | false, false => none :=
  rfl

/-- What is hit lies in the interval that rounds to the number. -/
theorem inside_of_hit? (h : hit? m e k = some d) : inside m e k d = true := by
  rw [hit?_eq] at h
  -- A hit is one of the two neighbours, and the one that is taken lies inside.
  split at h
  · rename_i h₀ h₁
    split at h
    · cases h
      exact h₀
    · cases h
      exact h₁
    · cases h
      split
      · exact h₀
      · exact h₁
  · rename_i h₀ _
    cases h
    exact h₀
  · rename_i _ h₁
    cases h
    exact h₁
  · cases h

/-- If a neighbour on the grid lies inside, one is hit. -/
theorem hit?_ne_none
    (h : inside m e k (pointBelow m e k) = true ∨ inside m e k (pointBelow m e k + 1) = true) :
    hit? m e k ≠ none := by
  rw [hit?_eq]
  split
  · split <;> simp
  · simp
  · simp
  · rename_i h₀ h₁
    simp [h₀, h₁] at h

/-- The number lies between two neighbouring points of the grid. -/
theorem pointBelow_bounds (m : Nat) (e k : Int) :
    (pointBelow m e k : ℚ) * 10 ^ k * 2 ^ (-e) ≤ m ∧
      (m : ℚ) < (pointBelow m e k + 1 : Nat) * 10 ^ k * 2 ^ (-e) := by
  have hs : (0 : ℚ) < gridScale e k := by exact_mod_cast gridScale_pos e k
  have hle : pointBelow m e k * gridUnit e k ≤ 4 * m * gridScale e k :=
    Nat.div_mul_le_self _ _
  have hlt : 4 * m * gridScale e k < (pointBelow m e k + 1) * gridUnit e k :=
    Nat.lt_mul_of_div_lt (Nat.lt_succ_self _) (gridUnit_pos e k)
  rw [← Nat.cast_le (α := ℚ), cast_gridUnit] at hle
  rw [← Nat.cast_lt (α := ℚ), cast_gridUnit] at hlt
  push_cast at hle hlt ⊢
  rw [mul_le_mul_iff_left₀ hs] at hle
  rw [mul_lt_mul_iff_left₀ hs] at hlt
  exact ⟨by linarith, by linarith⟩

/-- A grid finer than the interval of the number has a point in it. -/
theorem hit?_of_fine (hm : 0 < m) (hk : (10 : ℚ) ^ k * 2 ^ (-e) < gapBelow m e / 4 + 1 / 2) :
    hit? m e k ≠ none := by
  apply hit?_ne_none
  rw [inside_iff hm, inside_iff hm]
  rcases pointBelow_bounds m e k with ⟨hle, hlt⟩
  have hstep : ((pointBelow m e k + 1 : Nat) : ℚ) * 10 ^ k * 2 ^ (-e) =
      pointBelow m e k * 10 ^ k * 2 ^ (-e) + 10 ^ k * 2 ^ (-e) := by
    push_cast
    ring
  have hg : (0 : ℚ) ≤ gapBelow m e := by positivity
  -- If the point below the number is outside of the interval, the next one is in its upper half.
  rcases lt_or_ge ((m : ℚ) - gapBelow m e / 4) (pointBelow m e k * 10 ^ k * 2 ^ (-e)) with h | h
  · exact Or.inl ⟨by linarith, by linarith, fun _ => ⟨by linarith, by linarith⟩⟩
  · exact Or.inr ⟨by linarith, by linarith, fun _ => ⟨by linarith, by linarith⟩⟩

/-- Sixteen places below the leading digit the grid is fine enough. -/
theorem hit?_leading (hc : Canonical m e) : hit? m e (leading m e - 16) ≠ none := by
  refine hit?_of_fine hc.pos ?_
  have hstep : (10 : ℚ) ^ (leading m e - 16) * 2 ^ (-e) ≤ m / 10 ^ 16 := by
    have hpos : (0 : ℚ) < 2 ^ e := by positivity
    calc (10 : ℚ) ^ (leading m e - 16) * 2 ^ (-e)
        = 10 ^ leading m e / 2 ^ e / 10 ^ 16 := by
          rw [zpow_sub₀ (by norm_num), zpow_neg]
          ring
      _ ≤ m * 2 ^ e / 2 ^ e / 10 ^ 16 := by
          gcongr
          exact leading_le hc.pos e
      _ = m / 10 ^ 16 := by rw [mul_div_cancel_right₀ _ hpos.ne']
  have hlt : (m : ℚ) < 2 ^ 53 := by exact_mod_cast hc.lt
  refine lt_of_le_of_lt hstep ?_
  rw [gapBelow_eq]
  split
  · -- Below a power of two the gap is half as wide, but the mantissa is the least one.
    rename_i hm
    rw [hm.1]
    norm_num
  · rw [div_lt_iff₀ (by norm_num)]
    push_cast
    linarith

/-! ## The shortest decimal -/

/-- Dropping zeros at the end does not change the value. -/
theorem strip_value (fuel : Nat) (d : Decimal) :
    ((d.strip fuel).digits : ℚ) * 10 ^ (d.strip fuel).exponent = d.digits * 10 ^ d.exponent := by
  induction fuel generalizing d with
  | zero =>
      rfl
  | succ fuel ih =>
      rw [Decimal.strip]
      split
      · rename_i h
        -- A last digit of zero counts as much in the exponent.
        have hten : (d.digits : ℚ) = 10 * (d.digits / 10 : Nat) := by
          have : d.digits = 10 * (d.digits / 10) := by omega
          exact_mod_cast this
        rw [ih, hten, zpow_add₀ (by norm_num)]
        ring
      · rfl

/-- The shortest decimal lies in the interval of the number it is written for. -/
theorem rounds_shortest (hc : Canonical m e) :
    Rounds m e ((shortest m e).digits * 10 ^ (shortest m e).exponent * 2 ^ (-e)) := by
  rw [shortest]
  split
  · rename_i d hd
    rcases List.exists_of_findSome?_eq_some hd with ⟨i, -, hi⟩
    rcases Option.map_eq_some_iff.mp hi with ⟨n, hn, rfl⟩
    rw [strip_value]
    exact (inside_iff hc.pos).mp (inside_of_hit? hn)
  · -- At the latest the grid sixteen places down has a hit.
    rename_i hnone
    have h := List.findSome?_eq_none_iff.mp hnone 16 (List.mem_range.mpr (by norm_num [maxDigits]))
    exact absurd (Option.map_eq_none_iff.mp h) (hit?_leading hc)

theorem shortest_digits_pos (hc : Canonical m e) : 0 < (shortest m e).digits := by
  by_contra h
  have hlow := (nearestEven_of_rounds (rounds_shortest hc)).1
  have hm : (1 : ℚ) ≤ m := by exact_mod_cast hc.pos
  rw [Nat.eq_zero_of_not_pos h] at hlow
  norm_num at hlow
  linarith

end Number
end LineRpc
