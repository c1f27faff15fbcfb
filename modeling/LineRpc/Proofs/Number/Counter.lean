import LineRpc.Number.Counter
import LineRpc.Proofs.Number.Sum

/-!
# Counter — counting stops at `2 ^ 53`

A counter that starts at a natural number runs through the natural numbers up to `2 ^ 53`, and there
it stands still. So a loop that counts from zero runs as often as its bound says if that is `2 ^ 53`
or less; from a larger bound on it never ends, however many steps are allowed.

* `ofNat_add_one`       : one more, below `2 ^ 53`
* `ofNat_bound_add_one` : one more, at `2 ^ 53`
* `iterate_add_one`     : the counter after some steps
* `countFrom_of_le`     : a bound that is reached
* `countFrom_of_lt`     : a bound that is not
* `below?_eq`           : how far a counter from zero on comes
-/

namespace LineRpc
namespace Number

variable {x : Float} {d i m n : Nat}

/-! ## One step -/

/-- A natural number is the only number that is as much, if it is not zero. -/
theorem ofNat_of_amount (hx : Amount x (n : ℚ)) (hn : 0 < n) : Float.ofNat n = x := by
  obtain ⟨m, e, hp, hunpack, hvalue, -⟩ := amount_parts hx (by exact_mod_cast hn)
  exact ofNat_of_unpack hunpack hvalue.symm

/-- Below `2 ^ 53` one more is the next natural number. -/
theorem ofNat_add_one (h : n < 2 ^ 53) : Float.ofNat n + 1 = Float.ofNat (n + 1) := by
  rcases n.eq_zero_or_pos with rfl | hpos
  · rfl
  · exact (ofNat_of_amount (amount_add_one (amount_ofNat h) hpos h) n.succ_pos).symm

/-- The bound itself is still counted exactly. -/
theorem amount_bound : Amount (Float.ofNat (2 ^ 53)) ((2 ^ 53 : Nat) : ℚ) := by
  have hbefore : 2 ^ 53 - 1 < 2 ^ 53 := by norm_num
  have hnext := amount_add_one (amount_ofNat hbefore) (by norm_num) hbefore
  rw [ofNat_add_one hbefore] at hnext
  exact hnext

/-- Whole numbers up to 2^53 are doubles. -/
theorem amount_ofNat_of_le (h : n ≤ 2 ^ 53) : Amount (Float.ofNat n) (n : ℚ) := by
  rcases h.lt_or_eq with hlt | rfl
  · exact amount_ofNat hlt
  · exact amount_bound

/-- At `2 ^ 53` the counter stands still. -/
theorem ofNat_bound_add_one : Float.ofNat (2 ^ 53) + 1 = Float.ofNat (2 ^ 53) :=
  (ofNat_of_amount (amount_bound_add amount_bound) (by norm_num)).symm

/-! ## The counter -/

/-- The counter after some steps: it goes up by one with each of them, until it is stuck. -/
theorem iterate_add_one (h : m ≤ 2 ^ 53) (k : Nat) :
    (fun i : Float => i + 1)^[k] (Float.ofNat m) = Float.ofNat (min (m + k) (2 ^ 53)) := by
  induction k with
  | zero =>
      rw [Nat.add_zero, min_eq_left h]
      rfl
  | succ k ih =>
      rw [Function.iterate_succ_apply', ih]
      rcases lt_or_ge (m + k) (2 ^ 53) with hlt | hge
      · rw [min_eq_left hlt.le, min_eq_left (by omega), ofNat_add_one hlt]
        rfl
      · rw [min_eq_right hge, min_eq_right (by omega), ofNat_bound_add_one]

/-- Natural numbers up to the bound compare with a number as they are. -/
theorem ofNat_lt_iff (hx : Amount x (d : ℚ)) (h : i ≤ 2 ^ 53) : Float.ofNat i < x ↔ i < d := by
  rw [lt_iff_of_amount (amount_ofNat_of_le h) hx]
  exact_mod_cast Iff.rfl

/-! ## Loops -/

/-- A bound that can be counted to is reached, after as many steps as are left. -/
theorem countFrom_of_le (hx : Amount x (d : ℚ)) (hd : d ≤ 2 ^ 53) {fuel seen : Nat} (hi : i ≤ d)
    (hfuel : d - i < fuel) : countFrom x fuel (Float.ofNat i) seen = some (seen + (d - i)) := by
  induction fuel generalizing i seen with
  | zero =>
      exact absurd hfuel (Nat.not_lt_zero _)
  | succ fuel ih =>
      rw [countFrom]
      rcases hi.lt_or_eq with hlt | rfl
      · rw [if_pos ((ofNat_lt_iff hx (by omega)).mpr hlt), ofNat_add_one (by omega),
          ih hlt (by omega)]
        congr 1
        omega
      · rw [if_neg fun h => lt_irrefl _ ((ofNat_lt_iff hx hd).mp h), Nat.sub_self, Nat.add_zero]

/-- A bound beyond `2 ^ 53` is not reached in any number of steps. -/
theorem countFrom_of_lt (hx : Amount x (d : ℚ)) (hd : 2 ^ 53 < d) (hi : i ≤ 2 ^ 53)
    (fuel seen : Nat) : countFrom x fuel (Float.ofNat i) seen = none := by
  induction fuel generalizing i seen with
  | zero =>
      rfl
  | succ fuel ih =>
      rw [countFrom, if_pos ((ofNat_lt_iff hx hi).mpr (by omega))]
      rcases hi.lt_or_eq with hlt | rfl
      · rw [ofNat_add_one hlt, ih hlt]
      · rw [ofNat_bound_add_one, ih le_rfl]

/-- A counter from zero on comes as far as its bound says, or never there. -/
theorem below?_eq (hx : Amount x (toNat x : ℚ)) :
    below? x = if toNat x ≤ 2 ^ 53 then some (toNat x) else none := by
  have hzero : (0 : Float) = Float.ofNat 0 := rfl
  rw [below?, hzero]
  split
  · next h =>
      rw [countFrom_of_le hx h (Nat.zero_le _) (by omega), Nat.zero_add, Nat.sub_zero]
  · next h =>
      exact countFrom_of_lt hx (Nat.lt_of_not_le h) (Nat.zero_le _) _ _

/-- Up to 2^53 the counter gets to the end. -/
theorem below?_of_le (hx : Amount x (toNat x : ℚ)) (h : toNat x ≤ 2 ^ 53) :
    below? x = some (toNat x) := by
  rw [below?_eq hx, if_pos h]

/-- Beyond 2^53 it never does. -/
theorem below?_of_lt (hx : Amount x (toNat x : ℚ)) (h : 2 ^ 53 < toNat x) : below? x = none := by
  rw [below?_eq hx, if_neg (Nat.not_le_of_lt h)]

end Number
end LineRpc
