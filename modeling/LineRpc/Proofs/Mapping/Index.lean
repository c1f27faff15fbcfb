import LineRpc.Proofs.Mapping
import LineRpc.Proofs.Number.ReadBack

/-!
# Index — which keys are index keys

An index key is the decimal text of a number up to the largest index: digits without a needless zero
at the start. So an index key and its number determine each other.

* `Number.toDigits_decimal`    : digits without a needless zero are the digits of their number
* `Mapping.IsIndex`            : the texts of the numbers up to the largest index
* `Mapping.index?_eq_some_iff` : the number of an index key
* `Mapping.index?_eq_none_iff` : all other keys
-/

namespace LineRpc

/-! ## Digits of a number -/

namespace Number

open Json.Token (decimal)

theorem toDigits_digit {c : Char} (h : c.isDigit = true) : Nat.toDigits 10 (decimal [c]) = [c] := by
  have hrange : 48 ≤ c.toNat ∧ c.toNat ≤ 57 := by
    simpa [Char.isDigit, UInt32.le_iff_toNat_le] using h
  have hvalue : decimal [c] = c.toNat - 48 := by
    simp [decimal]
  have hdigit : (c.toNat - 48).digitChar = c := by
    apply Char.toNat_inj.mp
    rw [Nat.toNat_digitChar_of_lt_ten (by omega)]
    omega
  rw [hvalue, Nat.toDigits_of_lt_base (by omega), hdigit]

/-- Digits without a needless zero at the start are the digits of the number that they spell. -/
theorem toDigits_decimal {cs : List Char} (h : Whole cs) : Nat.toDigits 10 (decimal cs) = cs := by
  -- The last digit is the remainder, so the induction takes digits off the end.
  induction cs using List.reverseRecOn with
  | nil =>
      exact absurd rfl h.ne_nil
  | append_singleton ds c ih =>
      have hc : c.isDigit = true := h.digits c (by simp)
      by_cases hds : ds = []
      · subst hds
        exact toDigits_digit hc
      · -- What stands before the last digit has no needless zero either, and so it is not zero.
        have hhead : ds.head? ≠ some '0' := by
          have hlong : (ds ++ [c]).length ≠ 1 := by simpa using hds
          have hzero := h.noZero.resolve_left hlong
          rwa [List.head?_append_of_ne_nil _ hds] at hzero
        have hfront : Nat.toDigits 10 (decimal ds) = ds :=
          ih ⟨fun d hd => h.digits d (List.mem_append_left _ hd), hds, Or.inr hhead⟩
        have hpos : 0 < decimal ds := by
          by_contra hzero
          rw [Nat.eq_zero_of_not_pos hzero] at hfront
          exact hhead (hfront ▸ rfl)
        have hlast : decimal [c] < 10 := by
          have hlength : (Nat.toDigits 10 (decimal [c])).length ≤ 1 := by
            rw [toDigits_digit hc]
            rfl
          simpa using (Nat.length_toDigits_le_iff (by norm_num) Nat.one_pos).mp hlength
        calc
          Nat.toDigits 10 (decimal (ds ++ [c]))
              = Nat.toDigits 10 (10 * decimal ds + decimal [c]) := by
                rw [decimal_append, List.length_singleton, pow_one]
          _ = Nat.toDigits 10 (decimal ds) ++ Nat.toDigits 10 (decimal [c]) :=
                (Nat.toDigits_append_toDigits (by norm_num) hpos hlast).symm
          _ = ds ++ [c] := by
                rw [hfront, toDigits_digit hc]

/-- The digits of a number have no needless zero. -/
theorem whole_digits (n : Nat) : Whole (Nat.toDigits 10 n) := by
  rcases Nat.eq_zero_or_pos n with rfl | hn
  · exact whole_zero
  · exact whole_toDigits hn

end Number

/-! ## Index keys -/

namespace Mapping

open Json.Token (decimal)
open Number (Whole toDigits_decimal whole_digits)

/-- A key is the text of a number up to the largest index. -/
def IsIndex (key : String) : Prop :=
  ∃ n ≤ maxIndex, toString n = key

theorem toList_toString (n : Nat) : (toString n).toList = Nat.toDigits 10 n := by
  rw [Nat.toString_eq_repr, Nat.toList_repr]

/-- Numbers up to the largest index have ten digits at most. -/
theorem length_toDigits_le {n : Nat} (h : n ≤ maxIndex) : (Nat.toDigits 10 n).length ≤ 10 :=
  (Nat.length_toDigits_le_iff (by norm_num) (by norm_num)).mpr (by rw [maxIndex] at h; omega)

/-- The tests that an index key passes. -/
theorem index?_eq_some {key : String} {n : Nat} :
    index? key = some n ↔
      Whole key.toList ∧ key.toList.length ≤ 10 ∧ decimal key.toList = n ∧ n ≤ maxIndex := by
  rw [index?]
  dsimp only
  rw [← decimal]
  constructor
  · intro h
    -- Each test that the text passed is one of the conditions.
    split at h
    · cases h
    rename_i hdigits
    split at h
    · cases h
    rename_i hzero
    split at h
    · cases h
    rename_i hlength
    split at h
    · rename_i hle
      cases h
      rw [Bool.not_eq_true, Bool.or_eq_false_iff, Bool.not_eq_false', List.all_eq_true] at hdigits
      refine ⟨⟨hdigits.2, ?_, ?_⟩, Nat.le_of_not_lt hlength, rfl, hle⟩
      · exact List.isEmpty_eq_false_iff.mp hdigits.1
      · exact or_iff_not_imp_left.mpr fun hone => not_and.mp hzero hone
    · cases h
  · rintro ⟨hwhole, hlength, rfl, hle⟩
    have hdigits : (key.toList.isEmpty || !key.toList.all Char.isDigit) = false := by
      rw [Bool.or_eq_false_iff, Bool.not_eq_false', List.all_eq_true]
      exact ⟨List.isEmpty_eq_false_iff.mpr hwhole.ne_nil, hwhole.digits⟩
    have hzero : ¬ (key.toList.length ≠ 1 ∧ key.toList.head? = some '0') :=
      not_and_or.mpr (hwhole.noZero.imp_left not_not_intro)
    rw [hdigits, if_neg Bool.false_ne_true, if_neg hzero, if_neg (Nat.not_lt.mpr hlength),
      if_pos hle]

/-- The number of an index key is the one that the key is the text of. -/
theorem index?_eq_some_iff {key : String} {n : Nat} :
    index? key = some n ↔ n ≤ maxIndex ∧ toString n = key := by
  rw [index?_eq_some]
  constructor
  · rintro ⟨hwhole, -, rfl, hle⟩
    refine ⟨hle, String.toList_injective ?_⟩
    rw [toList_toString, toDigits_decimal hwhole]
  · rintro ⟨hle, rfl⟩
    rw [toList_toString]
    exact ⟨whole_digits n, length_toDigits_le hle, Number.decimal_toDigits n, hle⟩

example : index? "4294967294" = some 4294967294 ∧ index? "4294967295" = none ∧
    index? "07" = none := by decide

theorem index?_toString {n : Nat} (h : n ≤ maxIndex) : index? (toString n) = some n :=
  index?_eq_some_iff.mpr ⟨h, rfl⟩

/-- A key without a number is no text of an index. -/
theorem index?_eq_none_iff {key : String} : index? key = none ↔ ¬ IsIndex key := by
  rw [Option.eq_none_iff_forall_ne_some]
  simp only [IsIndex, ne_eq, index?_eq_some_iff, not_exists]

end Mapping
end LineRpc
