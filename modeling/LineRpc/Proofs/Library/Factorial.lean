import LineRpc.Library.Math
import LineRpc.Proofs.Library.Arguments
import LineRpc.Proofs.Number.Counter

/-!
# Factorial — a counter that is a number

The factorial of `n` multiplies the numbers from two on until its counter is past `n`. The counter
is itself a number, so counting on by one is exact only up to `2 ^ 53`, and from there on the
counter stands still. Below that bound every factorial comes to its end; from the bound on none
does, although the argument is accepted.

* `counter`            : the counter after some steps
* `counter_eq`         : the counter is exact up to `2 ^ 53`, where it stays
* `countUp_of_past`    : the product is there once the counter is past the argument
* `countUp_of_never`   : as long as it is not, there is none
* `factorial_ends_iff` : which factorials come to an end, and with what
-/

namespace LineRpc
namespace Math

open Number

variable {x : Float} {v : Value} {k n : Nat}

/-! ## The counter -/

/-- The counter after some steps. -/
def counter (k : Nat) : Float :=
  (fun i => i + 1)^[k] 2

/-- The product after some steps. -/
def running (k : Nat) : Float :=
  (List.range k).foldl (fun p j => p * counter j) 1

theorem counter_succ (k : Nat) : counter (k + 1) = counter k + 1 :=
  Function.iterate_succ_apply' _ k 2

theorem running_succ (k : Nat) : running (k + 1) = running k * counter k := by
  rw [running, List.range_succ, List.foldl_append]
  rfl

/-- The counter is exact up to `2 ^ 53`, and there it stays. -/
theorem counter_eq (k : Nat) : counter k = Float.ofNat (min (k + 2) (2 ^ 53)) := by
  have hcount := iterate_add_one (m := 2) (by norm_num) k
  rw [Nat.add_comm] at hcount
  exact hcount

/-- The counter goes up by one, until it stands still at 2^53. -/
theorem amount_counter (k : Nat) : Amount (counter k) ((min (k + 2) (2 ^ 53) : Nat) : ℚ) := by
  rw [counter_eq]
  exact amount_ofNat_of_le (min_le_right _ _)

/-- A number is passed exactly when the counter gets beyond it. -/
theorem lt_counter_iff (hx : Amount x (n : ℚ)) : x < counter k ↔ n < min (k + 2) (2 ^ 53) := by
  rw [lt_iff_of_amount hx (amount_counter k)]
  exact_mod_cast Iff.rfl

theorem counter_le_iff (hx : Amount x (n : ℚ)) : counter k ≤ x ↔ ¬ x < counter k := by
  rw [le_iff_of_amount (amount_counter k) hx, lt_iff_of_amount hx (amount_counter k), not_lt]

/-! ## The loop -/

/-- One step multiplies by the counter and counts on, unless the counter is past the end. -/
theorem countUp_step (x : Float) (fuel k : Nat) :
    countUp x (fuel + 1) (counter k) (running k) =
      if counter k ≤ x then countUp x fuel (counter (k + 1)) (running (k + 1))
      else some (running k) := by
  rw [countUp, counter_succ, running_succ]

/-- While the counter never gets past the end, no number of steps is enough. -/
theorem countUp_of_never (h : ∀ k, counter k ≤ x) (fuel : Nat) :
    countUp x fuel (counter k) (running k) = none := by
  induction fuel generalizing k with
  | zero =>
      rfl
  | succ fuel ih =>
      rw [countUp_step, if_pos (h k), ih]

/-- The product is there once the counter is past the end for the first time. -/
theorem countUp_of_past {fuel d : Nat} (hend : ¬ counter (k + d) ≤ x)
    (hbefore : ∀ j < k + d, counter j ≤ x) (hfuel : d < fuel) :
    countUp x fuel (counter k) (running k) = some (running (k + d)) := by
  -- The induction is on the rounds that are left.
  induction d generalizing k fuel with
  | zero =>
      obtain ⟨fuel, rfl⟩ : ∃ f, fuel = f + 1 := ⟨fuel - 1, by omega⟩
      rw [countUp_step]
      exact if_neg hend
  | succ d ih =>
      obtain ⟨fuel, rfl⟩ : ∃ f, fuel = f + 1 := ⟨fuel - 1, by omega⟩
      have hshift : k + (d + 1) = k + 1 + d := by omega
      rw [hshift] at hend hbefore ⊢
      rw [countUp_step, if_pos (hbefore k (by omega))]
      exact ih hend hbefore (by omega)

/-! ## The function -/

/-- The product of the numbers from one to `n`, multiplied from the left. -/
def productTo (n : Nat) : Float :=
  (List.range (n - 1)).foldl (fun p j => p * Float.ofNat (j + 2)) 1

/-- Below `2 ^ 53` the counter runs through the natural numbers. -/
theorem running_eq (h : n < 2 ^ 53) : running (n - 1) = productTo n := by
  refine List.foldl_ext _ _ _ fun p j hj => ?_
  have hsmall : j < n - 1 := List.mem_range.mp hj
  rw [counter_eq, min_eq_left (by omega)]

/-- What a factorial accepts is a natural number. -/
theorem amount_of_accepted (hv : Args.integer "factorial" v = .ok x) (hx : ¬ x < 0) :
    integer? x = some (toNat x : Int) ∧ Amount x (toNat x : ℚ) := by
  have hint : isInteger x = true := (Args.integer_eq_ok.mp hv).2
  refine NDArray.amount_of_isDimension ?_
  rw [NDArray.isDimension, hint, decide_eq_false hx]
  rfl

/-- A factorial is the product, if its argument is accepted and the loop ends. -/
theorem factorial_of_ends {p : Float} (hv : Args.integer "factorial" v = .ok x) (hx : ¬ x < 0)
    (h : factorial? x = some p) : factorial [v] = .ok (.num p) := by
  change (Args.integer "factorial" v).bind _ = _
  rw [hv]
  simp only [Except.bind, if_neg hx, h]
  rfl

/-- Below `2 ^ 53` the loop ends with the product. -/
theorem factorial?_of_lt (hx : Amount x (n : ℚ)) (hnat : toNat x = n) (h : n < 2 ^ 53) :
    factorial? x = some (productTo n) := by
  have hend : ¬ counter (0 + (n - 1)) ≤ x := by
    rw [counter_le_iff hx, lt_counter_iff hx]
    omega
  have hbefore : ∀ j < 0 + (n - 1), counter j ≤ x := by
    intro j hj
    rw [counter_le_iff hx, lt_counter_iff hx]
    omega
  have hproduct := countUp_of_past hend hbefore (by omega : n - 1 < n + 1)
  rw [Nat.zero_add, running_eq h] at hproduct
  rw [factorial?, hnat]
  exact hproduct

/-- From `2 ^ 53` on no number of steps is enough. -/
theorem countUp_of_ge (hx : Amount x (n : ℚ)) (h : 2 ^ 53 ≤ n) (fuel : Nat) :
    countUp x fuel 2 1 = none := by
  refine countUp_of_never (k := 0) (fun k => ?_) fuel
  rw [counter_le_iff hx, lt_counter_iff hx]
  omega

/-- A factorial whose loop does not end does not end either. -/
theorem factorial_of_ge (hv : Args.integer "factorial" v = .ok x) (hx : ¬ x < 0)
    (h : 2 ^ 53 ≤ toNat x) : factorial [v] = .error (.failed .endless) := by
  change (Args.integer "factorial" v).bind _ = _
  rw [hv]
  simp only [Except.bind, if_neg hx, factorial?,
    countUp_of_ge (amount_of_accepted hv hx).2 h, Args.awaited]
  rfl

/-- A factorial comes to its end exactly if its argument is below `2 ^ 53`: then the counter gets
past the argument, and the product is returned. From that bound on the counter stays below or at the
argument however many steps are taken, and the call never ends. -/
theorem factorial_ends_iff (hv : Args.integer "factorial" v = .ok x) (hx : ¬ x < 0) :
    ∃ n : Nat, integer? x = some (n : Int) ∧
      ((∃ k, x < counter k) ↔ n < 2 ^ 53) ∧
      (∀ k, counter k ≤ x ↔ ¬ x < counter k) ∧
      (n < 2 ^ 53 →
        factorial? x = some (productTo n) ∧ factorial [v] = .ok (.num (productTo n))) ∧
      (2 ^ 53 ≤ n →
        (∀ fuel, countUp x fuel 2 1 = none) ∧ factorial [v] = .error (.failed .endless)) := by
  obtain ⟨hint, hamount⟩ := amount_of_accepted hv hx
  refine ⟨toNat x, hint, ⟨?_, ?_⟩, fun k => counter_le_iff hamount, ?_, ?_⟩
  · rintro ⟨k, hk⟩
    have := (lt_counter_iff hamount).mp hk
    omega
  · intro hlt
    exact ⟨toNat x, (lt_counter_iff hamount).mpr (by omega)⟩
  · intro hlt
    have hproduct := factorial?_of_lt hamount rfl hlt
    exact ⟨hproduct, factorial_of_ends hv hx hproduct⟩
  · intro hge
    exact ⟨countUp_of_ge hamount hge, factorial_of_ge hv hx hge⟩

/-- Twenty factorial is still exact. -/
theorem factorial_ends_iff_twenty :
    Args.integer "factorial" (.num 20) = .ok 20 ∧ ¬ (20 : Float) < 0 ∧ (∃ k, 20 < counter k) ∧
      factorial [.num 20] = .ok (.num 2432902008176640000) := by
  have haccepted : Args.integer "factorial" (.num 20) = .ok 20 := by
    rw [Args.integer_eq_ok]
    exact ⟨rfl, by decide +kernel⟩
  have hsign : ¬ (20 : Float) < 0 := by decide +kernel
  obtain ⟨n, hn, hcounter, -, hproduct, -⟩ := factorial_ends_iff haccepted hsign
  have hknown : integer? 20 = some ((20 : Nat) : Int) := by decide +kernel
  obtain rfl : n = 20 := by
    have hsame := Option.some.inj (hn.symm.trans hknown)
    exact_mod_cast hsame
  have hvalue : productTo 20 = 2432902008176640000 := by decide +kernel
  refine ⟨haccepted, hsign, hcounter.mpr (by norm_num), ?_⟩
  rw [← hvalue]
  exact (hproduct (by norm_num)).2

/-- The argument `2 ^ 53` is accepted, and its factorial does not end. -/
theorem factorial_bound :
    factorial [.num 9007199254740992] = .error (.failed .endless) := by
  have haccepted : Args.integer "factorial" (.num 9007199254740992) = .ok 9007199254740992 := by
    rw [Args.integer_eq_ok]
    exact ⟨rfl, by decide +kernel⟩
  exact factorial_of_ge haccepted (by decide +kernel) (by decide +kernel)

/-- The argument `2 ^ 53` is accepted, and the counter never gets past it. -/
theorem factorial_endless :
    Args.integer "factorial" (.num 9007199254740992) = .ok 9007199254740992 ∧
      ¬ (9007199254740992 : Float) < 0 ∧ (∀ k, ¬ 9007199254740992 < counter k) ∧
      (∀ fuel, countUp 9007199254740992 fuel 2 1 = none) ∧
      factorial [.num 9007199254740992] = .error (.failed .endless) := by
  have haccepted : Args.integer "factorial" (.num 9007199254740992) = .ok 9007199254740992 := by
    rw [Args.integer_eq_ok]
    exact ⟨rfl, by decide +kernel⟩
  have hsign : ¬ (9007199254740992 : Float) < 0 := by decide +kernel
  have hnat : toNat 9007199254740992 = 2 ^ 53 := by decide +kernel
  have hamount := (amount_of_accepted haccepted hsign).2
  rw [hnat] at hamount
  have hnever (k : Nat) : ¬ 9007199254740992 < counter k := by
    rw [lt_counter_iff hamount]
    omega
  exact ⟨haccepted, hsign, hnever, countUp_of_ge hamount le_rfl, factorial_bound⟩

end Math
end LineRpc
