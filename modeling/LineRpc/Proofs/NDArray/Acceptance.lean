import LineRpc.Proofs.Codec.Grammar
import LineRpc.Proofs.NDArray.Exact

/-!
# Acceptance — the shapes that are accepted for a number of elements

A shape should be accepted for a number of elements exactly if its dimensions are natural numbers
whose product is that number. The product is taken in numbers, from the left, and so there is one
exception: dimensions may multiply to an infinity before the first zero, and an infinity times zero
is no number. Such a shape has no elements, but it is refused. Up to a factor of two it is known
from the exact product of the dimensions before the zero which shapes these are.

* `Number.Close`         : a product after some roundings
* `Holds`                : the shapes that should be accepted
* `Overflows`            : the exception
* `foldl_close`          : when a product of positive dimensions is infinite
* `checkShape_iff`       : exactly which shapes are accepted
* `shape_accepted_iff`   : and so by all that makes an array over octets
-/

namespace LineRpc

namespace Number

/-! ## Products after some roundings -/

/-- The least power of two that is too large for a number. -/
def limit : ℚ :=
  2 ^ 1024

theorem bounded_eq (r : ℚ) : bounded r = if r < limit then (r : WithTop ℚ) else ⊤ :=
  rfl

/-- Countable sizes are far below the greatest double. -/
theorem two_pow_le_limit : 2 * 2 ^ 53 ≤ limit := by
  rw [limit, ← pow_succ']
  exact pow_le_pow_right₀ (by norm_num) (by norm_num)

/-- How much of a number one rounding changes at most. -/
def unit : ℚ :=
  1 / 2 ^ 53

/-- One rounding changes a number by a factor within one unit of 1. -/
theorem roundsTo_bounds {q r : ℚ} (h : RoundsTo q r) : q * (1 - unit) ≤ r ∧ r ≤ q * (1 + unit) := by
  obtain ⟨n, u, rfl, -, -, hnear, hleast, -⟩ := h
  have hcancel : q * 2 ^ (-u) * 2 ^ u = q := by
    rw [mul_assoc, ← zpow_add₀ (by norm_num), neg_add_cancel, zpow_zero, mul_one]
  have hpow : (0 : ℚ) < 2 ^ u := by positivity
  -- The last of the bits is worth no more than the number is.
  have hbit : (2 : ℚ) ^ u ≤ q / 2 ^ 52 := by
    rw [le_div_iff₀ (by positivity), mul_comm]
    calc (2 : ℚ) ^ 52 * 2 ^ u = 2 ^ (52 + u) := by
          rw [zpow_add₀ (by norm_num)]
          norm_num
      _ ≤ q := hleast
  have hunit : q * unit = q / 2 ^ 52 / 2 := by
    rw [unit]
    ring
  have hlow : ((n : ℚ) - 1 / 2) * 2 ^ u ≤ q := by
    calc ((n : ℚ) - 1 / 2) * 2 ^ u ≤ q * 2 ^ (-u) * 2 ^ u := by
          gcongr
          exact hnear.1
      _ = q := hcancel
  have hhigh : q ≤ ((n : ℚ) + 1 / 2) * 2 ^ u := by
    calc q = q * 2 ^ (-u) * 2 ^ u := hcancel.symm
      _ ≤ ((n : ℚ) + 1 / 2) * 2 ^ u := by
          gcongr
          exact hnear.2.1
  constructor
  · linarith
  · linarith

/-- A number that is stored is rounded to itself. -/
theorem roundsTo_self {x : Float} {v : ℚ} (h : Amount x v) (hv : 1 ≤ v) : RoundsTo v v := by
  obtain ⟨m, e, hp, hunpack, rfl, hfull⟩ := amount_parts h hv
  exact roundsTo_full hfull (canonical_of_unpack hunpack).lt

/-- The number `v` stands for `p` after `j` roundings. There was one only where a factor was two or
more. -/
structure Close (j : Nat) (v : ℚ) (p : Nat) : Prop where
  doubled : 2 ^ j ≤ p
  lower : p * (1 - unit) ^ j ≤ v
  upper : v ≤ p * (1 + unit) ^ j

variable {j p k : Nat} {v r : ℚ}

theorem close_one : Close 0 1 1 :=
  ⟨le_rfl, by norm_num, by norm_num⟩

theorem Close.pos (h : Close j v p) : 0 < v := by
  have hp : (0 : ℚ) < p := by
    exact_mod_cast lt_of_lt_of_le (Nat.two_pow_pos j) h.doubled
  have hunit : (0 : ℚ) < 1 - unit := by
    norm_num [unit]
  exact lt_of_lt_of_le (by positivity) h.lower

/-- One more factor and one more rounding. -/
theorem Close.mul (h : Close j v p) (hk : 2 ≤ k) (hr : RoundsTo (v * k) r) :
    Close (j + 1) r (p * k) := by
  obtain ⟨hlow, hhigh⟩ := roundsTo_bounds hr
  have hdown : (0 : ℚ) ≤ 1 - unit := by
    norm_num [unit]
  have hup : (0 : ℚ) ≤ 1 + unit := by
    norm_num [unit]
  -- The rounding of the product costs one more factor on either side.
  refine ⟨?_, ?_, ?_⟩
  · rw [pow_succ]
    exact Nat.mul_le_mul h.doubled hk
  · calc ((p * k : Nat) : ℚ) * (1 - unit) ^ (j + 1)
        = p * (1 - unit) ^ j * k * (1 - unit) := by
          push_cast
          ring
      _ ≤ v * k * (1 - unit) := by
          gcongr
          exact h.lower
      _ ≤ r := hlow
  · calc r ≤ v * k * (1 + unit) := hhigh
      _ ≤ p * (1 + unit) ^ j * k * (1 + unit) := by
          gcongr
          exact h.upper
      _ = ((p * k : Nat) : ℚ) * (1 + unit) ^ (j + 1) := by
          push_cast
          ring

/-- So few roundings change a number by less than a factor of two. -/
theorem half_le_pow (hj : j ≤ 1025) : 1 / 2 ≤ (1 - unit) ^ j := by
  have hbernoulli := one_add_mul_le_pow (a := -unit) (by norm_num [unit]) j
  have hj : (j : ℚ) ≤ 1025 := by exact_mod_cast hj
  have hsmall : (j : ℚ) * unit ≤ 1 / 2 := by
    calc (j : ℚ) * unit ≤ 1025 * unit := by
          gcongr
          norm_num [unit]
      _ ≤ 1 / 2 := by norm_num [unit]
  calc (1 : ℚ) / 2 ≤ 1 + j * -unit := by linarith
    _ ≤ (1 - unit) ^ j := by simpa only [sub_eq_add_neg] using hbernoulli

/-- The errors of a thousand roundings do not add up to a factor of two. -/
theorem pow_le_two (hj : j ≤ 1025) : (1 + unit) ^ j ≤ 2 := by
  have hhalf := half_le_pow hj
  have hup : (0 : ℚ) ≤ (1 + unit) ^ j := by
    have hunit : (0 : ℚ) ≤ 1 + unit := by
      norm_num [unit]
    positivity
  -- Rounding up and rounding down as often leaves no more than there was.
  have hboth : (1 + unit) ^ j * (1 - unit) ^ j ≤ 1 := by
    rw [← mul_pow]
    exact pow_le_one₀ (by norm_num [unit]) (by norm_num [unit])
  nlinarith

/-- The exact product is at most twice the rounded one. -/
theorem Close.le_double (h : Close j v p) (hj : j ≤ 1025) : (p : ℚ) ≤ 2 * v := by
  have hhalf : (p : ℚ) * (1 / 2) ≤ v := by
    calc (p : ℚ) * (1 / 2) ≤ p * (1 - unit) ^ j := by
          gcongr
          exact half_le_pow hj
      _ ≤ v := h.lower
  linarith

/-- The rounded product is at most twice the exact one. -/
theorem Close.double_le (h : Close j v p) (hj : j ≤ 1025) : v ≤ 2 * p := by
  have hdouble : v ≤ p * 2 := by
    calc v ≤ p * (1 + unit) ^ j := h.upper
      _ ≤ p * 2 := by
          gcongr
          exact pow_le_two hj
  linarith

/-- While the product is not too large there were few roundings. -/
theorem Close.count_lt (h : Close j v p) (hp : p < 2 * limit) : j < 1025 := by
  have hdoubled : (2 : ℚ) ^ j ≤ p := by exact_mod_cast h.doubled
  have hlt : (2 : ℚ) ^ j < 2 ^ 1025 := by
    calc (2 : ℚ) ^ j ≤ p := hdoubled
      _ < 2 * limit := hp
      _ = 2 ^ 1025 := (pow_succ' 2 1024).symm
  exact (pow_lt_pow_iff_right₀ (by norm_num)).mp hlt

/-- A product with a positive factor is close to the exact one as long as it is finite, and
otherwise the exact one is large. -/
theorem mul_close {x d : Float} (hx : Amount x v) (h : Close j v p) (hp : p < 2 * limit)
    (hd : Amount d (k : ℚ)) (hk : 0 < k) :
    (∃ (i : Nat) (t : ℚ), Amount (x * d) t ∧ Close i t (p * k) ∧ (p * k : Nat) < 2 * limit) ∨
      Amount (x * d) ⊤ ∧ limit ≤ 2 * (p * k : Nat) := by
  have hv : 1 ≤ v := (eq_zero_or_one_le hx).resolve_left h.pos.ne'
  have hone : (1 : ℚ) ≤ k := by exact_mod_cast hk
  obtain ⟨r, hr, hproduct⟩ := amount_mul hx hd hv hone
  obtain ⟨i, hi, hclose⟩ : ∃ i ≤ 1025, Close i r (p * k) := by
    rcases Nat.lt_or_ge 1 k with hk' | hk'
    · exact ⟨j + 1, h.count_lt hp, h.mul hk' hr⟩
    · -- The factor is one, and there is nothing to round.
      obtain rfl : k = 1 := le_antisymm hk' hk
      have hvr : r = v := by
        refine roundsTo_unique hr ?_
        simpa using roundsTo_self hx hv
      exact ⟨j, (h.count_lt hp).le, by simpa [hvr] using h⟩
  rcases lt_or_ge r limit with hsmall | hlarge
  · rw [bounded_eq, if_pos hsmall] at hproduct
    exact .inl ⟨i, r, hproduct, hclose, by linarith [hclose.le_double hi]⟩
  · rw [bounded_eq, if_neg (not_lt.mpr hlarge)] at hproduct
    exact .inr ⟨hproduct, le_trans hlarge (hclose.double_le hi)⟩

end Number

namespace NDArray

open Number (Amount Close limit)

variable {shape : List Float} {n : Nat}

/-! ## The shapes that should be accepted -/

/-- A shape holds `n` elements: its dimensions are natural numbers, and `n` is their product. -/
def Holds (shape : List Float) (n : Nat) : Prop :=
  (∀ d ∈ shape, ∃ k : Nat, Number.integer? d = some (k : Int)) ∧ volume (shape.map Number.toNat) = n

/-- The dimensions before the first zero. -/
def beforeZero (shape : List Float) : List Float :=
  shape.takeWhile fun d => Number.toNat d != 0

/-- The product of numbers is infinite before the first zero. -/
def Overflows (shape : List Float) : Prop :=
  (product (beforeZero shape)).isFinite = false

instance (shape : List Float) : Decidable (Overflows shape) :=
  inferInstanceAs (Decidable (_ = _))

/-- After the dimensions before the first zero there is nothing, or the zero. -/
theorem beforeZero_cases (shape : List Float) :
    beforeZero shape = shape ∨
      ∃ z rest, Number.toNat z = 0 ∧ shape = beforeZero shape ++ z :: rest := by
  induction shape with
  | nil =>
      exact .inl rfl
  | cons d shape ih =>
      by_cases hd : Number.toNat d = 0
      · exact .inr ⟨d, shape, hd, by simp [beforeZero, hd]⟩
      · have hcons : beforeZero (d :: shape) = d :: beforeZero shape := by
          simp [beforeZero, hd]
        rcases ih with ih | ⟨z, rest, hz, ih⟩
        · exact .inl (by rw [hcons, ih])
        · exact .inr ⟨z, rest, hz, by rw [hcons, List.cons_append, ← ih]⟩

/-- The axes before the first zero are positive. -/
theorem positive_of_beforeZero (hall : ∀ d ∈ shape, isDimension d = true) {d : Float}
    (hd : d ∈ beforeZero shape) : isDimension d = true ∧ 0 < Number.toNat d := by
  have hpositive := List.mem_takeWhile_imp hd
  exact ⟨hall d (List.takeWhile_subset _ hd), Nat.pos_of_ne_zero (by simpa using hpositive)⟩

/-! ## Products of positive dimensions -/

/-- There are no elements exactly when some axis is zero. -/
theorem volume_eq_zero {ds : List Nat} : volume ds = 0 ↔ 0 ∈ ds := by
  induction ds with
  | nil =>
      simp [volume]
  | cons d ds ih =>
      rw [volume, Nat.mul_eq_zero, ih, List.mem_cons, eq_comm]

/-- Positive dimensions leave an infinity as it is. -/
theorem foldl_infinity {ds : List Float} (hall : ∀ d ∈ ds, isDimension d = true ∧ 0 < Number.toNat d)
    {x : Float} (hx : Amount x ⊤) : Amount (ds.foldl (· * ·) x) ⊤ := by
  induction ds generalizing x with
  | nil =>
      exact hx
  | cons d ds ih =>
      obtain ⟨⟨hdim, hpos⟩, hrest⟩ := List.forall_mem_cons.mp hall
      rcases Number.amount_infinity_mul hx (amount_of_isDimension hdim).2 with ⟨hzero, -⟩ | ⟨-, hd⟩
      · have hzero : Number.toNat d = 0 := by exact_mod_cast hzero
        omega
      · exact ih hrest hd

/-- A finite product of positive dimensions is one of a product that is not too large, and an
infinite one of a product that is large. -/
theorem foldl_close {ds : List Float} (hall : ∀ d ∈ ds, isDimension d = true ∧ 0 < Number.toNat d)
    {x : Float} {v : ℚ} {j p : Nat} (hx : Amount x v) (h : Close j v p)
    (hp : p < 2 * limit) :
    (∃ t : ℚ, Amount (ds.foldl (· * ·) x) t ∧
        (p * volume (ds.map Number.toNat) : Nat) < 2 * limit) ∨
      Amount (ds.foldl (· * ·) x) ⊤ ∧ limit ≤ 2 * (p * volume (ds.map Number.toNat) : Nat) := by
  -- Each factor moves both bounds.
  induction ds generalizing x v j p with
  | nil =>
      exact .inl ⟨v, hx, by simpa [volume] using hp⟩
  | cons d ds ih =>
      obtain ⟨⟨hdim, hpos⟩, hrest⟩ := List.forall_mem_cons.mp hall
      have hvolume : p * volume ((d :: ds).map Number.toNat) =
          p * Number.toNat d * volume (ds.map Number.toNat) := by
        simp [volume, Nat.mul_assoc]
      rw [hvolume]
      rcases Number.mul_close hx h hp (amount_of_isDimension hdim).2 hpos with
        ⟨i, t, ht, hclose, hsmall⟩ | ⟨htop, hlarge⟩
      · exact ih hrest ht hclose hsmall
      · -- The product has left the range, and what follows does not make it smaller.
        have hvolume : 0 < volume (ds.map Number.toNat) := by
          refine Nat.pos_of_ne_zero fun hzero => ?_
          obtain ⟨e, he, hzero⟩ := List.mem_map.mp (volume_eq_zero.mp hzero)
          exact (hrest e he).2.ne' hzero
        have hgrows : ((p * Number.toNat d : Nat) : ℚ) ≤
            (p * Number.toNat d * volume (ds.map Number.toNat) : Nat) := by
          exact_mod_cast Nat.le_mul_of_pos_right _ hvolume
        exact .inr ⟨foldl_infinity hrest htop, by linarith⟩

/-- What stands before the first zero multiplies to a finite number or to an infinity, as its exact
product is small or large. -/
theorem product_beforeZero (hall : ∀ d ∈ shape, isDimension d = true) :
    (∃ t : ℚ, Amount (product (beforeZero shape)) t ∧
        volume ((beforeZero shape).map Number.toNat) < 2 * limit) ∨
      Amount (product (beforeZero shape)) ⊤ ∧
        limit ≤ 2 * volume ((beforeZero shape).map Number.toNat) := by
  have hpositive : ∀ d ∈ beforeZero shape, isDimension d = true ∧ 0 < Number.toNat d :=
    fun d hd => positive_of_beforeZero hall hd
  have hone : ((1 : Nat) : ℚ) < 2 * limit := by
    rw [Nat.cast_one]
    linarith [Number.two_pow_le_limit]
  simpa [product] using foldl_close hpositive amount_one Number.close_one hone

/-! ## The check -/

theorem isFinite_of_amount {x : Float} {t : ℚ} (h : Amount x t) : x.isFinite = true := by
  change x.toModel.unpack.isFinite = true
  rcases Number.amount_cases h with ⟨-, s, hs⟩ | ⟨m, e, hp, hm, -, -⟩ | ⟨htop, -⟩
  · rw [hs]
    rfl
  · rw [hm]
    rfl
  · exact absurd htop WithTop.coe_ne_top

theorem not_isFinite_of_amount {x : Float} (h : Amount x ⊤) : x.isFinite = false := by
  change x.toModel.unpack.isFinite = false
  rcases Number.amount_cases h with ⟨hzero, -⟩ | ⟨m, e, -, -, hvalue, -⟩ | ⟨-, hinf⟩
  · exact absurd hzero WithTop.top_ne_zero
  · exact absurd hvalue.symm WithTop.coe_ne_top
  · rw [hinf]
    rfl

/-- Dimensions after a zero leave it as it is. -/
theorem foldl_zero (hall : ∀ d ∈ shape, isDimension d = true) {x : Float} (hx : Amount x 0) :
    Amount (shape.foldl (· * ·) x) 0 := by
  induction shape generalizing x with
  | nil =>
      exact hx
  | cons d shape ih =>
      obtain ⟨hd, hrest⟩ := List.forall_mem_cons.mp hall
      exact ih hrest (Number.amount_mul_zero hx (amount_of_isDimension hd).2 (.inl rfl))

/-- Without an overflow the product is finite. -/
theorem exists_amount_product (hall : ∀ d ∈ shape, isDimension d = true) (h : ¬ Overflows shape) :
    ∃ t : ℚ, Amount (product shape) t := by
  rcases product_beforeZero hall with ⟨t, ht, -⟩ | ⟨htop, -⟩
  · -- From the first zero on the product is zero.
    rcases beforeZero_cases shape with hwhole | ⟨z, rest, hz, hsplit⟩
    · exact ⟨t, hwhole ▸ ht⟩
    · have hall' : ∀ d ∈ beforeZero shape ++ z :: rest, isDimension d = true := hsplit ▸ hall
      simp only [List.mem_append, List.mem_cons] at hall'
      have hzero : Amount z 0 := by
        simpa [hz] using (amount_of_isDimension (hall' z (.inr (.inl rfl)))).2
      have hfold := foldl_zero (fun d hd => hall' d (.inr (.inr hd)))
        (Number.amount_mul_zero ht hzero (.inr rfl))
      refine ⟨0, ?_⟩
      rw [hsplit, product, List.foldl_append, List.foldl_cons]
      exact hfold
  · exact absurd (not_isFinite_of_amount htop) h

/-- With an overflow the product is infinite or no number. -/
theorem not_isFinite_product (hall : ∀ d ∈ shape, isDimension d = true) (h : Overflows shape) :
    (product shape).isNaN = true ∨ Amount (product shape) ⊤ := by
  rcases product_beforeZero hall with ⟨t, ht, -⟩ | ⟨htop, -⟩
  · rw [Overflows, isFinite_of_amount ht] at h
    cases h
  · -- Without a zero the product stays infinite, and the first zero makes it no number.
    rcases beforeZero_cases shape with hwhole | ⟨z, rest, hz, hsplit⟩
    · exact .inr (hwhole ▸ htop)
    · have hall' : ∀ d ∈ beforeZero shape ++ z :: rest, isDimension d = true := hsplit ▸ hall
      have hzero : Amount z ((0 : Nat) : ℚ) := by
        simpa [hz] using (amount_of_isDimension (hall' z (by simp))).2
      left
      rw [hsplit, product, List.foldl_append, List.foldl_cons]
      rcases Number.amount_infinity_mul htop hzero with ⟨-, hnan⟩ | ⟨hone, -⟩
      · exact isNaN_foldl hnan rest
      · norm_num at hone

/-- The product of numbers is the number of elements exactly if the product of natural numbers is,
and nothing overflows before the first zero. -/
theorem product_beq_iff (hall : ∀ d ∈ shape, isDimension d = true) (hn : n < 2 ^ 53) :
    (product shape == Float.ofNat n) = true ↔
      volume (shape.map Number.toNat) = n ∧ ¬ Overflows shape := by
  constructor
  · intro h
    refine ⟨volume_of_checkShape (checkShape_eq_ok.mpr ⟨hall, h⟩) hn, ?_⟩
    intro hover
    -- Infinity equals no count, and what is not a number equals nothing.
    rcases not_isFinite_product hall hover with hnan | htop
    · exact not_beq_of_isNaN hnan h
    · exact absurd ((Number.beq_ofNat_iff hn htop).mp h).symm WithTop.coe_ne_top
  · rintro ⟨rfl, hover⟩
    obtain ⟨t, ht⟩ := exists_amount_product hall hover
    rcases tracks_product hall with hnan | ⟨t', ht', htracks⟩
    · exact absurd hnan (Number.not_isNaN_of_amount ht)
    · exact (Number.beq_ofNat_iff hn ht').mpr (htracks.1 hn)

/-- A shape is accepted exactly if it holds the elements and does not overflow. -/
theorem checkShape_iff (hn : n < 2 ^ 53) :
    checkShape shape n = .ok () ↔ Holds shape n ∧ ¬ Overflows shape := by
  have hdims : (∀ d ∈ shape, isDimension d = true) ↔
      ∀ d ∈ shape, ∃ k : Nat, Number.integer? d = some (k : Int) :=
    forall₂_congr fun d _ => isDimension_iff
  rw [checkShape_eq_ok, Holds, and_assoc, ← hdims]
  exact and_congr_right fun hall => product_beq_iff hall hn

/-- A shape that holds elements but overflows holds none, and the dimensions before its first zero
have a large product. -/
theorem overflows_bounds (hn : n < 2 ^ 53) (h : Holds shape n) :
    (Overflows shape → n = 0 ∧ limit ≤ 2 * volume ((beforeZero shape).map Number.toNat)) ∧
      (2 * limit ≤ volume ((beforeZero shape).map Number.toNat) → Overflows shape) := by
  obtain ⟨hdims, hvolume⟩ := h
  have hall : ∀ d ∈ shape, isDimension d = true := fun d hd => isDimension_iff.mpr (hdims d hd)
  rcases product_beforeZero hall with ⟨t, ht, hsmall⟩ | ⟨htop, hlarge⟩
  · constructor
    · intro hover
      rw [Overflows, isFinite_of_amount ht] at hover
      cases hover
    · intro hlarge
      exact absurd hsmall (not_lt.mpr hlarge)
  · refine ⟨fun _ => ⟨?_, hlarge⟩, fun _ => not_isFinite_of_amount htop⟩
    rcases beforeZero_cases shape with hwhole | ⟨z, rest, hz, hsplit⟩
    · -- All dimensions are positive, and their product is kept.
      exfalso
      rw [hwhole, hvolume] at hlarge
      have hkept : (n : ℚ) < 2 ^ 53 := by exact_mod_cast hn
      linarith [Number.two_pow_le_limit]
    · rw [← hvolume]
      refine volume_eq_zero.mpr (List.mem_map.mpr ⟨z, ?_, hz⟩)
      rw [hsplit]
      simp

/-! ## Arrays -/

/-- An array is made exactly when its shape is accepted. -/
theorem exists_ofOctets_iff {d : Dtype} {bs : Octets} (hlength : bs.length = n * d.itemSize) :
    (∃ a, ofOctets d bs shape = .ok a) ↔ checkShape shape n = .ok () := by
  have hcount : bs.length / d.itemSize = n := by
    rw [hlength, Nat.mul_div_cancel n d.itemSize_pos]
  simp only [ofOctets_eq_ok, hcount, exists_and_left, exists_eq', and_true]

/-- A payload with a kind, whole elements of it and a shape is accepted if the shape is empty, or is
accepted for the elements. -/
theorem exists_decodeArray_iff {caps : Capabilities} {p : Json} {tag text : String} {bs : Octets}
    (hc : caps.arrays = true) (hp : p.Counted) (htag : p.get? "dtype" = some (.str tag))
    (htext : p.get? "data" = some (.str text)) (hbs : Base64.Spells text.toList bs)
    (hlength : bs.length = n * (Dtype.ofTag tag).itemSize)
    (hs : p.get? "shape" = some (.arr (shape.map .num))) :
    (∃ a, Codec.decodeArray caps (Value.ofJson p) = .ok a) ↔
      shape = [] ∨ checkShape shape n = .ok () := by
  have hcount : bs.length / (Dtype.ofTag tag).itemSize = n := by
    rw [hlength, Nat.mul_div_cancel n (Dtype.ofTag tag).itemSize_pos]
  constructor
  · rintro ⟨a, ha⟩
    obtain ⟨⟨tag', htag', hkind⟩, ⟨text', htext', hbs'⟩, -, shape', hs', hshape, -⟩ :=
      (Codec.decodeArray_eq_ok hc hp).mp ha
    -- The fields that were read are those of the payload.
    cases htag.symm.trans htag'
    cases htext.symm.trans htext'
    have hoctets : a.octets = bs := by
      have hread : Codec.octets "data" text = .ok bs := Codec.octets_eq_ok.mpr hbs
      have hread' : Codec.octets "data" text = .ok a.octets := Codec.octets_eq_ok.mpr hbs'
      exact Except.ok.inj (hread'.symm.trans hread)
    have hsize : a.size = n := by
      rw [size, hoctets, hkind, hcount]
    have hmap : shape.map Json.num = shape'.map Json.num :=
      Json.arr.inj (Option.some.inj (hs.symm.trans hs'))
    obtain rfl : shape = shape' := (List.map_injective_iff.mpr fun _ _ => Json.num.inj) hmap
    rwa [hsize] at hshape
  · intro h
    -- An empty shape is received as one dimension of all elements.
    let a : NDArray := ⟨Dtype.ofTag tag, if shape = [] then [Float.ofNat n] else shape, bs⟩
    have hsize : a.size = n := hcount
    have hwhole : a.octets.length % a.dtype.itemSize = 0 := by
      change bs.length % (Dtype.ofTag tag).itemSize = 0
      rw [hlength, Nat.mul_mod_left]
    refine ⟨a, (Codec.decodeArray_eq_ok hc hp).mpr
      ⟨⟨tag, htag, rfl⟩, ⟨text, htext, hbs⟩, hwhole, shape, hs, ?_, ?_⟩⟩
    · rwa [hsize]
    · rw [hsize]

/-- A shape is accepted for a number of elements that can be counted exactly if its dimensions are
natural numbers with that product, and nothing overflows before the first zero: by the check, and so
by all that makes an array over so many elements. An overflow takes a product that is large, and
only a shape without elements can be refused for it. -/
theorem shape_accepted_iff (hn : n < 2 ^ 53) (shape : List Float) :
    (checkShape shape n = .ok () ↔ Holds shape n ∧ ¬ Overflows shape) ∧
    (∀ (d : Dtype) (bs : Octets), bs.length = n * d.itemSize →
      ((∃ a, ofOctets d bs shape = .ok a) ↔ Holds shape n ∧ ¬ Overflows shape)) ∧
    (∀ a : NDArray, a.octets.length = n * a.dtype.itemSize →
      ((∃ b, a.reshape shape = .ok b) ↔ Holds shape n ∧ ¬ Overflows shape)) ∧
    (∀ (caps : Capabilities) (p : Json) (tag text : String) (bs : Octets),
      caps.arrays = true → p.Counted → p.get? "dtype" = some (.str tag) →
      p.get? "data" = some (.str text) → Base64.Spells text.toList bs →
      bs.length = n * (Dtype.ofTag tag).itemSize →
      p.get? "shape" = some (.arr (shape.map .num)) →
      ((∃ a, Codec.decodeArray caps (Value.ofJson p) = .ok a) ↔
        shape = [] ∨ Holds shape n ∧ ¬ Overflows shape)) ∧
    (Holds shape n →
      (Overflows shape → n = 0 ∧ limit ≤ 2 * volume ((beforeZero shape).map Number.toNat)) ∧
        (2 * limit ≤ volume ((beforeZero shape).map Number.toNat) → Overflows shape)) := by
  refine ⟨checkShape_iff hn, ?_, ?_, ?_, overflows_bounds hn⟩
  · intro d bs hlength
    rw [exists_ofOctets_iff hlength, checkShape_iff hn]
  · intro a hlength
    simp only [reshape]
    rw [exists_ofOctets_iff hlength, checkShape_iff hn]
  · intro caps p tag text bs hc hp htag htext hbs hlength hs
    rw [exists_decodeArray_iff hc hp htag htext hbs hlength hs, checkShape_iff hn]

/-- Six elements in two rows of three, and no elements in a shape that overflows before its zero. -/
theorem shape_accepted_iff_sample :
    (6 < 2 ^ 53 ∧ checkShape [2, 3] 6 = .ok ()) ∧
      0 < 2 ^ 53 ∧ Holds [1e308, 1e308, 0] 0 ∧ ¬ checkShape [1e308, 1e308, 0] 0 = .ok () := by
  have hsix : 6 < 2 ^ 53 := by decide
  have hnone : 0 < 2 ^ 53 := by decide
  have hrows : Holds [2, 3] 6 := by
    refine ⟨?_, by decide +kernel⟩
    simp only [List.forall_mem_cons, List.not_mem_nil, false_implies, implies_true, and_true]
    exact ⟨⟨2, by decide +kernel⟩, ⟨3, by decide +kernel⟩⟩
  have hlarge : Holds [1e308, 1e308, 0] 0 := by
    have hdim : ∃ k : Nat, Number.integer? 1e308 = some (k : Int) :=
      isDimension_iff.mp (by decide +kernel)
    refine ⟨?_, by decide +kernel⟩
    simp only [List.forall_mem_cons, List.not_mem_nil, false_implies, implies_true, and_true]
    exact ⟨hdim, hdim, 0, by decide +kernel⟩
  have hover : Overflows [1e308, 1e308, 0] := by decide +kernel
  refine ⟨⟨hsix, ?_⟩, hnone, hlarge, ?_⟩
  · exact (shape_accepted_iff hsix [2, 3]).1.mpr ⟨hrows, by decide +kernel⟩
  · intro h
    exact ((shape_accepted_iff hnone [1e308, 1e308, 0]).1.mp h).2 hover

/-- Natural numbers whose product is zero are refused for no elements when the zero comes last, and
accepted when it comes first. -/
theorem checkShape_zeroLast :
    (∀ d ∈ [1e308, 1e308, 0], isDimension d = true) ∧
      volume ([1e308, 1e308, 0].map Number.toNat) = 0 ∧
      checkShape [1e308, 1e308, 0] 0 = .error (.sizeMismatch 0 [1e308, 1e308, 0]) ∧
      checkShape [0, 1e308, 1e308] 0 = .ok () := by
  decide +kernel

end NDArray
end LineRpc
