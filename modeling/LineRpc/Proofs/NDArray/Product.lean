import LineRpc.Proofs.NDArray
import LineRpc.Proofs.Number.Magnitude

/-!
# Product — the dimensions of a shape multiplied as numbers

The check of a shape multiplies its dimensions as numbers, rounding after every factor. If the
result is a natural number that is kept, then it is the exact product of the dimensions. What passes
the check still does when a first dimension is taken away, unless that is zero, and when two
dimensions change their places.

* `amount_of_isDimension` : a dimension is a natural number
* `tracks_product`        : the product stands for the exact one
* `volume_of_checkShape`  : a shape that is accepted has the right volume
* `checkShape_tail`       : the shape of an item is accepted
* `checkShape_swap`       : the shape of a transposed array is accepted
* `checkShape_map_ofNat`  : a shape that is counted out is accepted
-/

namespace LineRpc
namespace NDArray

open Float.Model Float.Model.UnpackedFloat
open Number (Amount Tracks)

/-! ## Dimensions -/

theorem toNat_of_integer? {d : Float} {n : Nat} (h : Number.integer? d = some (n : Int)) :
    Number.toNat d = n := by
  simp [Number.toNat, Number.toInt, h]

/-- A positive number that is an integer is a natural number of the same size. -/
theorem integer?_positive {d : Float} {m : Nat} {e : Int} {hp : 0 < m}
    (hd : d.toModel.unpack = .finite .positive m e hp) (hint : Number.isInteger d = true) :
    ∃ n : Nat, Number.integer? d = some (n : Int) ∧ (m * 2 ^ e : ℚ) = n := by
  have hscaled : Number.scaled? d = some ⟨m, e⟩ := by
    simp [Number.scaled?, hd, Sign.apply]
  by_cases he : 0 ≤ e
  · -- With an exponent from zero on the mantissa is shifted to the left.
    refine ⟨m * 2 ^ e.natAbs, ?_, ?_⟩
    · simp [Number.integer?, hscaled, he]
    · have hpow : (2 : ℚ) ^ e = 2 ^ e.natAbs := by
        rw [← zpow_natCast, Int.natAbs_of_nonneg he]
      push_cast
      rw [hpow]
  · -- The bits behind the point are all zeros.
    have hdvd : 2 ^ e.natAbs ∣ m := by
      by_contra hnot
      have hmod : ¬ (m : Int) % ((2 ^ e.natAbs : Nat) : Int) = 0 := fun h =>
        hnot (Int.natCast_dvd_natCast.mp (Int.dvd_of_emod_eq_zero h))
      simp only [Number.isInteger, Number.integer?, hscaled, if_neg he, Nat.pow_eq, if_neg hmod,
        Option.isSome_none, Bool.false_eq_true] at hint
    obtain ⟨n, rfl⟩ := hdvd
    have hscale : ((2 ^ e.natAbs : Nat) : Int) ≠ 0 := by positivity
    refine ⟨n, ?_, ?_⟩
    · have hmod : ((2 ^ e.natAbs * n : Nat) : Int) % ((2 ^ e.natAbs : Nat) : Int) = 0 := by
        push_cast
        exact Int.mul_emod_right _ _
      have hdiv : ((2 ^ e.natAbs * n : Nat) : Int) / ((2 ^ e.natAbs : Nat) : Int) = n := by
        push_cast
        exact Int.mul_ediv_cancel_left _ (by positivity)
      simp only [Number.integer?, hscaled, if_neg he, Nat.pow_eq, if_pos hmod, hdiv]
    · have hpow : (2 : ℚ) ^ e = (2 ^ e.natAbs)⁻¹ := by
        rw [← zpow_natCast, ← zpow_neg]
        congr 1
        omega
      push_cast
      rw [hpow, mul_comm ((2 : ℚ) ^ e.natAbs) n]
      exact mul_inv_cancel_right₀ (by positivity) _

/-- A dimension is a natural number, and it is exactly as much. -/
theorem amount_of_isDimension {d : Float} (h : isDimension d = true) :
    Number.integer? d = some (Number.toNat d : Int) ∧ Amount d (Number.toNat d : ℚ) := by
  obtain ⟨hint, hsign⟩ : Number.isInteger d = true ∧ ¬ d < 0 := by
    simpa [isDimension] using h
  rcases Number.finite_cases (isFinite_of_isDimension h) with ⟨s, hs⟩ | ⟨s, m, e, hp, hf⟩
  · have hzero : Number.integer? d = some 0 := by
      simp [Number.integer?, Number.scaled?, hs]
    have hnat : Number.toNat d = 0 := toNat_of_integer? hzero
    exact ⟨by simp [hnat, hzero], by simpa [hnat] using Amount.zero hs⟩
  · cases s with
    | negative =>
        refine absurd ?_ hsign
        simp [Number.lt_iff_compare, hf, Number.unpack_zero, UnpackedFloat.compare]
    | positive =>
        obtain ⟨n, hn, hvalue⟩ := integer?_positive hf hint
        have hnat : Number.toNat d = n := toNat_of_integer? hn
        -- A positive integer is at least one.
        have hone : (1 : ℚ) ≤ m * 2 ^ e := by
          have hpos : (0 : ℚ) < n := by
            rw [← hvalue]
            positivity
          have hnpos : 0 < n := by exact_mod_cast hpos
          rw [hvalue]
          exact_mod_cast hnpos
        exact ⟨by simpa [hnat] using hn, by simpa only [hnat, hvalue] using Amount.finite hf hone⟩

/-! ## Products -/

/-- Once a product is NaN it stays so. -/
theorem isNaN_foldl {x : Float} (h : x.isNaN = true) (shape : List Float) :
    (shape.foldl (· * ·) x).isNaN = true := by
  induction shape generalizing x with
  | nil =>
      exact h
  | cons d shape ih =>
      exact ih (Number.isNaN_mul h d)

theorem not_beq_of_isNaN {x y : Float} (h : x.isNaN = true) : ¬ (x == y) = true := by
  have hx : x.toModel.unpack = .notANumber := by
    change x.toModel.unpack.isNaN = true at h
    cases hu : x.toModel.unpack <;> simp [hu, UnpackedFloat.isNaN] at h ⊢
  change ¬ (x.toModel.unpack.compare y.toModel.unpack == some .eq) = true
  simp [hx, UnpackedFloat.compare]

/-- Multiplying on by the dimensions of a shape stands for the exact product. -/
theorem tracks_foldl {shape : List Float} (hall : ∀ d ∈ shape, isDimension d = true) {x : Float}
    {v : WithTop ℚ} {p : Nat} (hx : Amount x v) (hv : Tracks v p) :
    (shape.foldl (· * ·) x).isNaN = true ∨
      ∃ t, Amount (shape.foldl (· * ·) x) t ∧ Tracks t (p * volume (shape.map Number.toNat)) := by
  induction shape generalizing x v p with
  | nil =>
      exact .inr ⟨v, hx, by simpa [volume] using hv⟩
  | cons d shape ih =>
      obtain ⟨hd, hrest⟩ := List.forall_mem_cons.mp hall
      rcases Number.tracks_mul hx hv (amount_of_isDimension hd).2 with hnan | ⟨t, ht, htracks⟩
      · exact .inl (isNaN_foldl hnan shape)
      · simpa [volume, Nat.mul_assoc] using ih hrest ht htracks

theorem amount_one : Amount 1 (1 : ℚ) := by
  have hone := Number.amount_ofNat (n := 1) (by norm_num)
  exact_mod_cast hone

theorem tracks_one : Tracks (1 : ℚ) 1 :=
  ⟨fun _ => by norm_num, fun h => absurd h (by norm_num)⟩

/-- The rounded product is NaN, or tracks the exact one. -/
theorem tracks_product {shape : List Float} (hall : ∀ d ∈ shape, isDimension d = true) :
    (product shape).isNaN = true ∨
      ∃ t, Amount (product shape) t ∧ Tracks t (volume (shape.map Number.toNat)) := by
  simpa [product] using tracks_foldl hall amount_one tracks_one

/-- Multiplying on from a larger number gives no smaller product, unless it is no number. -/
theorem foldl_mono {shape : List Float} (hall : ∀ d ∈ shape, isDimension d = true) {x y : Float}
    {v v' : WithTop ℚ} (hx : Amount x v) (hy : Amount y v') (hle : v ≤ v') :
    (shape.foldl (· * ·) y).isNaN = true ∨
      ∃ t t', Amount (shape.foldl (· * ·) x) t ∧ Amount (shape.foldl (· * ·) y) t' ∧ t ≤ t' := by
  induction shape generalizing x y v v' with
  | nil =>
      exact .inr ⟨v, v', hx, hy, hle⟩
  | cons d shape ih =>
      obtain ⟨hd, hrest⟩ := List.forall_mem_cons.mp hall
      rcases Number.mul_mono hx hy hle (amount_of_isDimension hd).2 with
        hnan | ⟨t, t', ht, ht', hle'⟩
      · exact .inl (isNaN_foldl hnan shape)
      · exact ih hrest ht ht' hle'

/-! ## Shapes that are accepted -/

/-- The product of an accepted shape is exactly the number of elements. -/
theorem amount_product {shape : List Float} {n : Nat} (h : checkShape shape n = .ok ())
    (hn : n < 2 ^ 53) : Amount (product shape) (n : ℚ) := by
  obtain ⟨hall, hproduct⟩ := checkShape_eq_ok.mp h
  rcases tracks_product hall with hnan | ⟨t, ht, -⟩
  · exact absurd hproduct (not_beq_of_isNaN hnan)
  · have hvalue := (Number.beq_ofNat_iff hn ht).mp hproduct
    simpa only [hvalue] using ht

/-- The volume of a shape that is accepted for a number of elements that is kept. -/
theorem volume_of_checkShape {shape : List Float} {n : Nat} (h : checkShape shape n = .ok ())
    (hn : n < 2 ^ 53) : volume (shape.map Number.toNat) = n := by
  have hamount := amount_product h hn
  rcases tracks_product (checkShape_eq_ok.mp h).1 with hnan | ⟨t, ht, htracks⟩
  · exact absurd hnan (Number.not_isNaN_of_amount hamount)
  · have ht := Number.amount_unique ht hamount
    subst ht
    have hvalue := (Number.eq_of_tracks htracks hn le_rfl).2
    have : (n : ℚ) = (volume (shape.map Number.toNat) : ℚ) := by exact_mod_cast hvalue
    exact_mod_cast this.symm

/-- Dimensions whose product is no more than a natural number that is kept are a shape that is
accepted for their volume. -/
theorem checkShape_of_amount {shape : List Float} (hall : ∀ d ∈ shape, isDimension d = true) {n : Nat}
    (hn : n < 2 ^ 53) {t : WithTop ℚ} (ht : Amount (product shape) t) (hle : t ≤ (n : ℚ)) :
    checkShape shape (volume (shape.map Number.toNat)) = .ok () := by
  refine checkShape_eq_ok.mpr ⟨hall, ?_⟩
  rcases tracks_product hall with hnan | ⟨t', ht', htracks⟩
  · exact absurd hnan (Number.not_isNaN_of_amount ht)
  · have heq := Number.amount_unique ht' ht
    subst heq
    obtain ⟨hsmall, hvalue⟩ := Number.eq_of_tracks htracks hn hle
    exact (Number.beq_ofNat_iff hsmall ht).mpr hvalue

/-- What is left of an accepted shape without its first dimension is accepted, unless that is zero.
With a zero later on, the product could have become infinite before it only if that of the whole
shape had. -/
theorem checkShape_tail {d : Float} {shape : List Float} {n : Nat}
    (h : checkShape (d :: shape) n = .ok ()) (hn : n < 2 ^ 53) (hd : 0 < Number.toNat d) :
    checkShape shape (volume (shape.map Number.toNat)) = .ok () := by
  obtain ⟨hdim, hall⟩ := List.forall_mem_cons.mp (checkShape_eq_ok.mp h).1
  have hone : 1 * d = d := Number.one_mul_finite (isFinite_of_isDimension hdim)
  have hwhole : Amount (shape.foldl (· * ·) d) (n : ℚ) := by
    simpa [product, hone] using amount_product h hn
  have hfirst : ((1 : ℚ) : WithTop ℚ) ≤ (Number.toNat d : ℚ) := by
    have : (1 : ℚ) ≤ Number.toNat d := by exact_mod_cast hd
    exact_mod_cast this
  -- A first dimension that is not zero makes the product no smaller.
  rcases foldl_mono hall amount_one (amount_of_isDimension hdim).2 hfirst with
    hnan | ⟨t, t', ht, ht', hle⟩
  · exact absurd hnan (Number.not_isNaN_of_amount hwhole)
  · have heq := Number.amount_unique ht' hwhole
    subst heq
    exact checkShape_of_amount hall hn ht hle

/-- Two dimensions may change their places. -/
theorem checkShape_swap {r c : Float} {n : Nat} (h : checkShape [r, c] n = .ok ())
    (hn : n < 2 ^ 53) : checkShape [c, r] n = .ok () := by
  have hall := (checkShape_eq_ok.mp h).1
  have hr : isDimension r = true := hall r (by simp)
  have hc : isDimension c = true := hall c (by simp)
  have hvolume : Number.toNat c * Number.toNat r = n := by
    simpa [volume, Nat.mul_comm] using volume_of_checkShape h hn
  have hone : 1 * c = c := Number.one_mul_finite (isFinite_of_isDimension hc)
  have hproduct : Amount (product [c, r]) (n : ℚ) := by
    have hexact := Number.amount_mul_kept (amount_of_isDimension hc).2 (amount_of_isDimension hr).2
      (by omega)
    simpa [product, hone, hvolume] using hexact
  have hdims : ∀ d ∈ [c, r], isDimension d = true := by
    simp [hc, hr]
  simpa [volume, hvolume] using checkShape_of_amount hdims hn hproduct le_rfl

/-- A product is exact as long as no part of it reaches 2^53. -/
theorem amount_foldl_ofNat {ds : List Nat} (hall : ∀ d ∈ ds, d < 2 ^ 53) {x : Float} {p : Nat}
    (hx : Amount x (p : ℚ)) (hbelow : ∀ k, p * volume (ds.take k) < 2 ^ 53) :
    Amount ((ds.map Float.ofNat).foldl (· * ·) x) ((p * volume ds : Nat) : ℚ) := by
  -- Every product on the way is below the bound, so none is rounded.
  induction ds generalizing x p with
  | nil =>
      simpa [volume] using hx
  | cons d ds ih =>
      obtain ⟨hd, hrest⟩ := List.forall_mem_cons.mp hall
      have hfirst : p * d < 2 ^ 53 := by simpa [volume] using hbelow 1
      have hx' := Number.amount_mul_kept hx (Number.amount_ofNat hd) hfirst
      have hbelow' : ∀ k, p * d * volume (ds.take k) < 2 ^ 53 := by
        intro k
        simpa [volume, Nat.mul_assoc] using hbelow (k + 1)
      simpa [volume, Nat.mul_assoc] using ih hrest hx' hbelow'

/-- A shape of dimensions that were counted out is accepted for its volume, if its product stays
small on the way. -/
theorem checkShape_map_ofNat {ds : List Nat} (hall : ∀ d ∈ ds, d < 2 ^ 53)
    (hbelow : ∀ k, volume (ds.take k) < 2 ^ 53) :
    checkShape (ds.map Float.ofNat) (volume ds) = .ok () := by
  have hdims : ∀ d ∈ ds.map Float.ofNat, isDimension d = true := by
    intro d hd
    obtain ⟨k, hk, rfl⟩ := List.mem_map.mp hd
    exact isDimension_ofNat (hall k hk)
  have hproduct : Amount (product (ds.map Float.ofNat)) (volume ds : ℚ) := by
    have hfold := amount_foldl_ofNat hall (x := 1) (p := 1) (by simpa using amount_one)
      (by simpa using hbelow)
    simpa [product] using hfold
  have hsmall : volume ds < 2 ^ 53 := by simpa using hbelow ds.length
  refine checkShape_eq_ok.mpr ⟨hdims, ?_⟩
  exact (Number.beq_ofNat_iff hsmall hproduct).mpr rfl

end NDArray
end LineRpc
