import LineRpc.Frame
import LineRpc.Proofs.Number.Whole

/-!
# NDArray — arrays and tables as they are built

Building an array checks its shape, building a table checks its columns and its labels. These checks
still hold after the dimensions were written and read, where the negative zero becomes zero.

* `NDArray.Valid`, `Frame.Valid` : what building makes sure of
* `checkShape_unsignedZero`      : a shape still holds its elements
* `fromBytes_of_valid`           : an array is built again from its parts
* `make_of_valid`                : a table is built again from its parts
* `valid_of_fromBytes`           : what is built from octets is an array
* `valid_of_make`                : what is built from an array is a table
-/

namespace LineRpc

open Float.Model Float.Model.UnpackedFloat

namespace NDArray

/-- What building an array makes sure of: its octets make whole elements and its shape holds
them. -/
structure Valid (a : NDArray) : Prop where
  whole : a.octets.length % a.dtype.itemSize = 0
  shape : checkShape a.shape a.size = .ok ()

/-! ## Dimensions -/

theorem isFinite_of_isDimension {d : Float} (h : isDimension d = true) : d.isFinite = true := by
  rw [isDimension, Bool.and_eq_true] at h
  change d.toModel.unpack.isFinite = true
  cases hd : d.toModel.unpack with
  | zero s =>
      rfl
  | finite s m e hp =>
      rfl
  | _ =>
      have := h.1
      simp [Number.isInteger, Number.integer?, Number.scaled?, hd] at this

theorem isNaN_of_isDimension {d : Float} (h : isDimension d = true) : d.isNaN = false :=
  Number.isNaN_of_isFinite (isFinite_of_isDimension h)

theorem isInteger_unsignedZero (d : Float) :
    Number.isInteger (Number.unsignedZero d) = Number.isInteger d := by
  have hscaled : Number.scaled? (Number.unsignedZero d) = Number.scaled? d := by
    rcases Number.unpack_unsignedZero d with h | ⟨s, hs, h⟩
    · rw [Number.scaled?, Number.scaled?, h]
    · rw [Number.scaled?, Number.scaled?, h, hs]
  rw [Number.isInteger, Number.isInteger, Number.integer?, Number.integer?, hscaled]

/-- The sign of a zero axis does not matter to the check of it. -/
theorem isDimension_unsignedZero (d : Float) :
    isDimension (Number.unsignedZero d) = isDimension d := by
  have hlt : decide (Number.unsignedZero d < 0) = decide (d < 0) :=
    decide_eq_decide.mpr (Number.lt_unsignedZero d 0)
  rw [isDimension, isDimension, isInteger_unsignedZero, hlt]

/-- A natural number below `2 ^ 53` is a dimension. -/
theorem isDimension_ofNat {n : Nat} (h : n < 2 ^ 53) : isDimension (Float.ofNat n) = true := by
  rcases Nat.eq_zero_or_pos n with rfl | hpos
  · rfl
  · have hu := Number.unpack_ofNat hpos h
    have hlog : n.log2 < 53 := (Nat.log2_lt (by omega)).mpr h
    have hlt : ¬ Float.ofNat n < 0 := by
      rw [Number.lt_iff_compare, hu, Number.unpack_zero]
      simp [UnpackedFloat.compare]
    have hint : Number.isInteger (Float.ofNat n) = true := by
      have habs : (((n.log2 : Int) - 52)).natAbs = 52 - n.log2 := by omega
      have hmod :
          ((n * 2 ^ (52 - n.log2) : Nat) : Int) % ((2 ^ (52 - n.log2) : Nat) : Int) = 0 := by
        rw [← Int.natCast_mod, Nat.mul_mod_left]
        rfl
      rw [Number.isInteger, Number.integer?, Number.scaled?, hu]
      simp only [Sign.apply, habs, Nat.pow_eq, if_pos hmod]
      -- Either the exponent is not negative, or the bits that are shifted out are zeros.
      split
      · rfl
      · rfl
    rw [isDimension, hint, decide_eq_false hlt]
    rfl

/-! ## Shapes -/

/-- A shape is accepted when each axis is one and their product is the size. -/
theorem checkShape_eq_ok {shape : List Float} {size : Nat} :
    checkShape shape size = .ok () ↔
      (∀ d ∈ shape, isDimension d = true) ∧ (product shape == Float.ofNat size) = true := by
  rw [checkShape]
  cases hfind : shape.find? fun d => !isDimension d with
  | some d =>
      -- The first dimension that is none refuses the shape.
      have hmem := List.mem_of_find?_eq_some hfind
      have hd := List.find?_some hfind
      constructor
      · intro h
        cases h
      · rintro ⟨hall, -⟩
        rw [hall d hmem] at hd
        cases hd
  | none =>
      have hall : ∀ d ∈ shape, isDimension d = true := by
        intro d hd
        simpa using List.find?_eq_none.mp hfind d hd
      simp only
      split
      · rename_i hp
        exact ⟨fun _ => ⟨hall, hp⟩, fun _ => rfl⟩
      · rename_i hp
        constructor
        · intro h
          cases h
        · rintro ⟨-, h⟩
          exact absurd h hp

theorem Valid.isDimension {a : NDArray} (h : a.Valid) : ∀ d ∈ a.shape, isDimension d = true :=
  (checkShape_eq_ok.mp h.shape).1

/-- The sign of zero axes does not matter to their product. -/
theorem foldl_unsignedZero {x y : Float} (shape : List Float)
    (h : Number.unsignedZero x = Number.unsignedZero y) :
    Number.unsignedZero ((shape.map Number.unsignedZero).foldl (· * ·) x) =
      Number.unsignedZero (shape.foldl (· * ·) y) := by
  induction shape generalizing x y with
  | nil =>
      exact h
  | cons d shape ih =>
      -- The two products agree up to the sign of a zero, and so they do after another factor.
      apply ih
      calc Number.unsignedZero (x * Number.unsignedZero d)
          = Number.unsignedZero (Number.unsignedZero x *
              Number.unsignedZero (Number.unsignedZero d)) := (Number.unsignedZero_mul _ _).symm
        _ = Number.unsignedZero (Number.unsignedZero y * Number.unsignedZero d) := by
            rw [h, Number.unsignedZero_unsignedZero]
        _ = Number.unsignedZero (y * d) := Number.unsignedZero_mul _ _

/-- A shape still holds its elements when every negative zero in it has become zero. -/
theorem checkShape_unsignedZero {shape : List Float} {size : Nat}
    (h : checkShape shape size = .ok ()) :
    checkShape (shape.map Number.unsignedZero) size = .ok () := by
  rcases checkShape_eq_ok.mp h with ⟨hdims, hproduct⟩
  refine checkShape_eq_ok.mpr ⟨?_, ?_⟩
  · intro d hd
    rcases List.mem_map.mp hd with ⟨d', hd', rfl⟩
    rw [isDimension_unsignedZero]
    exact hdims d' hd'
  · have hfold : Number.unsignedZero (product (shape.map Number.unsignedZero)) =
        Number.unsignedZero (product shape) := foldl_unsignedZero shape rfl
    rw [← Number.beq_unsignedZero, hfold, Number.beq_unsignedZero]
    exact hproduct

/-- A shape of one dimension holds as many elements. -/
theorem checkShape_ofNat {n : Nat} (h : n < 2 ^ 53) : checkShape [Float.ofNat n] n = .ok () := by
  refine checkShape_eq_ok.mpr ⟨?_, ?_⟩
  · intro d hd
    rw [List.mem_singleton.mp hd]
    exact isDimension_ofNat h
  · have hf := Number.isFinite_ofNat h
    change (1 * Float.ofNat n == Float.ofNat n) = true
    rw [Number.one_mul_finite hf]
    exact Number.beq_self_of_isFinite hf

theorem eq_one_of_beq {x : Float} (h : ((1 : Float) == x) = true) : x = 1 := by
  have hone : (1 : Float).toModel.unpack = .finite .positive (2 ^ 52) (-52) (by positivity) :=
    Number.unpack_ofNat (n := 1) (by norm_num) (by norm_num)
  have hc : ((1 : Float).toModel.unpack.compare x.toModel.unpack == some .eq) = true := h
  apply Number.eq_of_unpack_eq
  rw [hone] at hc ⊢
  -- One has only one form, which is that of no other number.
  cases hx : x.toModel.unpack with
  | notANumber =>
      simp [hx, UnpackedFloat.compare] at hc
  | infinity s =>
      cases s <;> simp [hx, UnpackedFloat.compare] at hc
  | zero s =>
      simp [hx, UnpackedFloat.compare] at hc
  | finite s m e hp =>
      cases s with
      | negative =>
          simp [hx, UnpackedFloat.compare] at hc
      | positive =>
          simp only [hx, UnpackedFloat.compare, beq_iff_eq, Option.some.injEq,
            Ordering.then_eq_eq, Int.compare_eq_eq, Nat.compare_eq_eq] at hc
          exact Number.finite_congr _ _ hc.2.symm hc.1.symm

/-! ## Building again -/

/-- Octets of whole elements with an accepted shape make an array. -/
theorem fromBytes_of_checkShape {d : Dtype} {bs : Octets} {shape : List Float}
    (hw : bs.length % d.itemSize = 0) (hs : checkShape shape (bs.length / d.itemSize) = .ok ())
    (hne : shape ≠ []) : fromBytes d bs shape = .ok ⟨d, shape, bs⟩ := by
  have hempty : shape.isEmpty = false := List.isEmpty_eq_false_iff.mpr hne
  rw [fromBytes, if_neg (by omega), hempty, if_neg Bool.false_ne_true, ofOctets, hs]
  rfl

/-- An array with a dimension is built again from its parts. -/
theorem fromBytes_of_valid {a : NDArray} (h : a.Valid) (hne : a.shape ≠ []) :
    fromBytes a.dtype a.octets a.shape = .ok a :=
  fromBytes_of_checkShape h.whole h.shape hne

/-- An array without dimensions holds one element, and is built again with one dimension. -/
theorem fromBytes_of_scalar {a : NDArray} (h : a.Valid) (hs : a.shape = []) :
    fromBytes a.dtype a.octets [] = .ok ⟨a.dtype, [1], a.octets⟩ := by
  -- The empty product is one, so there is one element.
  have hsize := (checkShape_eq_ok.mp h.shape).2
  rw [hs] at hsize
  have hone : Float.ofNat a.size = 1 := eq_one_of_beq hsize
  have hcheck : checkShape [1] a.size = .ok () := by
    refine checkShape_eq_ok.mpr ⟨?_, ?_⟩
    · intro d hd
      rw [List.mem_singleton.mp hd]
      exact isDimension_ofNat (n := 1) (by norm_num)
    · rw [hone]
      rfl
  have hbuild := fromBytes_of_checkShape h.whole hcheck (by simp)
  rw [fromBytes, if_neg (by simp [h.whole])] at hbuild ⊢
  change ofOctets a.dtype a.octets [Float.ofNat a.size] = _
  rw [hone]
  exact hbuild

/-- An array that is built from octets of unknown origin is one, and it has a dimension. -/
theorem valid_of_fromBytes {d : Dtype} {bs : Octets} {shape : List Float} {a : NDArray}
    (h : fromBytes d bs shape = .ok a) : a.Valid ∧ a.shape ≠ [] := by
  rw [fromBytes] at h
  split at h
  · cases h
  · rename_i hwhole
    -- Whatever shape is taken has passed its check, and an empty one was replaced.
    obtain ⟨s, hs⟩ : ∃ s, (if shape.isEmpty then [Float.ofNat (bs.length / d.itemSize)] else shape) = s :=
      ⟨_, rfl⟩
    have hne : s ≠ [] := by
      rw [← hs]
      split
      · exact List.cons_ne_nil _ _
      · rename_i hempty
        exact fun hnil => hempty (List.isEmpty_iff.mpr hnil)
    rw [hs, ofOctets] at h
    cases hc : checkShape s (bs.length / d.itemSize) with
    | error e =>
        rw [hc] at h
        cases h
    | ok u =>
        rw [hc] at h
        cases h
        exact ⟨⟨not_not.mp hwhole, hc⟩, hne⟩

end NDArray

/-! ## Tables -/

/-- What building a table makes sure of: its columns and its labels fit its values. -/
structure Frame.Valid (f : Frame) : Prop where
  values : f.values.Valid
  columns : Frame.columnsFit f.columns f.values = true
  index : checkLabels f.values.rows f.index = .ok ()

/-- A valid table is accepted as it stands. -/
theorem Frame.make_of_valid {f : Frame} (h : f.Valid) :
    Frame.make f.columns f.values f.index = .ok f := by
  rw [Frame.make, h.columns, h.index]
  rfl

/-- A table that is built is one if its values are an array. -/
theorem Frame.valid_of_make {columns : List String} {values : NDArray}
    {index : Option (List Label)} {f : Frame} (hv : values.Valid)
    (h : Frame.make columns values index = .ok f) :
    f.Valid ∧ f.values = values ∧ f.index = index := by
  rw [Frame.make] at h
  cases hc : Frame.columnsFit columns values with
  | false =>
      rw [hc] at h
      cases h
  | true =>
      cases hl : checkLabels values.rows index with
      | error e =>
          rw [hc, hl] at h
          cases h
      | ok u =>
          rw [hc, hl] at h
          cases h
          exact ⟨⟨hv, hc, hl⟩, rfl, rfl⟩

end LineRpc
