import Mathlib
import LineRpc.Number.Exact

/-!
# Packed — a number as its bits and as its parts

A number is stored as sixty-four bits and worked with as a sign, a mantissa and an exponent. The two
forms determine each other: no number has two lists of parts, and parts in canonical form survive
being stored.

* `Canonical`            : the mantissa and exponent of a stored finite number
* `canonical_of_unpack`  : stored numbers have canonical parts
* `unpack_pack_finite`   : canonical parts can be stored
* `eq_of_unpack_eq`      : numbers with the same parts are the same
-/

namespace LineRpc
namespace Number

open Float.Model Float.Model.UnpackedFloat

/-! ## Bits and fields -/

theorem toBitVec_ofBitVec (b : BitVec 1) : (Sign.ofBitVec b).toBitVec = b := by
  revert b
  decide

@[simp]
theorem ofBitVec_toBitVec (s : Sign) : Sign.ofBitVec s.toBitVec = s := by
  cases s <;> rfl

/-- Bits are what their three fields make. -/
theorem packComponents_parts {spec : Format} (b : BitVec spec.numBits) :
    packComponents spec (Sign.ofBitVec (unpackSign b)) (unpackExponent b) (unpackMantissa b) = b := by
  have hm := spec.hm
  have he := spec.he
  apply BitVec.eq_of_getLsbD_eq
  intro i hi
  simp only [packComponents, toBitVec_ofBitVec, unpackSign, unpackExponent, unpackMantissa,
    BitVec.getLsbD_append, BitVec.getLsbD_cast, BitVec.getLsbD_extractLsb]
  grind

@[simp]
theorem unpackSign_packComponents {spec : Format} {s : Sign} {x : BitVec spec.exponentBits}
    {m : BitVec spec.mantissaBitsWithoutImplicit} :
    unpackSign (packComponents spec s x m) = s.toBitVec := by
  apply BitVec.eq_of_getLsbD_eq
  intro i hi
  simp only [unpackSign, packComponents, BitVec.getLsbD_append, BitVec.getLsbD_cast,
    BitVec.getLsbD_extractLsb]
  grind

/-- The sign of a stored number. -/
def signField (f : Float.Model) : Sign :=
  Sign.ofBitVec (@unpackSign Format.binary64 f.toBits.toBitVec)

/-- The exponent bits of a stored number. -/
def exponentField (f : Float.Model) : BitVec 11 :=
  @unpackExponent Format.binary64 f.toBits.toBitVec

/-- The mantissa bits of a stored number. -/
def mantissaField (f : Float.Model) : BitVec 52 :=
  @unpackMantissa Format.binary64 f.toBits.toBitVec

theorem toNat_append_one {w : Nat} (v : BitVec w) : (1#1 ++ v).toNat = 2 ^ w + v.toNat := by
  have h := Nat.two_pow_add_eq_or_of_lt v.isLt 1
  rw [BitVec.toNat_append, Nat.shiftLeft_eq]
  simpa using h.symm

theorem finite_congr {s : Sign} {m m' : Nat} {e e' : Int} (hp : 0 < m) (hp' : 0 < m')
    (hm : m = m') (he : e = e') :
    UnpackedFloat.finite s m e hp = UnpackedFloat.finite s m' e' hp' := by
  subst hm he
  rfl

/-! ## Parts of a stored number -/

/-- The greatest exponent field means infinity or NaN. -/
theorem unpack_special {f : Float.Model} (he : exponentField f = -1#11) :
    f.unpack = if mantissaField f = 0#52 then .infinity (signField f) else .notANumber := by
  have he' : @unpackExponent Format.binary64 f.toBits.toBitVec = -1#11 := he
  simp only [Float.Model.unpack, UnpackedFloat.unpack]
  rw [if_pos he']
  rfl

/-- The least one means zero or a subnormal number. -/
theorem unpack_low {f : Float.Model} (he : exponentField f = 0#11) :
    f.unpack =
      if h : mantissaField f = 0#52 then .zero (signField f)
      else .finite (signField f) (mantissaField f).toNat (-1074)
        (by simpa [BitVec.toNat_pos, BitVec.pos_iff_ne_zero] using h) := by
  have he' : @unpackExponent Format.binary64 f.toBits.toBitVec = 0#11 := he
  have hne : (0#11 : BitVec 11) ≠ -1#11 := by decide
  simp only [Float.Model.unpack, UnpackedFloat.unpack]
  simp only [he', hne, if_false, if_true]
  by_cases hm : mantissaField f = 0#52
  · have hm' : @unpackMantissa Format.binary64 f.toBits.toBitVec = 0#52 := hm
    rw [dif_pos hm, dif_pos hm']
    rfl
  · have hm' : @unpackMantissa Format.binary64 f.toBits.toBitVec ≠ 0#52 := hm
    rw [dif_neg hm, dif_neg hm']
    exact finite_congr _ _ rfl (by decide)

theorem unpack_full {f : Float.Model} (he : exponentField f ≠ -1#11)
    (he₀ : exponentField f ≠ 0#11) :
    f.unpack =
      .finite (signField f) (2 ^ 52 + (mantissaField f).toNat)
        ((exponentField f).toNat - 1075) (by positivity) := by
  have he' : @unpackExponent Format.binary64 f.toBits.toBitVec ≠ -1#11 := he
  have he₀' : @unpackExponent Format.binary64 f.toBits.toBitVec ≠ 0#11 := he₀
  have hbias : Format.binary64.exponentBias = 1023 := by decide
  simp only [Float.Model.unpack, UnpackedFloat.unpack]
  rw [if_neg he', if_neg he₀', hbias]
  refine finite_congr _ _ (toNat_append_one _) ?_
  have hx : (@unpackExponent Format.binary64 f.toBits.toBitVec).toNat = (exponentField f).toNat :=
    rfl
  omega

/-! ## Canonical form -/

/-- The parts of a stored finite number. The mantissa has fifty-three bits, or fewer of them at the
least exponent. -/
structure Canonical (m : Nat) (e : Int) : Prop where
  pos : 0 < m
  lt : m < 2 ^ 53
  low : -1074 ≤ e
  high : e ≤ 971
  full : 2 ^ 52 ≤ m ∨ e = -1074

/-- An unpacked number is in canonical form. -/
theorem canonical_of_unpack {f : Float.Model} {s : Sign} {m : Nat} {e : Int} {hp : 0 < m}
    (h : f.unpack = .finite s m e hp) : Canonical m e := by
  have hman := (mantissaField f).isLt
  have hexp := (exponentField f).isLt
  by_cases he : exponentField f = -1#11
  · rw [unpack_special he] at h
    split at h <;> cases h
  by_cases he₀ : exponentField f = 0#11
  · -- Without exponent bits the number is zero or has a short mantissa.
    rw [unpack_low he₀] at h
    split at h
    · cases h
    · injection h with _ hm he
      exact ⟨hp, by omega, by omega, by omega, Or.inr (by omega)⟩
  · have hne : (exponentField f).toNat ≠ 2047 := BitVec.toNat_ne.mp he
    have hne₀ : (exponentField f).toNat ≠ 0 := BitVec.toNat_ne.mp he₀
    rw [unpack_full he he₀] at h
    injection h with _ hm he
    exact ⟨hp, by omega, by omega, by omega, Or.inl (by omega)⟩

theorem log2_of_full {m : Nat} (hl : 2 ^ 52 ≤ m) (hu : m < 2 ^ 53) : m.log2 = 52 :=
  (Nat.log2_eq_iff (by omega)).mpr ⟨hl, hu⟩

/-- A full mantissa is packed without its first bit. -/
theorem pack_finite_full {s : Sign} {m : Nat} {e : Int} (hp : 0 < m) (hl : 2 ^ 52 ≤ m)
    (hu : m < 2 ^ 53) (hlow : -1074 ≤ e) (hhigh : e ≤ 971) :
    UnpackedFloat.pack Format.binary64 (.finite s m e hp) =
      packComponents Format.binary64 s (BitVec.ofNat 11 (e + 1075).toNat) (BitVec.ofNat 52 m) := by
  have hlog : m.log2 + 1 = Format.binary64.mantissaBits := by
    rw [log2_of_full hl hu]
    rfl
  have hb : (e + (Format.binary64.exponentBias : Nat) + (52 : Nat)).toNat = (e + 1075).toNat := by
    have hbias : Format.binary64.exponentBias = 1023 := by decide
    omega
  simp only [UnpackedFloat.pack, hb, hlog, if_true]
  rw [if_neg (by omega)]

/-- A short one is packed as a subnormal number. -/
theorem pack_finite_low {s : Sign} {m : Nat} (hp : 0 < m) (hu : m < 2 ^ 52) :
    UnpackedFloat.pack Format.binary64 (.finite s m (-1074) hp) =
      packComponents Format.binary64 s 0#11 (BitVec.ofNat 52 m) := by
  have hlog : m.log2 + 1 ≠ Format.binary64.mantissaBits := by
    have hlt : m.log2 < 52 := (Nat.log2_lt (by omega)).mpr hu
    have hbits : Format.binary64.mantissaBits = 53 := by decide
    omega
  have hb : ((-1074 : Int) + (Format.binary64.exponentBias : Nat) + (52 : Nat)).toNat = 1 := by
    decide
  simp only [UnpackedFloat.pack, hb, hlog, if_false]
  rw [if_neg (by decide)]

theorem unpack_pack_full {s : Sign} {m : Nat} {e : Int} (hp : 0 < m) (hl : 2 ^ 52 ≤ m)
    (hu : m < 2 ^ 53) (hlow : -1074 ≤ e) (hhigh : e ≤ 971) :
    (Float.Model.pack (.finite s m e hp)).unpack = .finite s m e hp := by
  have hexp : (BitVec.ofNat 11 (e + 1075).toNat).toNat = (e + 1075).toNat := by
    rw [BitVec.toNat_ofNat, Nat.mod_eq_of_lt (by omega)]
  have hman : (BitVec.ofNat 52 m).toNat = m - 2 ^ 52 := by
    rw [BitVec.toNat_ofNat]
    omega
  have hbias : Format.binary64.exponentBias = 1023 := by decide
  -- The exponent bits are neither of the two reserved patterns.
  have hspecial : BitVec.ofNat 11 (e + 1075).toNat ≠ -1#11 := by
    refine BitVec.toNat_ne.mpr ?_
    have hones : (-1#11 : BitVec 11).toNat = 2047 := by decide
    rw [hexp, hones]
    omega
  have hzero : BitVec.ofNat 11 (e + 1075).toNat ≠ 0#11 := by
    refine BitVec.toNat_ne.mpr ?_
    rw [hexp, BitVec.toNat_zero]
    omega
  simp only [Float.Model.pack, Float.Model.unpack]
  rw [pack_finite_full hp hl hu hlow hhigh]
  simp only [UnpackedFloat.unpack, unpackExponent_packComponents, unpackMantissa_packComponents,
    unpackSign_packComponents, ofBitVec_toBitVec]
  rw [if_neg hspecial, if_neg hzero]
  refine finite_congr _ _ ?_ ?_
  · rw [toNat_append_one, hman]
    omega
  · rw [hexp, hbias]
    omega

theorem unpack_pack_low {s : Sign} {m : Nat} (hp : 0 < m) (hu : m < 2 ^ 52) :
    (Float.Model.pack (.finite s m (-1074) hp)).unpack = .finite s m (-1074) hp := by
  have hman : (BitVec.ofNat 52 m).toNat = m := by
    rw [BitVec.toNat_ofNat]
    omega
  have hzero : BitVec.ofNat 52 m ≠ 0#52 := by
    refine BitVec.toNat_ne.mpr ?_
    rw [hman, BitVec.toNat_zero]
    omega
  simp only [Float.Model.pack, Float.Model.unpack]
  rw [pack_finite_low hp hu]
  simp only [UnpackedFloat.unpack, unpackExponent_packComponents, unpackMantissa_packComponents,
    unpackSign_packComponents, ofBitVec_toBitVec]
  rw [if_neg (by decide), if_pos trivial, dif_neg hzero]
  exact finite_congr _ _ hman (by decide)

/-- A canonical number is given back by its bits. -/
theorem unpack_pack_finite {s : Sign} {m : Nat} {e : Int} (hp : 0 < m) (h : Canonical m e) :
    (Float.Model.pack (.finite s m e hp)).unpack = .finite s m e hp := by
  by_cases hl : 2 ^ 52 ≤ m
  · exact unpack_pack_full hp hl h.lt h.low h.high
  · have he : e = -1074 := h.full.resolve_left hl
    subst he
    exact unpack_pack_low hp (Nat.not_le.mp hl)

/-! ## Storing the parts of a stored number -/

section Formats

variable {spec : Format} {b : BitVec spec.numBits}

/-- A number without exponent bits has a short mantissa, and is stored without exponent bits. -/
theorem pack_unpack_low (hbits : 1 < spec.exponentBits) (he : unpackExponent b = 0#_) :
    UnpackedFloat.pack spec (UnpackedFloat.unpack spec b) = b := by
  have hparts := packComponents_parts b
  rw [he] at hparts
  have hwide : 2 ^ 2 ≤ 2 ^ spec.exponentBits := Nat.pow_le_pow_right (by norm_num) hbits
  have hne : (0#_ : BitVec spec.exponentBits) ≠ -1#_ := by
    rw [BitVec.neg_one_eq_allOnes]
    refine BitVec.toNat_ne.mpr ?_
    rw [BitVec.toNat_allOnes, BitVec.toNat_zero]
    omega
  rw [UnpackedFloat.unpack, he, if_neg hne, if_pos rfl]
  split
  · -- Without mantissa bits the number is zero.
    rename_i hm
    rw [hm] at hparts
    exact hparts
  · rename_i hm
    have hm : (unpackMantissa b).toNat ≠ 0 := fun h => hm (BitVec.eq_of_toNat_eq (by simpa using h))
    have hlog : (unpackMantissa b).toNat.log2 + 1 ≠ spec.mantissaBits := by
      have hlt := (Nat.log2_lt hm).mpr (unpackMantissa b).isLt
      rw [Format.mantissaBits]
      omega
    have hone : (((0#_ : BitVec spec.exponentBits).toNat : Int) - (spec.exponentBias +
        spec.mantissaBitsWithoutImplicit) + 1 + spec.exponentBias +
        spec.mantissaBitsWithoutImplicit).toNat = 1 := by
      rw [BitVec.toNat_zero]
      omega
    simp only [UnpackedFloat.pack]
    rw [hone, if_neg (by omega), if_neg hlog]
    simpa using hparts

/-- A number with some exponent bits has a mantissa of full length, and its first bit is not stored.
-/
theorem pack_unpack_full (he : unpackExponent b ≠ -1#_) (he₀ : unpackExponent b ≠ 0#_) :
    UnpackedFloat.pack spec (UnpackedFloat.unpack spec b) = b := by
  have hman := (unpackMantissa b).isLt
  have hexp := (unpackExponent b).isLt
  have hne : (unpackExponent b).toNat + 1 ≠ 2 ^ spec.exponentBits := by
    intro h
    refine he (BitVec.eq_of_toNat_eq ?_)
    rw [BitVec.neg_one_eq_allOnes, BitVec.toNat_allOnes]
    omega
  -- The bit in front makes the mantissa one of full length.
  have hfull := toNat_append_one (unpackMantissa b)
  have hlog : (1#1 ++ unpackMantissa b).toNat.log2 + 1 = spec.mantissaBits := by
    have h : (1#1 ++ unpackMantissa b).toNat.log2 = spec.mantissaBitsWithoutImplicit :=
      (Nat.log2_eq_iff (by omega)).mpr (by omega)
    rw [h, Format.mantissaBits, Nat.add_comm]
  have hsame : (((unpackExponent b).toNat : Int) - (spec.exponentBias +
      spec.mantissaBitsWithoutImplicit) + spec.exponentBias +
      spec.mantissaBitsWithoutImplicit).toNat = (unpackExponent b).toNat := by
    omega
  have hmantissa : BitVec.ofNat spec.mantissaBitsWithoutImplicit
      (1#1 ++ unpackMantissa b).toNat = unpackMantissa b := by
    refine BitVec.eq_of_toNat_eq ?_
    rw [BitVec.toNat_ofNat, hfull, Nat.add_mod_left, Nat.mod_eq_of_lt hman]
  rw [UnpackedFloat.unpack, if_neg he, if_neg he₀]
  simp only [UnpackedFloat.pack]
  rw [hsame, if_neg (by omega), if_pos hlog, hmantissa, BitVec.ofNat_toNat, BitVec.setWidth_eq]
  exact packComponents_parts b

/-- Bits are those of their parts, if what is not a number has the one form that it is stored in. -/
theorem pack_unpack_of_valid (hbits : 1 < spec.exponentBits) (hv : spec.Valid b) :
    UnpackedFloat.pack spec (UnpackedFloat.unpack spec b) = b := by
  -- An exponent of all ones or of all zeros has a form of its own.
  by_cases he : unpackExponent b = -1#_
  · have hparts := packComponents_parts b
    rw [he] at hparts
    rw [UnpackedFloat.unpack, if_pos he]
    split
    · rename_i hm
      rw [hm] at hparts
      exact hparts
    · rename_i hm
      exact (hv.eq_packedNaN he hm).symm
  · by_cases he₀ : unpackExponent b = 0#_
    · exact pack_unpack_low hbits he₀
    · exact pack_unpack_full he he₀

end Formats

theorem pack_unpack_bits (f : Float.Model) :
    UnpackedFloat.pack Format.binary64 f.unpack = f.toBits.toBitVec :=
  pack_unpack_of_valid (by decide) f.valid

/-- The bits are given back by what was unpacked from them. -/
@[simp]
theorem pack_unpack (f : Float.Model) : Float.Model.pack f.unpack = f := by
  rcases f with ⟨bits, valid⟩
  simp only [Float.Model.pack, pack_unpack_bits]

/-- Doubles that unpack alike are the same. -/
theorem eq_of_unpack_eq {x y : Float} (h : x.toModel.unpack = y.toModel.unpack) : x = y := by
  have hm : x.toModel = y.toModel := by
    rw [← pack_unpack x.toModel, h, pack_unpack]
  cases x
  cases y
  exact congrArg Float.ofModel hm

/-- A number is known by its sign, mantissa and exponent. -/
theorem ofModel_pack_of_unpack {x : Float} {u : UnpackedFloat} (h : x.toModel.unpack = u) :
    Float.ofModel (Float.Model.pack u) = x := by
  rw [← h, pack_unpack]

end Number
end LineRpc
