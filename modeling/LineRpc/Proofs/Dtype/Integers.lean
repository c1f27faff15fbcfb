import LineRpc.Proofs.Dtype
import LineRpc.Proofs.Number.Integers

/-!
# Integers — elements of the integer kinds

An integer that is in the range of a kind is stored in its octets and read from them again: as an
exact integer in the 64-bit kinds, and as a number in all others. Octets that are read are stored as
the same octets.

* `Octets.ofNat_toNat`  : octets are those of their natural number
* `Dtype.Holds`         : integers in the range of a kind
* `Dtype.settle`        : an integer as it is read back
* `load_store`          : what is stored is read back
* `store_load`          : what is read is stored as it was
* `exists_storeAll`     : the same for many elements
* `storeAll_loadAll`    : octets that are read and stored again
-/

namespace LineRpc

/-! ## Octets of natural numbers -/

namespace Octets

theorem toNat_lt (bs : Octets) : toNat bs < 256 ^ bs.length := by
  induction bs with
  | nil =>
      simp [toNat]
  | cons b bs ih =>
      have hb : b.toNat < 256 := b.toNat_lt
      rw [toNat, List.length_cons, pow_succ]
      omega

/-- So many octets keep a natural number modulo their width. -/
theorem toNat_ofNat (count n : Nat) : toNat (ofNat count n) = n % 256 ^ count := by
  induction count generalizing n with
  | zero =>
      simp [ofNat, toNat, Nat.mod_one]
  | succ count ih =>
      have hlow : (UInt8.ofNat (n % 256)).toNat = n % 256 := by
        rw [UInt8.toNat_ofNat', Nat.mod_eq_of_lt (Nat.mod_lt n (by norm_num))]
      rw [ofNat, toNat, ih, hlow, pow_succ', Nat.mod_mul]

/-- Octets are those of the natural number that they stand for. -/
theorem ofNat_toNat (bs : Octets) : ofNat bs.length (toNat bs) = bs := by
  induction bs with
  | nil =>
      rfl
  | cons b bs ih =>
      have hb : b.toNat < 256 := b.toNat_lt
      have hlow : (b.toNat + 256 * toNat bs) % 256 = b.toNat := by omega
      have hrest : (b.toNat + 256 * toNat bs) / 256 = toNat bs := by omega
      rw [toNat, List.length_cons, ofNat, hlow, hrest, ih, UInt8.ofNat_toNat]

end Octets

/-- The integer that an element is, if it is one. -/
def Scalar.integer? : Scalar → Option Int
  | .num x => Number.integer? x
  | .int i => some i

namespace Dtype

/-! ## Integers in a kind -/

/-- A kind whose elements are integers. -/
def Integral (d : Dtype) : Prop :=
  d ≠ .f64 ∧ d ≠ .f32

instance (d : Dtype) : Decidable d.Integral :=
  inferInstanceAs (Decidable (d ≠ .f64 ∧ d ≠ .f32))

/-- An integer is in the range of a kind. -/
def Holds (d : Dtype) (i : Int) : Prop :=
  if d.isSigned then -(d.modulus : Int) ≤ i * 2 ∧ i * 2 < d.modulus else 0 ≤ i ∧ i < d.modulus

instance (d : Dtype) (i : Int) : Decidable (d.Holds i) :=
  inferInstanceAs (Decidable
    (if d.isSigned then -(d.modulus : Int) ≤ i * 2 ∧ i * 2 < d.modulus else 0 ≤ i ∧ i < d.modulus))

/-- The element that an integer is in a kind: an exact integer in a 64-bit kind, and a number in any
other. -/
def ofInteger (d : Dtype) (i : Int) : Scalar :=
  if d.isWide then .int i else .num (Float.ofInt i)

/-- An element as it is read back after it was stored: an integer is what it is in the kind. -/
def settle (d : Dtype) (x : Scalar) : Scalar :=
  match x.integer? with
  | some i => d.ofInteger i
  | none => x

variable {d : Dtype} {i : Int} {x : Scalar} {bs : Octets}

theorem modulus_eq (d : Dtype) : d.modulus = 256 ^ d.itemSize :=
  rfl

theorem modulus_pos (d : Dtype) : 0 < d.modulus := by
  rw [modulus_eq]
  positivity

/-- An integer of a kind that is not of 64 bits is stored as a number exactly. -/
theorem natAbs_lt_of_holds (hd : d.Integral) (hw : d.isWide = false) (h : d.Holds i) :
    i.natAbs < 2 ^ 53 := by
  -- The kinds that are left have four octets or fewer.
  have hwidth : d.modulus ≤ 2 ^ 32 := by
    cases d with
    | f64 => exact absurd rfl hd.1
    | i64 | u64 => cases hw
    | _ => decide
  rw [Holds] at h
  split at h
  · omega
  · omega

/-- An integer that the kind holds is read back from its element. -/
theorem integer?_ofInteger (hd : d.Integral) (h : d.Holds i) : (d.ofInteger i).integer? = some i := by
  rw [ofInteger]
  split
  · rfl
  · rename_i hw
    exact Number.integer?_ofInt (natAbs_lt_of_holds hd (by simpa using hw) h)

/-- An integer of a kind stays as it is. -/
theorem settle_ofInteger (hd : d.Integral) (h : d.Holds i) :
    d.settle (d.ofInteger i) = d.ofInteger i := by
  rw [settle, integer?_ofInteger hd h]

/-! ## Storing and reading -/

/-- The octets of an integer stand for what is left of it modulo the width. -/
theorem toNat_wrap (d : Dtype) (i : Int) : (Octets.toNat (d.wrap i) : Int) = i % d.modulus := by
  have hpos : (0 : Int) < d.modulus := by exact_mod_cast d.modulus_pos
  have hnonneg := Int.emod_nonneg i hpos.ne'
  have hlt := Int.emod_lt_of_pos i hpos
  have hsmall : (i % d.modulus).toNat < d.modulus := by omega
  rw [wrap, Octets.toNat_ofNat, ← modulus_eq, Nat.mod_eq_of_lt hsmall, Int.toNat_of_nonneg hnonneg]

/-- An integer in the range is read from its octets. -/
theorem integer_wrap (h : d.Holds i) : d.integer (d.wrap i) = i := by
  rw [Holds] at h
  rw [integer, toNat_wrap]
  split
  · rename_i hsigned
    rw [if_pos hsigned] at h
    rw [Int.emod_bmod]
    exact Int.bmod_eq_of_le_mul_two h.1 h.2
  · rename_i hsigned
    rw [if_neg hsigned] at h
    exact Int.emod_eq_of_lt h.1 h.2

theorem toNat_lt_modulus (h : bs.length = d.itemSize) : Octets.toNat bs < d.modulus := by
  rw [modulus_eq, ← h]
  exact Octets.toNat_lt bs

/-- The integer of octets is in the range of the kind. -/
theorem holds_integer (h : bs.length = d.itemSize) : d.Holds (d.integer bs) := by
  have hlt := toNat_lt_modulus h
  have hpos := d.modulus_pos
  rw [Holds, integer]
  split
  · -- The remainder that is nearest to zero lies in the range of a signed kind.
    have hlow := Int.le_bmod (x := Octets.toNat bs) hpos
    have hhigh := Int.bmod_lt (x := Octets.toNat bs) hpos
    omega
  · omega

/-- The octets of an element stand for an integer modulo the width. -/
theorem integer_emod (d : Dtype) (bs : Octets) :
    d.integer bs % d.modulus = (Octets.toNat bs : Int) % d.modulus := by
  rw [integer]
  split
  · exact Int.bmod_emod
  · rfl

/-- Octets are those of the integer that they stand for. -/
theorem wrap_integer (h : bs.length = d.itemSize) : d.wrap (d.integer bs) = bs := by
  have hlt := toNat_lt_modulus h
  have hmod : (d.integer bs % d.modulus).toNat = Octets.toNat bs := by
    rw [integer_emod, ← Int.natCast_mod, Int.toNat_natCast, Nat.mod_eq_of_lt hlt]
  rw [wrap, hmod, ← h]
  exact Octets.ofNat_toNat bs

/-- Loading gives the integer that the octets spell. -/
theorem load_eq (hd : d.Integral) (bs : Octets) : d.load bs = d.ofInteger (d.integer bs) := by
  cases d with
  | f64 =>
      exact absurd rfl hd.1
  | f32 =>
      exact absurd rfl hd.2
  | _ =>
      rfl

/-- A wide kind stores the integer itself, wrapped. -/
theorem store_wide (hw : d.isWide = true) (hx : x.integer? = some i) : d.store x = .ok (d.wrap i) := by
  cases x with
  | int j =>
      cases hx
      cases d with
      | i64 | u64 => rfl
      | _ => cases hw
  | num n =>
      have hn : Number.integer? n = some i := hx
      cases d with
      | i64 | u64 => simp only [store, hn]
      | _ => cases hw

/-- A narrow one goes through a double first, and drops the fraction. -/
theorem store_narrow (hd : d.Integral) (hw : d.isWide = false) (x : Scalar) :
    d.store x = .ok (d.wrap (Number.truncate x.toNumber)) := by
  cases d with
  | f64 => exact absurd rfl hd.1
  | f32 => exact absurd rfl hd.2
  | i64 | u64 => cases hw
  | _ => rfl

/-- An integer in the range of a kind is stored in its octets. -/
theorem store_eq (hd : d.Integral) (hx : x.integer? = some i) (h : d.Holds i) :
    d.store x = .ok (d.wrap i) := by
  cases hw : d.isWide with
  | true =>
      exact store_wide hw hx
  | false =>
      -- The number that is cut is the integer itself.
      have hnumber : Number.integer? x.toNumber = some i := by
        cases x with
        | int j =>
            cases hx
            exact Number.integer?_ofInt (natAbs_lt_of_holds hd hw h)
        | num n =>
            exact hx
      rw [store_narrow hd hw, Number.truncate_of_integer? hnumber]

/-- What is stored in an integer kind is read back. -/
theorem load_store (hd : d.Integral) (hx : x.integer? = some i) (h : d.Holds i) :
    ∃ bs, d.store x = .ok bs ∧ d.load bs = d.settle x := by
  refine ⟨d.wrap i, store_eq hd hx h, ?_⟩
  rw [load_eq hd, integer_wrap h, settle, hx]

/-- What is read from octets of an integer kind is stored in the same octets. -/
theorem store_load (hd : d.Integral) (h : bs.length = d.itemSize) :
    d.store (d.load bs) = .ok bs := by
  have hholds := holds_integer h
  rw [load_eq hd, store_eq hd (integer?_ofInteger hd hholds) hholds, wrap_integer h]

/-! ## Many elements -/

/-- Integers in the range of a kind are stored and read back. -/
theorem exists_storeAll (hd : d.Integral) {xs : List Scalar}
    (h : ∀ x ∈ xs, ∃ i, x.integer? = some i ∧ d.Holds i) :
    ∃ bs, d.storeAll xs = .ok bs ∧ d.loadAll bs = xs.map d.settle := by
  induction xs with
  | nil =>
      exact ⟨[], rfl, by simp [loadAll]⟩
  | cons x xs ih =>
      obtain ⟨⟨i, hi, hholds⟩, hrest⟩ := List.forall_mem_cons.mp h
      obtain ⟨g, hg, hload⟩ := load_store hd hi hholds
      obtain ⟨bs, hbs, hloads⟩ := ih hrest
      refine ⟨g ++ bs, storeAll_cons hg hbs, ?_⟩
      have hlength : g.length = 1 * d.itemSize := by
        rw [length_store hg, Nat.one_mul]
      rw [loadAll_append hlength, hloads, loadAll_of_length (length_store hg), hload, List.map_cons,
        List.singleton_append]

/-- Whole octets that are read are stored as they were. -/
theorem storeAll_loadAll (hd : d.Integral) {n : Nat} (h : bs.length = n * d.itemSize) :
    d.storeAll (d.loadAll bs) = .ok bs := by
  obtain ⟨-, hfull⟩ := Octets.groups_of_length d.itemSize_pos h
  have hgroups : (d.loadAll bs).mapM d.store = .ok (Octets.groups d.itemSize bs) := by
    refine mapM_eq_ok.mpr ?_
    rw [loadAll, List.forall₂_map_left_iff, List.forall₂_same]
    intro g hg
    exact store_load hd (hfull g hg)
  rw [storeAll, hgroups]
  exact congrArg Except.ok (Octets.flatten_groups d.itemSize_pos h)

end Dtype
end LineRpc
