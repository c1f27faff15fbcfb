import LineRpc.Proofs.Dtype.Integers
import LineRpc.Proofs.Number.Single

/-!
# Stored — elements that are stored again

An element that was read from octets of its kind can be stored, and is read as it was; octets that
an element was stored in are those that it is stored in when it is read from them. Both hold in
every kind: numbers of 64 bits are read and stored exactly, and those of 32 bits are rounded once at
most. Only for octets of unknown origin the two differ, since what is not a number is stored in one
form.

* `Element`            : what octets are read as
* `store_load_store`   : octets that an element was stored in
* `exists_store`       : an element that was read
* `forall₂_loadAll`    : the first of these for many elements
* `exists_storeAll_of_element` : the second of these for many elements
-/

namespace LineRpc

/-- Octets are cut where groups of one length were joined. -/
theorem Octets.groups_flatten {size : Nat} (hpos : 0 < size) {groups : List Octets}
    (h : ∀ g ∈ groups, g.length = size) : Octets.groups size groups.flatten = groups := by
  induction groups with
  | nil =>
      exact Octets.groups_nil size
  | cons g groups ih =>
      obtain ⟨hg, hrest⟩ := List.forall_mem_cons.mp h
      rw [List.flatten_cons, Octets.groups_append hpos hg, ih hrest]

namespace Dtype

variable {d : Dtype} {x : Scalar} {xs ys : List Scalar} {bs g : Octets}

/-- What octets of a kind are read as. -/
def Element (d : Dtype) (x : Scalar) : Prop :=
  ∃ g : Octets, g.length = d.itemSize ∧ d.load g = x

/-! ## One element -/

/-- A double is given back by its bits. -/
theorem ofBits_toBits (x : Float) : Float.ofBits x.toBits = x :=
  Number.ofModel_pack_of_unpack rfl

/-- A number of 64 bits is read from its octets. -/
theorem load_bits (x : Float) : Dtype.f64.load (Octets.ofNat 8 x.toBits.toNat) = .num x := by
  have hlt : x.toBits.toNat < 256 ^ 8 := x.toBits.toNat_lt
  have hbits : Octets.toNat (Octets.ofNat 8 x.toBits.toNat) = x.toBits.toNat := by
    rw [Octets.toNat_ofNat, Nat.mod_eq_of_lt hlt]
  rw [load, hbits, UInt64.ofNat_toNat, ofBits_toBits]

/-- The octets of 32 bits are read as the number that these stand for. -/
theorem load_bits32 (b : UInt32) :
    Dtype.f32.load (Octets.ofNat 4 b.toNat) = .num (Number.ofBits32 b) := by
  have hlt : b.toNat < 256 ^ 4 := b.toNat_lt
  have hbits : Octets.toNat (Octets.ofNat 4 b.toNat) = b.toNat := by
    rw [Octets.toNat_ofNat, Nat.mod_eq_of_lt hlt]
  rw [load, hbits, UInt32.ofNat_toNat]

/-- What is read from an element that was stored is stored in the same octets. -/
theorem store_load_store (h : d.store x = .ok g) : d.store (d.load g) = .ok g := by
  have hlength := length_store h
  cases d with
  | f64 =>
      cases h
      rw [load_bits]
      rfl
  | f32 =>
      cases h
      rw [load_bits32]
      -- A number that was made short once is not changed by making it short again.
      exact congrArg (fun b : UInt32 => Except.ok (Octets.ofNat 4 b.toNat))
        (Number.toBits32_ofBits32_toBits32 _)
  | _ =>
      exact store_load (by decide) hlength

/-- What was read from octets can be stored, and is read as it was. -/
theorem exists_store (h : d.Element x) : ∃ g, d.store x = .ok g ∧ d.load g = x := by
  obtain ⟨g, hlength, rfl⟩ := h
  cases d with
  | f64 =>
      exact ⟨_, rfl, load_bits _⟩
  | f32 =>
      refine ⟨_, rfl, ?_⟩
      rw [load_bits32]
      exact congrArg Scalar.num (Number.ofBits32_toBits32 _)
  | _ =>
      exact ⟨g, store_load (by decide) hlength, rfl⟩

/-! ## Many elements -/

/-- What was loaded is an element of its kind. -/
theorem element_of_mem_loadAll {n : Nat} (h : bs.length = n * d.itemSize) (hx : x ∈ d.loadAll bs) :
    d.Element x := by
  obtain ⟨-, hfull⟩ := Octets.groups_of_length d.itemSize_pos h
  obtain ⟨g, hg, rfl⟩ := List.mem_map.mp hx
  exact ⟨g, hfull g hg, rfl⟩

/-- Elements that were read can be stored, and are read as they were. -/
theorem exists_storeAll_of_element (h : ∀ x ∈ xs, d.Element x) :
    ∃ bs, d.storeAll xs = .ok bs ∧ d.loadAll bs = xs := by
  induction xs with
  | nil =>
      exact ⟨[], rfl, by simp [loadAll]⟩
  | cons x xs ih =>
      obtain ⟨hx, hrest⟩ := List.forall_mem_cons.mp h
      obtain ⟨g, hg, hload⟩ := exists_store hx
      obtain ⟨bs, hbs, hloads⟩ := ih hrest
      refine ⟨g ++ bs, storeAll_cons hg hbs, ?_⟩
      have hlength : g.length = 1 * d.itemSize := by
        rw [length_store hg, Nat.one_mul]
      rw [loadAll_append hlength, hloads, loadAll_of_length (length_store hg), hload,
        List.singleton_append]

/-- Elements that are read from the octets of others are stored as these are. -/
theorem forall₂_loadAll (h : d.storeAll xs = .ok bs) :
    List.Forall₂ (fun x y => d.store y = d.store x) xs (d.loadAll bs) := by
  obtain ⟨groups, hgroups, hbs⟩ := ok_of_bind h
  cases hbs
  have hlengths : ∀ g ∈ groups, g.length = d.itemSize := by
    intro g hg
    obtain ⟨x, -, hx⟩ := exists_of_mem_mapM hgroups hg
    exact length_store hx
  rw [loadAll, Octets.groups_flatten d.itemSize_pos hlengths, List.forall₂_map_right_iff]
  refine (mapM_eq_ok.mp hgroups).imp ?_
  intro x g hx
  rw [store_load_store hx, hx]

/-- Lists of elements that are stored alike, one by one, have the same octets. -/
theorem storeAll_congr (h : List.Forall₂ (fun x y => d.store y = d.store x) xs ys) :
    d.storeAll ys = d.storeAll xs := by
  have hgroups : ys.mapM d.store = xs.mapM d.store := by
    induction h with
    | nil =>
        rfl
    | cons hx _ ih =>
        rw [List.mapM_cons, List.mapM_cons, hx, ih]
  rw [storeAll, storeAll, hgroups]

end Dtype
end LineRpc
