import LineRpc.Dtype
import LineRpc.Proofs.Codec.Elements

/-!
# Dtype — how much room elements take

Every element of a kind takes as many octets as its kind says. Octets that are whole elements are
cut into just so many groups, and storing elements gives just so many octets.

* `groups_of_length`: the number of groups in whole octets, and their length
* `length_storeAll` : the octets of stored elements
* `length_loadAll`  : the elements in whole octets
* `loadAll_drop`    : elements that are left out
* `loadAll_take`    : elements that are kept
-/

namespace LineRpc

/-! ## Groups -/

namespace Octets

variable {size : Nat}

@[simp]
theorem groups_nil (size : Nat) : groups size [] = [] := by
  simp [groups]

/-- A full group in front of other octets is cut off. -/
theorem groups_append (hpos : 0 < size) {g : Octets} (hg : g.length = size) (rest : Octets) :
    groups size (g ++ rest) = g :: groups size rest := by
  have hne : ¬ (size = 0 ∨ g ++ rest = []) := by
    rintro (hzero | hnil)
    · omega
    · have hlength := congrArg List.length hnil
      simp only [List.length_append, List.length_nil] at hlength
      omega
  rw [groups, dif_neg hne]
  simp [← hg]

/-- Octets of one group or more start with a full one. -/
theorem exists_first {n : Nat} {bs : Octets} (h : bs.length = (n + 1) * size) :
    ∃ g rest, g ++ rest = bs ∧ g.length = size ∧ rest.length = n * size := by
  have hlength : bs.length = n * size + size := by simpa [Nat.succ_mul] using h
  exact ⟨bs.take size, bs.drop size, List.take_append_drop _ _, by simp [hlength], by simp [hlength]⟩

/-- Whole octets are cut into as many full groups. -/
theorem groups_of_length (hpos : 0 < size) {n : Nat} {bs : Octets} (h : bs.length = n * size) :
    (groups size bs).length = n ∧ ∀ g ∈ groups size bs, g.length = size := by
  induction n generalizing bs with
  | zero =>
      have hnil : bs = [] := List.eq_nil_of_length_eq_zero (by simpa using h)
      simp [hnil]
  | succ n ih =>
      obtain ⟨g, rest, rfl, hg, hrest⟩ := exists_first h
      obtain ⟨hcount, hfull⟩ := ih hrest
      rw [groups_append hpos hg]
      exact ⟨by simp [hcount], List.forall_mem_cons.mpr ⟨hg, hfull⟩⟩

/-- Whole octets and what follows them are cut apart. -/
theorem groups_append_whole (hpos : 0 < size) {n : Nat} {bs : Octets} (h : bs.length = n * size)
    (after : Octets) : groups size (bs ++ after) = groups size bs ++ groups size after := by
  induction n generalizing bs with
  | zero =>
      have hnil : bs = [] := List.eq_nil_of_length_eq_zero (by simpa using h)
      simp [hnil]
  | succ n ih =>
      obtain ⟨g, rest, rfl, hg, hrest⟩ := exists_first h
      rw [List.append_assoc, groups_append hpos hg, groups_append hpos hg, ih hrest,
        List.cons_append]

/-- Groups make up the octets that they were cut from. -/
theorem flatten_groups (hpos : 0 < size) {n : Nat} {bs : Octets} (h : bs.length = n * size) :
    (groups size bs).flatten = bs := by
  induction n generalizing bs with
  | zero =>
      have hnil : bs = [] := List.eq_nil_of_length_eq_zero (by simpa using h)
      simp [hnil]
  | succ n ih =>
      obtain ⟨g, rest, rfl, hg, hrest⟩ := exists_first h
      rw [groups_append hpos hg, List.flatten_cons, ih hrest]

end Octets

/-! ## Elements -/

namespace Dtype

variable {d : Dtype} {x : Scalar} {xs : List Scalar} {bs : Octets}

theorem length_wrap (d : Dtype) (i : Int) : (d.wrap i).length = d.itemSize :=
  Octets.length_ofNat _ _

/-- An element takes as many octets as its kind says. -/
theorem length_store (h : d.store x = .ok bs) : bs.length = d.itemSize := by
  have hwide {i : Int} (hi : Except.ok (d.wrap i) = (.ok bs : Except ArrayError Octets)) :
      bs.length = d.itemSize := by
    cases hi
    exact length_wrap d i
  cases d with
  | f64 | f32 =>
      cases h
      exact Octets.length_ofNat _ _
  | i64 | u64 =>
      -- A number that is no integer is not stored.
      cases x with
      | int i =>
          exact hwide h
      | num n =>
          rw [store] at h
          cases hn : Number.integer? n with
          | none =>
              simp [hn] at h
          | some i =>
              exact hwide (by simpa [hn] using h)
  | i32 | i16 | i8 | u32 | u16 | u8 =>
      exact hwide h

/-- Only a number that is no integer is not stored, and only in a kind of exact integers. -/
theorem error_of_store {e : ArrayError} (h : d.store x = .error e) : ∃ n, e = .notInteger n := by
  cases d with
  | i64 | u64 =>
      cases x with
      | int i =>
          cases h
      | num n =>
          rw [store] at h
          cases hn : Number.integer? n with
          | none =>
              exact ⟨n, by simpa [hn] using h.symm⟩
          | some i =>
              simp [hn] at h
  | _ =>
      cases h

/-- Each stored element takes the size of its kind. -/
theorem length_storeAll (h : d.storeAll xs = .ok bs) : bs.length = xs.length * d.itemSize := by
  obtain ⟨groups, hgroups, hbs⟩ := ok_of_bind h
  have hflat : groups.flatten = bs := by
    cases hbs
    rfl
  have heach : ∀ g ∈ groups, g.length = d.itemSize := by
    intro g hg
    obtain ⟨x, -, hx⟩ := exists_of_mem_mapM hgroups hg
    exact length_store hx
  have hcount : groups.length = xs.length := length_of_mapM hgroups
  have hsum : (groups.map List.length).sum = groups.length * d.itemSize := by
    simp [List.map_congr_left heach]
  simp [← hflat, List.length_flatten, hsum, hcount]

/-- Elements are stored one after the other. -/
theorem storeAll_cons {g : Octets} (hx : d.store x = .ok g) (hxs : d.storeAll xs = .ok bs) :
    d.storeAll (x :: xs) = .ok (g ++ bs) := by
  obtain ⟨groups, hgroups, hbs⟩ := ok_of_bind hxs
  cases hbs
  have hmap : (x :: xs).mapM d.store = .ok (g :: groups) :=
    mapM_eq_ok.mpr (.cons hx (mapM_eq_ok.mp hgroups))
  rw [storeAll, hmap]
  rfl

/-- Storing fails only at what is no integer. -/
theorem error_of_storeAll {e : ArrayError} (h : d.storeAll xs = .error e) :
    ∃ n, e = .notInteger n := by
  rcases error_of_bind h with hitems | ⟨groups, -, hdone⟩
  · obtain ⟨x, -, hx⟩ := exists_of_mapM_error hitems
    exact error_of_store hx
  · cases hdone

/-- As many elements are loaded as there are groups of octets. -/
theorem length_loadAll {n : Nat} (h : bs.length = n * d.itemSize) : (d.loadAll bs).length = n := by
  simpa [loadAll] using (Octets.groups_of_length d.itemSize_pos h).1

/-- The octets of one element are read as this element. -/
theorem loadAll_of_length (h : bs.length = d.itemSize) : d.loadAll bs = [d.load bs] := by
  have hcut := Octets.groups_append d.itemSize_pos h []
  rw [List.append_nil, Octets.groups_nil] at hcut
  rw [loadAll, hcut, List.map_singleton]

/-- Whole octets and what follows them are read apart. -/
theorem loadAll_append {n : Nat} (h : bs.length = n * d.itemSize) (rest : Octets) :
    d.loadAll (bs ++ rest) = d.loadAll bs ++ d.loadAll rest := by
  rw [loadAll, Octets.groups_append_whole d.itemSize_pos h, List.map_append]
  rfl

/-- Elements that are left out are read from the octets without theirs. -/
theorem loadAll_drop {n : Nat} (h : n * d.itemSize ≤ bs.length) :
    d.loadAll (bs.drop (n * d.itemSize)) = (d.loadAll bs).drop n := by
  have hfront : (bs.take (n * d.itemSize)).length = n * d.itemSize := List.length_take_of_le h
  calc d.loadAll (bs.drop (n * d.itemSize))
      = (d.loadAll (bs.take (n * d.itemSize)) ++ d.loadAll (bs.drop (n * d.itemSize))).drop n :=
        (List.drop_left' (length_loadAll hfront)).symm
    _ = (d.loadAll bs).drop n := by rw [← loadAll_append hfront, List.take_append_drop]

/-- The first elements are read from their octets. -/
theorem loadAll_take {n : Nat} (h : n * d.itemSize ≤ bs.length) :
    d.loadAll (bs.take (n * d.itemSize)) = (d.loadAll bs).take n := by
  have hfront : (bs.take (n * d.itemSize)).length = n * d.itemSize := List.length_take_of_le h
  calc d.loadAll (bs.take (n * d.itemSize))
      = (d.loadAll (bs.take (n * d.itemSize)) ++ d.loadAll (bs.drop (n * d.itemSize))).take n :=
        (List.take_left' (length_loadAll hfront)).symm
    _ = (d.loadAll bs).take n := by rw [← loadAll_append hfront, List.take_append_drop]

end Dtype
end LineRpc
