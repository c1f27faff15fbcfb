import LineRpc.Proofs.Dtype.Stored
import LineRpc.Proofs.Number.Counter

/-!
# Exact — arrays agree with their shapes

Building an array compares numbers, which are rounded. As long as the octets can be counted, what
passes agrees exactly: the dimensions are natural numbers, their product is the number of elements,
and the octets are those of as many elements. Whatever is made from such an array is one again.
Taking it apart or exchanging its axes raises nothing, but it never ends if the axis that is counted
is longer than `2 ^ 53`, which it can be where another one is zero.

* `Exact`              : shape, elements and octets agree
* `Fits`               : the octets can be counted
* `Valid.exact`        : what building makes sure of, said exactly
* `exists_ofScalars`   : elements of an array make an array again
* `valid_of_items`     : items are arrays as they are built
* `items_eq`           : the items of an array of two dimensions or more
* `transpose_eq`       : the elements of the exchanged rows and columns, and where there is no end
* `Transposed`         : an array whose rows and columns are those of another, exchanged
-/

namespace LineRpc
namespace NDArray

variable {a b : NDArray} {d : Dtype} {bs : Octets} {shape : List Float}

/-- Shape, elements and octets agree: the dimensions are natural numbers, their product is the
number of elements, and there are octets for just so many elements. -/
structure Exact (a : NDArray) : Prop where
  dimensions : ∀ d ∈ a.shape, Number.integer? d = some (Number.toNat d : Int)
  count : a.elements.length = volume a.dims
  room : a.octets.length = volume a.dims * a.dtype.itemSize

/-- The octets are fewer than numbers can count. Memory never holds more. -/
def Fits (a : NDArray) : Prop :=
  a.octets.length < 2 ^ 53

instance (a : NDArray) : Decidable a.Fits :=
  inferInstanceAs (Decidable (a.octets.length < 2 ^ 53))

theorem Fits.size (h : a.Fits) : a.size < 2 ^ 53 :=
  lt_of_le_of_lt (Nat.div_le_self _ _) h

/-- A valid array has the octets of its elements and no more. -/
theorem Valid.length_octets (h : a.Valid) : a.octets.length = a.size * a.dtype.itemSize :=
  (Nat.div_mul_cancel (Nat.dvd_of_mod_eq_zero h.whole)).symm

theorem Valid.length_elements (h : a.Valid) : a.elements.length = a.size := by
  simpa only [elements] using Dtype.length_loadAll h.length_octets

/-- The product of the axes is exactly the number of elements. -/
theorem Valid.volume (h : a.Valid) (hf : a.Fits) : volume a.dims = a.size :=
  volume_of_checkShape h.shape hf.size

/-- The number of rows is a natural number; without an axis it is zero. -/
theorem Valid.amount_rows (h : a.Valid) : Number.Amount a.rows (Number.toNat a.rows : ℚ) := by
  cases hs : a.shape with
  | nil =>
      have hrows : a.rows = 0 := by
        simp [rows, hs]
      have hnat : Number.toNat 0 = 0 := rfl
      simpa [hrows, hnat] using Number.Amount.zero Number.unpack_zero
  | cons d shape =>
      have hrows : a.rows = d := by
        simp [rows, hs]
      have hd : NDArray.isDimension d = true := h.isDimension d (by simp [hs])
      simpa only [hrows] using (amount_of_isDimension hd).2

/-- What building makes sure of with rounded numbers holds exactly. -/
theorem Valid.exact (h : a.Valid) (hf : a.Fits) : a.Exact where
  dimensions := by
    intro d hd
    exact (amount_of_isDimension (h.isDimension d hd)).1
  count := by
    simpa only [h.volume hf] using h.length_elements
  room := by
    simpa only [h.volume hf] using h.length_octets

/-! ## Building -/

/-- An array is made exactly of a shape that its octets fill. -/
theorem ofOctets_eq_ok :
    ofOctets d bs shape = .ok a ↔
      checkShape shape (bs.length / d.itemSize) = .ok () ∧ ⟨d, shape, bs⟩ = a := by
  constructor
  · intro h
    obtain ⟨u, hc, ha⟩ := ok_of_bind h
    exact ⟨hc, Except.ok.inj ha⟩
  · rintro ⟨hc, rfl⟩
    simp [ofOctets, hc, bind, Except.bind, pure, Except.pure]

/-- An array made of octets is valid when they are whole elements. -/
theorem valid_of_ofOctets (hw : bs.length % d.itemSize = 0) (h : ofOctets d bs shape = .ok a) :
    a.Valid := by
  obtain ⟨hc, rfl⟩ := ofOctets_eq_ok.mp h
  exact ⟨hw, hc⟩

/-- Octets of `n` elements make an array of every shape that holds `n` elements. -/
theorem exists_ofOctets {n : Nat} (hlength : bs.length = n * d.itemSize)
    (hc : checkShape shape n = .ok ()) : ofOctets d bs shape = .ok ⟨d, shape, bs⟩ := by
  have hcount : bs.length / d.itemSize = n := by
    simpa only [hlength] using Nat.mul_div_cancel n d.itemSize_pos
  exact ofOctets_eq_ok.mpr ⟨by simpa only [hcount] using hc, rfl⟩

/-- Octets of an integer kind that are read and stored again make an array of every shape that holds
them. -/
theorem ofScalars_loadAll (hd : d.Integral) {n : Nat} (hlength : bs.length = n * d.itemSize)
    {s : Option (List Float)} (hc : checkShape (s.getD [Float.ofNat n]) n = .ok ()) :
    ofScalars (d.loadAll bs) d s = .ok ⟨d, s.getD [Float.ofNat n], bs⟩ := by
  rw [ofScalars, Dtype.storeAll_loadAll hd hlength, Dtype.length_loadAll hlength]
  exact exists_ofOctets hlength hc

/-- Elements that were stored are whole, whatever shape they get. -/
theorem valid_of_ofScalars {xs : List Scalar} {s : Option (List Float)}
    (h : ofScalars xs d s = .ok a) : a.Valid := by
  obtain ⟨bs, hbs, ha⟩ := ok_of_bind h
  have hwhole : bs.length % d.itemSize = 0 := by
    simp [Dtype.length_storeAll hbs]
  exact valid_of_ofOctets hwhole ha

theorem Valid.element (h : a.Valid) : ∀ x ∈ a.elements, a.dtype.Element x := by
  intro x hx
  exact Dtype.element_of_mem_loadAll h.length_octets hx

/-- Elements of a kind make an array of every shape that holds them, and they are its elements. -/
theorem exists_ofScalars {xs : List Scalar} (hxs : ∀ x ∈ xs, d.Element x) {s : Option (List Float)}
    (hc : checkShape (s.getD [Float.ofNat xs.length]) xs.length = .ok ()) :
    ∃ bs, ofScalars xs d s = .ok ⟨d, s.getD [Float.ofNat xs.length], bs⟩ ∧ d.loadAll bs = xs ∧
      bs.length = xs.length * d.itemSize := by
  obtain ⟨bs, hbs, hload⟩ := Dtype.exists_storeAll_of_element hxs
  have hlength := Dtype.length_storeAll hbs
  refine ⟨bs, ?_, hload, hlength⟩
  rw [ofScalars, hbs]
  exact exists_ofOctets hlength hc

/-- An array of an integer kind is known by its kind, its shape and its elements. -/
theorem eq_of_elements (hd : a.dtype.Integral) (ha : a.Valid) (hb : b.Valid) (hdtype : b.dtype = a.dtype)
    (hshape : b.shape = a.shape) (helements : b.elements = a.elements) : b = a := by
  have hoctets : b.octets = a.octets := by
    have hstore := Dtype.storeAll_loadAll hd ha.length_octets
    have hstore' := Dtype.storeAll_loadAll (hdtype ▸ hd) hb.length_octets
    rw [elements, elements] at helements
    rw [helements, hdtype] at hstore'
    exact Except.ok.inj (hstore'.symm.trans hstore)
  cases a
  cases b
  simp_all

/-- Elements that fill a shape make an array if they can be stored. -/
theorem error_of_ofScalars {xs : List Scalar} {s : Option (List Float)}
    (hc : checkShape (s.getD [Float.ofNat xs.length]) xs.length = .ok ()) {e : ArrayError}
    (h : ofScalars xs d s = .error e) : ∃ x, e = .notInteger x := by
  rcases error_of_bind h with hstore | ⟨bs, hbs, hshape⟩
  · exact Dtype.error_of_storeAll hstore
  · have hbuilt := exists_ofOctets (Dtype.length_storeAll hbs) hc
    cases hbuilt.symm.trans hshape

theorem shape_of_ofScalars {xs : List Scalar} {s : Option (List Float)}
    (h : ofScalars xs d s = .ok a) : a.shape = s.getD [Float.ofNat xs.length] := by
  obtain ⟨bs, -, ha⟩ := ok_of_bind h
  obtain ⟨-, rfl⟩ := ofOctets_eq_ok.mp ha
  rfl

/-- An array made of a nesting is valid. -/
theorem valid_of_fromNested {n : Nested} (h : fromNested n d = .ok a) : a.Valid := by
  obtain ⟨xs, -, ha⟩ := ok_of_bind h
  exact valid_of_ofScalars ha

theorem valid_of_zeros (h : zeros d shape = .ok a) : a.Valid := by
  obtain ⟨size, -, ha⟩ := ok_of_bind h
  have hwhole : (List.replicate (size * d.itemSize) (0 : UInt8)).length % d.itemSize = 0 := by
    simp
  exact valid_of_ofOctets hwhole ha

theorem valid_of_reshape (h : a.Valid) (hb : a.reshape shape = .ok b) : b.Valid :=
  valid_of_ofOctets h.whole hb

/-! ## Items -/

/-- The octets of the `i`-th item. -/
def slice (a : NDArray) (i : Nat) : Octets :=
  (a.octets.drop (i * (a.stride * a.dtype.itemSize))).take (a.stride * a.dtype.itemSize)

theorem part_eq (a : NDArray) (i : Nat) :
    a.part i = ofOctets a.dtype (a.slice i) (a.shape.drop 1) :=
  rfl

/-- A slice starts and ends between elements. -/
theorem whole_slice (h : a.Valid) (i : Nat) : (a.slice i).length % a.dtype.itemSize = 0 := by
  have hlength : (a.slice i).length = min a.stride (a.size - i * a.stride) * a.dtype.itemSize := by
    simp only [slice, List.length_take, List.length_drop, h.length_octets, ← Nat.mul_assoc,
      ← Nat.sub_mul, Nat.mul_min_mul_right]
  simp [hlength]

theorem valid_of_part (h : a.Valid) {i : Nat} (hb : a.part i = .ok b) : b.Valid :=
  valid_of_ofOctets (whole_slice h i) hb

/-- An item is an element or an array as it is built. -/
theorem valid_of_items (h : a.Valid) {items : List Item} (hitems : a.items = .ok items) {x : Item}
    (hx : x ∈ items) : (∃ s, x = .scalar s) ∨ ∃ b, x = .array b ∧ b.Valid := by
  rw [NDArray.items] at hitems
  split at hitems
  · cases hitems
  · cases hitems
    obtain ⟨s, -, rfl⟩ := List.mem_map.mp hx
    exact .inl ⟨s, rfl⟩
  · obtain ⟨n, -, hparts⟩ := ok_of_bind hitems
    obtain ⟨i, -, hi⟩ := exists_of_mem_mapM (Failure.ofExcept_eq_ok.mp hparts) hx
    obtain ⟨b, hb, rfl⟩ := ok_of_map hi
    exact .inr ⟨b, rfl, valid_of_part h hb⟩

/-- The octets are those of as many items as the first axis is long. -/
theorem Valid.length_rows (h : a.Valid) (hf : a.Fits) {d : Float} {rest : List Float}
    (hs : a.shape = d :: rest) :
    a.octets.length = Number.toNat d * (a.stride * a.dtype.itemSize) := by
  have hsize : a.size = Number.toNat d * a.stride := by
    simpa [NDArray.volume, dims, hs, stride] using (h.volume hf).symm
  rw [h.length_octets, hsize, Nat.mul_assoc]

/-- Within the first axis an item ends before the octets do. -/
theorem Valid.room_of_lt (h : a.Valid) (hf : a.Fits) {d : Float} {rest : List Float}
    (hs : a.shape = d :: rest) {i : Nat} (hi : i < Number.toNat d) :
    i * (a.stride * a.dtype.itemSize) + a.stride * a.dtype.itemSize ≤ a.octets.length := by
  rw [h.length_rows hf hs, ← Nat.succ_mul]
  exact Nat.mul_le_mul_right _ hi

/-- Within the first axis an item is there in full. -/
theorem length_slice (h : a.Valid) (hf : a.Fits) {d : Float} {rest : List Float}
    (hs : a.shape = d :: rest) {i : Nat} (hi : i < Number.toNat d) :
    (a.slice i).length = a.stride * a.dtype.itemSize := by
  have hroom := h.room_of_lt hf hs hi
  simp only [slice, List.length_take, List.length_drop]
  omega

/-- Within the first axis every item passes the check of its shape. -/
theorem exists_part (h : a.Valid) (hf : a.Fits) {d : Float} {rest : List Float}
    (hs : a.shape = d :: rest) {i : Nat} (hi : i < Number.toNat d) :
    a.part i = .ok ⟨a.dtype, rest, a.slice i⟩ := by
  have hshape : checkShape (d :: rest) a.size = .ok () := by
    simpa only [hs] using h.shape
  have hc : checkShape rest a.stride = .ok () := by
    simpa [stride, dims, hs] using checkShape_tail hshape hf.size (Nat.zero_lt_of_lt hi)
  simpa [part_eq, hs] using exists_ofOctets (length_slice h hf hs hi) hc

theorem fits_slice (hf : a.Fits) (i : Nat) : (a.slice i).length < 2 ^ 53 := by
  have hle : (a.slice i).length ≤ a.octets.length := by
    simp only [slice, List.length_take, List.length_drop]
    omega
  exact lt_of_le_of_lt hle hf

/-- The items of an array of two dimensions or more: the parts of its octets, each with the other
axes. -/
def parts (a : NDArray) : List NDArray :=
  (List.range (Number.toNat a.rows)).map fun i => ⟨a.dtype, a.shape.drop 1, a.slice i⟩

/-- The items are the parts of the array, if its first axis can be counted; counting it has no end
otherwise. -/
theorem items_eq (h : a.Valid) (hf : a.Fits) (hrank : 2 ≤ a.rank) :
    a.items = if Number.toNat a.rows ≤ 2 ^ 53 then .ok (a.parts.map .array) else .error .endless := by
  match hs : a.shape with
  | [] => simp [rank, hs] at hrank
  | [_] => simp [rank, hs] at hrank
  | d :: e :: rest =>
    have hrows : a.rows = d := by
      simp [rows, hs]
    have hcount := Number.below?_eq (hrows ▸ h.amount_rows)
    -- Each part is built without an error, since the whole array is valid.
    have hitems : (List.range (Number.toNat d)).mapM (fun i => (a.part i).map Item.array) =
        .ok (a.parts.map .array) := by
      refine mapM_eq_ok.mpr ?_
      simp only [parts, hrows, hs, List.map_map, List.forall₂_map_right_iff, List.forall₂_same,
        List.mem_range]
      intro i hi
      simp [exists_part h hf hs hi, Except.map]
    simp only [items, hs, hcount, hrows]
    split
    · simp [Failure.ofOption, bind, Except.bind, hitems, Failure.ofExcept]
    · rfl

/-- There is a part for each place of the first axis. -/
theorem getElem?_parts {i : Nat} :
    a.parts[i]? = some b ↔ i < Number.toNat a.rows ∧ ⟨a.dtype, a.shape.drop 1, a.slice i⟩ = b := by
  rw [parts, List.getElem?_map]
  by_cases hi : i < Number.toNat a.rows
  · simp [hi]
  · simp [hi]

/-- Where there are rows there is a first axis. -/
theorem exists_axis {i : Nat} (hi : i < Number.toNat a.rows) :
    ∃ d rest, a.shape = d :: rest ∧ i < Number.toNat d := by
  cases hs : a.shape with
  | nil =>
      have hrows : Number.toNat 0 = 0 := rfl
      simp [rows, hs, hrows] at hi
  | cons d rest =>
      exact ⟨d, rest, rfl, by simpa [rows, hs] using hi⟩

/-- An item has the kind and the other axes of its array, and is an array as it is built. -/
theorem part_of_mem (h : a.Valid) (hf : a.Fits) {b : NDArray} (hb : b ∈ a.parts) :
    b.dtype = a.dtype ∧ b.shape = a.shape.drop 1 ∧ b.Valid ∧ b.Fits := by
  obtain ⟨i, hi, rfl⟩ := List.mem_map.mp hb
  obtain ⟨d, rest, hs, hi⟩ := exists_axis (List.mem_range.mp hi)
  have hpart := exists_part h hf hs hi
  exact ⟨rfl, rfl, by simpa [hs] using valid_of_part h hpart, fits_slice hf i⟩

/-- An array of two dimensions or more gives as many items as its first axis is long, and each of
them has the other axes, if the axis can be counted. -/
theorem exists_items (h : a.Valid) (hf : a.Fits) (hrank : 2 ≤ a.rank)
    (hrows : Number.toNat a.rows ≤ 2 ^ 53) :
    ∃ parts : List NDArray, a.items = .ok (parts.map .array) ∧
      parts.length = Number.toNat a.rows ∧ ∀ b ∈ parts, b.shape = a.shape.drop 1 ∧ b.Exact := by
  refine ⟨a.parts, by rw [items_eq h hf hrank, if_pos hrows], by simp [parts], ?_⟩
  intro b hb
  obtain ⟨-, hshape, hvalid, hfits⟩ := part_of_mem h hf hb
  exact ⟨hshape, hvalid.exact hfits⟩

/-- Running along the items raises nothing. -/
theorem items_ne_raised (h : a.Valid) (hf : a.Fits) (hrank : 2 ≤ a.rank) (e : ArrayError) :
    a.items ≠ .error (.raised e) := by
  rw [items_eq h hf hrank]
  split
  · nofun
  · nofun

/-! ## Picking elements -/

/-- The elements at some places. -/
def picked (a : NDArray) (places : List Nat) : List Scalar :=
  places.map fun p => a.elements.getD p (.num Number.nan)

theorem getElem?_elements (h : a.Valid) {p : Nat} (hp : p < a.size) :
    a.elements[p]? = some (a.elements.getD p (.num Number.nan)) := by
  have hlt : p < a.elements.length := by
    rwa [h.length_elements]
  rw [List.getElem?_eq_getElem hlt, List.getD_eq_getElem _ _ hlt]

/-- What is picked where elements are can be stored again. -/
theorem element_of_picked (h : a.Valid) {places : List Nat} (hp : ∀ p ∈ places, p < a.size) :
    ∀ x ∈ a.picked places, a.dtype.Element x := by
  intro x hx
  obtain ⟨p, hmem, rfl⟩ := List.mem_map.mp hx
  exact h.element _ (List.mem_of_getElem? (getElem?_elements h (hp p hmem)))

/-- The place of a row and a column is that of an element. -/
theorem place_lt {rows cols i j : Nat} (hi : i < rows) (hj : j < cols) :
    i * cols + j < rows * cols := by
  calc i * cols + j < i * cols + cols := Nat.add_lt_add_left hj _
    _ = (i + 1) * cols := (Nat.succ_mul i cols).symm
    _ ≤ rows * cols := Nat.mul_le_mul_right _ hi

/-! ## Rows and columns -/

/-- The places of a transposed array, column by column. -/
def columnMajor (rows cols : Nat) : List Nat :=
  (List.range cols).flatMap fun j => (List.range rows).map fun i => i * cols + j

theorem length_columnMajor (rows cols : Nat) : (columnMajor rows cols).length = rows * cols := by
  simp [columnMajor, List.length_flatMap, Nat.mul_comm]

theorem columnMajor_lt {rows cols p : Nat} (hp : p ∈ columnMajor rows cols) : p < rows * cols := by
  obtain ⟨j, hj, hp⟩ := List.mem_flatMap.mp hp
  obtain ⟨i, hi, rfl⟩ := List.mem_map.mp hp
  exact place_lt (List.mem_range.mp hi) (List.mem_range.mp hj)

section Matrix

variable {r c : Float} (h : a.Valid) (hf : a.Fits) (hs : a.shape = [r, c])
include h hf hs

/-- A matrix has rows times columns elements. -/
theorem size_of_pair : Number.toNat r * Number.toNat c = a.size := by
  simpa [NDArray.volume, dims, hs] using h.volume hf

/-- Where there is a column the rows are no more than the elements, so they can be counted. -/
theorem rows_lt_of_pair (hpos : 0 < Number.toNat c) : Number.toNat r < 2 ^ 53 := by
  have hle : Number.toNat r ≤ a.size := by
    rw [← size_of_pair h hf hs]
    exact Nat.le_mul_of_pos_right _ hpos
  exact lt_of_le_of_lt hle hf.size

/-- The elements are read column by column, if the columns can be counted. -/
theorem columns?_eq :
    a.columns? r c = if Number.toNat c ≤ 2 ^ 53 then
      some (a.picked (columnMajor (Number.toNat r) (Number.toNat c))) else none := by
  have hcols := Number.below?_eq (amount_of_isDimension (h.isDimension c (by simp [hs]))).2
  rw [columns?, hcols]
  split
  · -- If there is a column at all, the rows can be counted.
    have hcolumn : ∀ j ∈ List.range (Number.toNat c),
        (do
          let m ← Number.below? r
          pure ((List.range m).map fun i =>
            a.elements.toArray.getD (i * Number.toNat c + j) (.num Number.nan))) =
        some (a.picked ((List.range (Number.toNat r)).map fun i => i * Number.toNat c + j)) := by
      intro j hj
      have hlt := rows_lt_of_pair h hf hs (Nat.zero_lt_of_lt (List.mem_range.mp hj))
      rw [Number.below?_of_le (amount_of_isDimension (h.isDimension r (by simp [hs]))).2 hlt.le]
      simp [picked]
    have hcolumns := mapM_of_some hcolumn
    change Option.bind (List.mapM _ _) _ = _
    rw [hcolumns, columnMajor, picked, List.map_flatMap]
    rfl
  · rfl

/-- Rows and columns are exchanged by storing the elements column by column, if the columns can be
counted; counting them has no end otherwise. -/
theorem transpose_eq :
    a.transpose =
      if Number.toNat c ≤ 2 ^ 53 then
        Failure.ofExcept
          (ofScalars (a.picked (columnMajor (Number.toNat r) (Number.toNat c))) a.dtype (some [c, r]))
      else .error .endless := by
  simp only [transpose, hs, columns?_eq h hf hs]
  split
  · rfl
  · rfl

end Matrix

/-- An array has the rows of another as its columns, and the other way round. -/
structure Transposed (a b : NDArray) (r c : Float) : Prop where
  valid : b.Valid
  fits : b.Fits
  dtype : b.dtype = a.dtype
  shape : b.shape = [c, r]
  elements : b.elements = a.picked (columnMajor (Number.toNat r) (Number.toNat c))

/-- The elements of an array, column by column, make an array with its rows and columns exchanged.
-/
theorem exists_transposed (h : a.Valid) (hf : a.Fits) {r c : Float} (hs : a.shape = [r, c]) :
    ∃ b, ofScalars (a.picked (columnMajor (Number.toNat r) (Number.toNat c))) a.dtype (some [c, r]) =
      .ok b ∧ Transposed a b r c := by
  have hsize := size_of_pair h hf hs
  have hcount : (a.picked (columnMajor (Number.toNat r) (Number.toNat c))).length = a.size := by
    rw [picked, List.length_map, length_columnMajor, hsize]
  -- The elements are picked from places of the array, so all can be stored again.
  have hplaces : ∀ p ∈ columnMajor (Number.toNat r) (Number.toNat c), p < a.size := by
    intro p hp
    rw [← hsize]
    exact columnMajor_lt hp
  have hshape : checkShape [r, c] a.size = .ok () := by
    simpa only [hs] using h.shape
  obtain ⟨bs, hb, hload, hlength⟩ := exists_ofScalars (s := some [c, r])
    (element_of_picked h hplaces) (hcount.symm ▸ checkShape_swap hshape hf.size)
  have hfits : bs.length < 2 ^ 53 := by
    rw [hlength, hcount, ← h.length_octets]
    exact hf
  exact ⟨_, hb, valid_of_ofScalars hb, hfits, rfl, rfl, hload⟩

/-- A transposed array is valid. -/
theorem valid_of_transpose (h : a.Valid) (hb : a.transpose = .ok b) : b.Valid := by
  rw [transpose] at hb
  split at hb
  · obtain ⟨xs, -, hb⟩ := ok_of_bind hb
    exact valid_of_ofScalars (Failure.ofExcept_eq_ok.mp hb)
  · cases hb
    exact h

/-- Only matrices are transposed; any other array is its own answer. -/
theorem transpose_of_rank (hrank : a.rank ≠ 2) : a.transpose = .ok a := by
  rw [transpose]
  split
  · rename_i r c hs
    exact absurd (by simp [rank, hs]) hrank
  · rfl

/-- Exchanging rows and columns raises nothing. -/
theorem transpose_ne_raised (h : a.Valid) (hf : a.Fits) (e : ArrayError) :
    a.transpose ≠ .error (.raised e) := by
  by_cases hrank : a.rank = 2
  · obtain ⟨r, c, hs⟩ := List.length_eq_two.mp hrank
    obtain ⟨b, hb, -⟩ := exists_transposed h hf hs
    rw [transpose_eq h hf hs, hb]
    split
    · nofun
    · nofun
  · rw [transpose_of_rank hrank]
    nofun

/-- Rows and columns of an array can be exchanged if the columns can be counted. -/
theorem exists_transpose (h : a.Valid) (hf : a.Fits)
    (hcount : ∀ r c, a.shape = [r, c] → Number.toNat c ≤ 2 ^ 53) : ∃ b, a.transpose = .ok b := by
  by_cases hrank : a.rank = 2
  · obtain ⟨r, c, hs⟩ := List.length_eq_two.mp hrank
    obtain ⟨b, hb, -⟩ := exists_transposed h hf hs
    exact ⟨b, by rw [transpose_eq h hf hs, if_pos (hcount r c hs), hb]; rfl⟩
  · exact ⟨a, transpose_of_rank hrank⟩

end NDArray
end LineRpc
