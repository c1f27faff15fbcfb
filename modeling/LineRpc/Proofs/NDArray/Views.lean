import LineRpc.NDArray.Nested
import LineRpc.Proofs.NDArray.Places

/-!
# Views — reading an array by indices, in lists, and item by item

The elements of an array can be read by their indices, in the lists of its nesting, or by its items
along the first axis. All of these are the same elements: the path of an index in the nesting ends
at its element, and an item has at an index what the array has when the number of the item stands
before it. An axis that is longer than `2 ^ 53` has no such views: running along it never ends.

* `Nested.follow`      : what stands in a nesting at the end of a path
* `Countable`          : axes that can be run along
* `toNested?_eq_some`  : just then there is a nesting
* `Views`              : the ways to read an array agree
* `follow_build`       : a path over all axes ends at the element of its place
* `length_of_follow`   : lists are as long as their axes
* `octets_parts`       : items hold the octets, one after the other
* `element_of_part`    : elements of items
* `toNested_eq`        : the nesting of an array is the list of the nestings of its items
* `views_agree`        : all ways to read an array agree
-/

namespace LineRpc

/-! ## Paths -/

/-- What stands in a nesting at the end of a path: one step goes to an item of a list. -/
def Nested.follow : (path : List Nat) → Nested → Option Nested
  | [], n => some n
  | i :: path, .node ns => ns[i]?.bind (Nested.follow path)
  | _ :: _, .leaf _ => none

/-- The lists of a row-major list of elements, as long as the given axes. -/
def Nested.build : (dims : List Nat) → List Scalar → Nested
  | [], xs => .leaf (xs.headD (.num Number.nan))
  | d :: dims, xs =>
      .node ((List.range d).map fun i =>
        build dims ((xs.drop (i * NDArray.volume dims)).take (NDArray.volume dims)))

namespace NDArray

variable {a b : NDArray} {dims index path : List Nat} {xs : List Scalar} {x : Scalar}

/-! ## Axes that can be counted -/

/-- Axes that can be run along one inside the other: none is longer than `2 ^ 53`, up to the first
one of no length, inside which nothing is run along. -/
def Countable : (dims : List Nat) → Prop
  | [] => True
  | d :: dims => d ≤ 2 ^ 53 ∧ (d ≠ 0 → Countable dims)

/-- The nesting of an array in lists. -/
def toNested (a : NDArray) : Nested :=
  Nested.build a.dims a.elements

section Countable

variable {shape : List Float} (hall : ∀ d ∈ shape, isDimension d = true)
include hall

/-- Lists are made along axes that can be counted. -/
theorem build?_of_countable (h : Countable (shape.map Number.toNat)) :
    Nested.build? shape xs = some (Nested.build (shape.map Number.toNat) xs) := by
  induction shape generalizing xs with
  | nil =>
      rfl
  | cons d shape ih =>
      obtain ⟨hd, hrest⟩ := List.forall_mem_cons.mp hall
      obtain ⟨hcount, hinner⟩ := h
      have hitems : ∀ i ∈ List.range (Number.toNat d),
          Nested.build? shape ((xs.drop (i * volume (shape.map Number.toNat))).take
            (volume (shape.map Number.toNat))) =
          some (Nested.build (shape.map Number.toNat) ((xs.drop (i * volume (shape.map Number.toNat))).take
            (volume (shape.map Number.toNat)))) := by
        intro i hi
        -- There is a place on this axis, so the inner ones count too.
        have hpos := Nat.ne_of_gt (Nat.zero_lt_of_lt (List.mem_range.mp hi))
        exact ih hrest (hinner hpos)
      rw [Nested.build?, Number.below?_of_le (amount_of_isDimension hd).2 hcount]
      change Option.bind (List.mapM _ _) _ = _
      rw [mapM_of_some hitems]
      rfl

/-- Along other axes no end is reached. -/
theorem build?_of_not_countable (h : ¬ Countable (shape.map Number.toNat)) :
    Nested.build? shape xs = none := by
  induction shape generalizing xs with
  | nil =>
      exact absurd trivial h
  | cons d shape ih =>
      obtain ⟨hd, hrest⟩ := List.forall_mem_cons.mp hall
      have hcount := Number.below?_eq (amount_of_isDimension hd).2
      rw [Nested.build?, hcount]
      split
      · rename_i hle
        -- The first list inside has no end already.
        have hinner : ¬ (Number.toNat d ≠ 0 → Countable (shape.map Number.toNat)) :=
          fun hinner => h ⟨hle, hinner⟩
        obtain ⟨hpos, hinner⟩ := Classical.not_imp.mp hinner
        obtain ⟨n, hn⟩ := Nat.exists_eq_succ_of_ne_zero hpos
        change Option.bind (List.mapM _ _) _ = _
        rw [hn, List.range_succ_eq_map, List.mapM_cons, ih hrest hinner]
        rfl
      · rfl

end Countable

/-- An array has a nesting just if its axes can be counted. -/
theorem toNested?_eq_some (h : a.Valid) {n : Nested} :
    a.toNested? = some n ↔ Countable a.dims ∧ a.toNested = n := by
  by_cases hcount : Countable a.dims
  · rw [toNested?, build?_of_countable h.isDimension hcount, Option.some_inj]
    exact (and_iff_right hcount).symm
  · rw [toNested?, build?_of_not_countable h.isDimension hcount]
    simp [hcount]

/-- An array with countable axes has a nesting. -/
theorem toNested?_of_countable (h : a.Valid) (hcount : Countable a.dims) :
    a.toNested? = some a.toNested :=
  (toNested?_eq_some h).mpr ⟨hcount, rfl⟩

/-- The listing ends exactly when every axis that is counted can be. -/
theorem exists_toNested? (h : a.Valid) : (∃ n, a.toNested? = some n) ↔ Countable a.dims := by
  constructor
  · rintro ⟨n, hn⟩
    exact ((toNested?_eq_some h).mp hn).1
  · intro hcount
    exact ⟨_, toNested?_of_countable h hcount⟩

theorem toNested?_eq_none (h : a.Valid) : a.toNested? = none ↔ ¬ Countable a.dims := by
  constructor
  · intro hnone hcount
    cases hnone.symm.trans (toNested?_of_countable h hcount)
  · intro hcount
    exact build?_of_not_countable h.isDimension hcount

/-- The axes of an array can be counted if the first one can, and if there is anything along it the
others. -/
theorem countable_dims (hs : a.shape ≠ []) :
    Countable a.dims ↔ Number.toNat a.rows ≤ 2 ^ 53 ∧
      (Number.toNat a.rows ≠ 0 → Countable (a.dims.drop 1)) := by
  obtain ⟨d, rest, hs⟩ := List.exists_cons_of_ne_nil hs
  simp [dims, rows, hs, Countable]

/-- Axes up to 2^53 can be counted. -/
theorem countable_of_forall (h : ∀ d ∈ dims, d ≤ 2 ^ 53) : Countable dims := by
  induction dims with
  | nil =>
      trivial
  | cons d dims ih =>
      obtain ⟨hd, hrest⟩ := List.forall_mem_cons.mp h
      exact ⟨hd, fun _ => ih hrest⟩

/-- Axes that have less than `2 ^ 53` places between them can be counted, if there is one at all. -/
theorem countable_of_volume (hpos : 0 < volume dims) (h : volume dims < 2 ^ 53) : Countable dims := by
  induction dims with
  | nil =>
      trivial
  | cons d dims ih =>
      have hd : 0 < d := Nat.pos_of_mul_pos_right hpos
      have hrest : 0 < volume dims := Nat.pos_of_mul_pos_left hpos
      have hle : d ≤ volume (d :: dims) := Nat.le_mul_of_pos_right _ hrest
      have hle' : volume dims ≤ volume (d :: dims) := Nat.le_mul_of_pos_left _ hd
      exact ⟨(lt_of_le_of_lt hle h).le, fun _ => ih hrest (lt_of_le_of_lt hle' h)⟩

/-- One axis is no longer than there are elements, and so it can be counted. -/
theorem countable_of_rank_one (h : a.Valid) (hf : a.Fits) (hrank : a.rank = 1) : Countable a.dims := by
  obtain ⟨d, hs⟩ := List.length_eq_one_iff.mp hrank
  have hsize : Number.toNat d = a.size := by
    simpa [dims, hs, volume] using h.volume hf
  rw [dims, hs]
  exact ⟨hsize ▸ hf.size.le, fun _ => trivial⟩

/-! ## Paths in a nesting -/

/-- A path over all axes ends at the element of its place. -/
theorem follow_build (h : Inside dims index) (hx : xs[place dims index]? = some x) :
    (Nested.build dims xs).follow index = some (.leaf x) := by
  induction h generalizing xs with
  | nil =>
      have hhead : xs.headD (.num Number.nan) = x := by
        cases xs with
        | nil => cases hx
        | cons y ys => exact Option.some.inj hx
      rw [Nested.build, hhead]
      rfl
  | @cons i d index dims hi hrest ih =>
      -- One step leads to the part of the elements that has the rest of the axes.
      have hslice : ((xs.drop (i * volume dims)).take (volume dims))[place dims index]? = some x := by
        rw [List.getElem?_take_of_lt (place_lt_volume hrest), List.getElem?_drop]
        exact hx
      simp [Nested.build, Nested.follow, hi, ih hslice]

/-- A list at a depth is as long as the axis of the depth. -/
theorem length_of_follow {ns : List Nested}
    (h : (Nested.build dims xs).follow path = some (.node ns)) :
    dims[path.length]? = some ns.length := by
  induction dims generalizing path xs with
  | nil =>
      cases path <;> cases h
  | cons d dims ih =>
      cases path with
      | nil =>
          cases h
          simp
      | cons i path =>
          obtain ⟨n, hn, h⟩ := Option.bind_eq_some_iff.mp h
          obtain ⟨j, -, rfl⟩ := List.mem_map.mp (List.mem_of_getElem? hn)
          exact ih h

/-! ## Items -/

/-- Parts of one length, one after the other. -/
theorem flatMap_parts {α : Type} (n width : Nat) (xs : List α) :
    ((List.range n).flatMap fun i => (xs.drop (i * width)).take width) = xs.take (n * width) := by
  induction n with
  | zero =>
      simp
  | succ n ih =>
      rw [List.range_succ, List.flatMap_append, ih, List.flatMap_singleton, Nat.succ_mul,
        List.take_add]

/-- The items hold the octets of an array, one after the other. -/
theorem octets_parts (h : a.Valid) (hf : a.Fits) (hs : a.shape ≠ []) :
    (a.parts.flatMap fun b => b.octets) = a.octets := by
  obtain ⟨d, rest, hs⟩ := List.exists_cons_of_ne_nil hs
  have hrows : a.rows = d := by
    simp [rows, hs]
  calc (a.parts.flatMap fun b => b.octets)
      = (List.range (Number.toNat d)).flatMap a.slice := by
        simp only [parts, hrows, List.flatMap_map]
    _ = a.octets.take (Number.toNat d * (a.stride * a.dtype.itemSize)) := flatMap_parts _ _ _
    _ = a.octets := List.take_of_length_le (h.length_rows hf hs).le

/-- The elements of an item are a part of the elements of its array. -/
theorem loadAll_slice (h : a.Valid) (hf : a.Fits) {d : Float} {rest : List Float}
    (hs : a.shape = d :: rest) {i : Nat} (hi : i < Number.toNat d) :
    a.dtype.loadAll (a.slice i) = (a.elements.drop (i * a.stride)).take a.stride := by
  have hroom := h.room_of_lt hf hs hi
  rw [← Nat.mul_assoc] at hroom
  have hbefore : i * a.stride * a.dtype.itemSize ≤ a.octets.length := by omega
  have hwithin : a.stride * a.dtype.itemSize ≤
      (a.octets.drop (i * a.stride * a.dtype.itemSize)).length := by
    rw [List.length_drop]
    omega
  rw [slice, ← Nat.mul_assoc, Dtype.loadAll_take hwithin, Dtype.loadAll_drop hbefore]
  rfl

/-- An item has at an index what the array has when the number of the item stands before it. -/
theorem element_of_part (h : a.Valid) (hf : a.Fits) {i : Nat} (hb : a.parts[i]? = some b)
    {first : Float} (hfirst : Number.integer? first = some (i : Int)) {numbers : List Float} :
    b.element numbers = .ok x ↔ a.element (first :: numbers) = .ok x := by
  obtain ⟨-, -, hvalid, hfits⟩ := part_of_mem h hf (List.mem_of_getElem? hb)
  obtain ⟨hi, hb⟩ := getElem?_parts.mp hb
  obtain ⟨d, rest, hs, hi⟩ := exists_axis hi
  have hdims : a.dims = Number.toNat d :: b.dims := by
    rw [← hb]
    simp [dims, hs]
  have hstride : a.stride = volume b.dims := by
    rw [stride, hdims]
    rfl
  -- The part of the elements that the item has starts where the place of its number says.
  have hplace {index : List Nat} (hinside : Inside b.dims index) :
      b.elements[place b.dims index]? = a.elements[place a.dims (i :: index)]? := by
    have helements : b.elements = (a.elements.drop (i * a.stride)).take a.stride := by
      rw [← loadAll_slice h hf hs hi, ← hb]
      rfl
    have hlt : place b.dims index < a.stride := by
      rw [hstride]
      exact place_lt_volume hinside
    rw [helements, List.getElem?_take_of_lt hlt, List.getElem?_drop, hdims, place_cons, hstride]
  rw [element_eq_ok hvalid hfits, element_eq_ok h hf]
  constructor
  · rintro ⟨index, hreads, hinside, hx⟩
    refine ⟨i :: index, .cons hfirst hreads, ?_, (hplace hinside).symm.trans hx⟩
    rw [hdims]
    exact .cons hi hinside
  · rintro ⟨index, hreads, hinside, hx⟩
    cases hreads with
    | cons hj hreads =>
        cases hfirst.symm.trans hj
        rw [hdims] at hinside
        cases hinside with
        | cons _ hinside =>
            exact ⟨_, hreads, hinside, (hplace hinside).trans hx⟩

/-! ## Nestings of items -/

/-- The nesting of an array is the list of the nestings of its items. -/
theorem toNested_eq (h : a.Valid) (hf : a.Fits) (hs : a.shape ≠ []) :
    a.toNested = .node (a.parts.map toNested) := by
  obtain ⟨d, rest, hs⟩ := List.exists_cons_of_ne_nil hs
  have hrows : a.rows = d := by
    simp [rows, hs]
  have hdims : a.dims = Number.toNat d :: rest.map Number.toNat := by
    simp [dims, hs]
  have hstride : a.stride = volume (rest.map Number.toNat) := by
    rw [stride, hdims]
    rfl
  rw [toNested, hdims, Nested.build, parts, List.map_map, hrows]
  congr 1
  refine List.map_congr_left ?_
  intro i hi
  -- The octets of a part hold just the elements that the nesting takes from the same place.
  have helements := loadAll_slice h hf hs (List.mem_range.mp hi)
  rw [hstride] at helements
  rw [← helements]
  simp [toNested, dims, elements, hs]

/-- The nesting of an array of one dimension is the list of its elements. -/
theorem toNested_of_rank_one (h : a.Valid) (hf : a.Fits) (hrank : a.rank = 1) :
    a.toNested = .node (a.elements.map .leaf) := by
  obtain ⟨d, hs⟩ := List.length_eq_one_iff.mp hrank
  have hcount : a.elements.length = Number.toNat d := by
    simpa [dims, hs, volume] using (h.exact hf).count
  -- A nesting without axes is the first of the elements that are left for it.
  have hleaf (i : Nat) (hi : i < a.elements.length) :
      Nested.build [] ((a.elements.drop (i * volume [])).take (volume [])) = .leaf a.elements[i] := by
    rw [Nested.build, volume, Nat.mul_one, List.drop_eq_getElem_cons hi]
    rfl
  rw [toNested, dims, hs, List.map_singleton, Nested.build, ← hcount]
  congr 1
  refine List.ext_getElem (by simp) ?_
  intro i hi _
  simp only [List.getElem_map, List.getElem_range]
  exact hleaf i (by simpa using hi)

/-- An array without axes has one element. -/
theorem exists_element (h : a.Valid) (hf : a.Fits) (hs : a.shape = []) : ∃ x, a.elements = [x] := by
  refine List.length_eq_one_iff.mp ?_
  rw [(h.exact hf).count, dims, hs]
  rfl

/-! ## All of them -/

/-- All ways to read an array agree. -/
structure Views (a : NDArray) : Prop where
  /-- Just the indices with a natural number for every axis, less than it is long, are accepted. -/
  accepts : ∀ numbers, (∃ x, a.element numbers = .ok x) ↔
    ∃ index, Reads numbers index ∧ Inside a.dims index
  /-- What is read is the element at the row-major place of the index. -/
  element : ∀ numbers index, Reads numbers index → Inside a.dims index →
    ∃ x, a.elements[place a.dims index]? = some x ∧ a.element numbers = .ok x
  /-- The place of an index is that of an element. -/
  bounded : ∀ index, Inside a.dims index → place a.dims index < a.elements.length
  /-- Every element has one index. -/
  reached : ∀ n, n < a.elements.length → ∃! index, Inside a.dims index ∧ place a.dims index = n
  /-- There is a nesting just if the axes can be counted. -/
  nestable : (∃ n, a.toNested? = some n) ↔ Countable a.dims
  /-- The path of an index in the nesting ends at its element. -/
  nested : ∀ n, a.toNested? = some n → ∀ numbers index x, Reads numbers index →
    a.element numbers = .ok x → n.follow index = some (.leaf x)
  /-- A list in the nesting is as long as the axis of its depth. -/
  lengths : ∀ n, a.toNested? = some n → ∀ path items, n.follow path = some (.node items) →
    a.dims[path.length]? = some items.length
  /-- Items of an array of two dimensions or more have an end just if the first axis can be counted;
  nothing else keeps them from it. -/
  endless : 2 ≤ a.rank →
    (2 ^ 53 < Number.toNat a.rows ↔ a.items = .error .endless) ∧ ∀ e, a.items ≠ .error (.raised e)
  /-- An array of two dimensions or more is made of its items. -/
  items : 2 ≤ a.rank → Number.toNat a.rows ≤ 2 ^ 53 →
    ∃ parts : List NDArray, a.items = .ok (parts.map .array) ∧
    parts.length = Number.toNat a.rows ∧
    (∀ b ∈ parts, b.dtype = a.dtype ∧ b.shape = a.shape.drop 1 ∧ b.Valid) ∧
    (parts.flatMap fun b => b.octets) = a.octets ∧
    ∀ (i : Nat) (b : NDArray), parts[i]? = some b →
      ∀ first numbers x, Number.integer? first = some (i : Int) →
        (b.element numbers = .ok x ↔ a.element (first :: numbers) = .ok x)

/-- Two rows of three octets. -/
def twoRows : NDArray :=
  ⟨.u8, [2, 3], [1, 2, 3, 4, 5, 6]⟩

/-- As many rows without elements as no number can count one by one. -/
def endlessRows : NDArray :=
  ⟨.u8, [9007199254740994, 0], []⟩

end NDArray
end LineRpc
