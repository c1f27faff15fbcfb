import LineRpc.Proofs.Dtype.Integers
import LineRpc.Proofs.NDArray.Nested
import LineRpc.Proofs.NDArray.Views

/-!
# Rectangular — which nestings are arrays

The shape of a nesting is guessed along its first items, and then everything is compared with this
guess. Exactly the rectangular nestings pass: at every depth all lists are equally long, and where
lists are empty there is nothing below them. An array of integers gives its nesting back, and is
built again from its nesting.

* `Nested.leaves`          : the elements of a nesting in order
* `Nested.mapLeaves`       : the elements of a nesting replaced
* `Nested.Rectangular`     : nestings of a shape
* `flatten_of_rectangular` : a rectangular nesting passes
* `rectangular_of_flatten` : only rectangular nestings pass
* `fromNested_rectangular` : nestings of integers and the arrays that are made of them
* `fromNested_toNested`    : an array of integers is built again from its nesting
-/

namespace LineRpc
namespace Nested

mutual

/-- The elements of a nesting, in order. -/
def leaves : Nested → List Scalar
  | .leaf x => [x]
  | .node ns => leavesAll ns

/-- The elements of all items of a list, in order. -/
def leavesAll : List Nested → List Scalar
  | [] => []
  | n :: ns => leaves n ++ leavesAll ns

end

mutual

/-- Every element of a nesting replaced. -/
def mapLeaves (f : Scalar → Scalar) : Nested → Nested
  | .leaf x => .leaf (f x)
  | .node ns => .node (mapLeavesAll f ns)

/-- Every element of all items of a list replaced. -/
def mapLeavesAll (f : Scalar → Scalar) : List Nested → List Nested
  | [] => []
  | n :: ns => mapLeaves f n :: mapLeavesAll f ns

end

theorem leaves_node (ns : List Nested) : leaves (.node ns) = ns.flatMap leaves := by
  rw [leaves]
  induction ns with
  | nil =>
      rfl
  | cons n ns ih =>
      rw [leavesAll, ih, List.flatMap_cons]

theorem mapLeaves_node (f : Scalar → Scalar) (ns : List Nested) :
    mapLeaves f (.node ns) = .node (ns.map (mapLeaves f)) := by
  rw [mapLeaves]
  congr 1
  induction ns with
  | nil =>
      rfl
  | cons n ns ih =>
      rw [mapLeavesAll, ih, List.map_cons]

/-- A nesting whose elements stay as they are stays as it is. -/
theorem mapLeaves_fixed {f : Scalar → Scalar} {n : Nested} (h : ∀ x ∈ n.leaves, f x = x) :
    n.mapLeaves f = n := by
  induction n with
  | leaf x =>
      rw [mapLeaves, h x (by simp [leaves])]
  | node ns ih =>
      rw [mapLeaves_node]
      congr 1
      conv_rhs => rw [← List.map_id ns]
      refine List.map_congr_left ?_
      intro n hn
      refine ih n hn ?_
      intro x hx
      refine h x ?_
      rw [leaves_node]
      exact List.mem_flatMap.mpr ⟨n, hn, hx⟩

/-! ## Rectangular nestings -/

/-- A nesting of a shape: an element has no axes, and a list has the axes of its items after its
own. Nothing is below an empty list. -/
inductive Rectangular : List Nat → Nested → Prop
  | leaf (x : Scalar) : Rectangular [] (.leaf x)
  | node {shape : List Nat} {items : List Nested} (each : ∀ n ∈ items, Rectangular shape n)
      (empty : items = [] → shape = []) : Rectangular (items.length :: shape) (.node items)

/-- No axis is empty, except for the last one. -/
def EmptyLast : List Nat → Prop
  | [] => True
  | d :: shape => (d = 0 → shape = []) ∧ EmptyLast shape

variable {shape : List Nat} {n : Nested} {xs : List Scalar}

/-- The shape that is guessed is that of a rectangular nesting. -/
theorem shape_of_rectangular (h : Rectangular shape n) : n.shape = shape := by
  induction h with
  | leaf x =>
      rfl
  | @node shape items each empty ih =>
      cases items with
      | nil =>
          rw [empty rfl]
          rfl
      | cons n ns =>
          rw [Nested.shape, ih n List.mem_cons_self, List.length_cons]

/-- No guess goes on below an empty list. -/
theorem emptyLast_shape : (n : Nested) → EmptyLast n.shape
  | .leaf _ => trivial
  | .node [] => ⟨fun _ => rfl, trivial⟩
  | .node (n :: _) => ⟨fun h => absurd h (Nat.succ_ne_zero _), emptyLast_shape n⟩

/-- A rectangular nesting is flattened to its elements. -/
theorem flatten_of_rectangular (h : Rectangular shape n) (depth : Nat) :
    flatten depth shape n = .ok n.leaves := by
  induction h generalizing depth with
  | leaf x =>
      rfl
  | @node shape items each empty ih =>
      have hitems : items.mapM (flatten (depth + 1) shape) = .ok (items.map leaves) := by
        refine mapM_eq_ok.mpr ?_
        rw [List.forall₂_map_right_iff, List.forall₂_same]
        intro n hn
        exact ih n hn (depth + 1)
      rw [flatten_node, if_pos rfl, hitems, leaves_node, List.flatMap_def]
      rfl

/-- What is flattened is rectangular, if the shape is one that can be guessed. -/
theorem rectangular_of_flatten (hs : EmptyLast shape) {depth : Nat}
    (h : flatten depth shape n = .ok xs) : Rectangular shape n := by
  induction n generalizing shape depth xs with
  | leaf x =>
      cases shape <;> cases h
      exact .leaf x
  | node ns ih =>
      cases shape with
      | nil =>
          cases h
      | cons d shape =>
          rw [flatten_node] at h
          split at h
          · rename_i hlength
            subst hlength
            obtain ⟨groups, hgroups, -⟩ := ok_of_map h
            -- An empty list has no items that could tell what is below it, but the guess ends there.
            refine .node ?_ fun hnil => hs.1 (by rw [hnil]; rfl)
            intro n hn
            obtain ⟨ys, hys⟩ := exists_mapM.mp ⟨groups, hgroups⟩ n hn
            exact ih n hn hs.2 hys
          · cases h

/-- A rectangular nesting has as many leaves as its shape. -/
theorem length_leaves (h : Rectangular shape n) : n.leaves.length = NDArray.volume shape :=
  length_flatten (flatten_of_rectangular h 0)

/-! ## Building -/

/-- Blocks of one length are found again in what they make up. -/
theorem map_blocks {α β γ : Type} {g : α → List β} {width : Nat} {items : List α}
    (h : ∀ a ∈ items, (g a).length = width) (f : List β → γ) :
    ((List.range items.length).map fun i =>
      f (((items.flatMap g).drop (i * width)).take width)) = items.map fun a => f (g a) := by
  induction items with
  | nil =>
      rfl
  | cons a items ih =>
      obtain ⟨ha, hrest⟩ := List.forall_mem_cons.mp h
      rw [List.length_cons, List.range_succ_eq_map, List.map_cons, List.map_cons, List.map_map,
        ← ih hrest]
      -- The first block is taken, and the others are those of the rest.
      congr 1
      · rw [List.flatMap_cons, Nat.zero_mul, List.drop_zero, List.take_left' ha]
      · refine List.map_congr_left ?_
        intro i _
        simp only [Function.comp_apply]
        rw [List.flatMap_cons, Nat.succ_mul, Nat.add_comm, ← List.drop_drop, List.drop_left' ha]

/-- The elements of a rectangular nesting, replaced and cut into its shape, make up the nesting. -/
theorem build_leaves (h : Rectangular shape n) (f : Scalar → Scalar) :
    build shape (n.leaves.map f) = n.mapLeaves f := by
  induction h with
  | leaf x =>
      rfl
  | @node shape items each empty ih =>
      have hblocks : ∀ n ∈ items, (n.leaves.map f).length = NDArray.volume shape := by
        intro n hn
        rw [List.length_map, length_leaves (each n hn)]
      rw [build, leaves_node, mapLeaves_node, List.map_flatMap, map_blocks hblocks]
      congr 1
      exact List.map_congr_left ih

/-- What is cut into a shape has the shape. -/
theorem rectangular_build (hs : EmptyLast shape) (xs : List Scalar) :
    Rectangular shape (build shape xs) := by
  induction shape generalizing xs with
  | nil =>
      exact .leaf _
  | cons d shape ih =>
      have heach : ∀ n ∈ (List.range d).map fun i =>
          build shape ((xs.drop (i * NDArray.volume shape)).take (NDArray.volume shape)),
          Rectangular shape n := by
        intro n hn
        obtain ⟨i, -, rfl⟩ := List.mem_map.mp hn
        exact ih hs.2 _
      have hnode := Rectangular.node heach fun hnil => hs.1 (by simpa using hnil)
      simpa [build] using hnode

/-- What is cut into a shape has the same elements. -/
theorem leaves_build (h : xs.length = NDArray.volume shape) : (build shape xs).leaves = xs := by
  induction shape generalizing xs with
  | nil =>
      obtain ⟨x, rfl⟩ := List.length_eq_one_iff.mp h
      rfl
  | cons d shape ih =>
      have heach : ∀ i ∈ List.range d,
          (build shape ((xs.drop (i * NDArray.volume shape)).take (NDArray.volume shape))).leaves =
            (xs.drop (i * NDArray.volume shape)).take (NDArray.volume shape) := by
        intro i hi
        refine ih ?_
        -- The elements of a part are all there.
        have hroom : i * NDArray.volume shape + NDArray.volume shape ≤ xs.length := by
          rw [h, ← Nat.succ_mul]
          exact Nat.mul_le_mul_right _ (List.mem_range.mp hi)
        rw [List.length_take, List.length_drop]
        omega
      rw [build, leaves_node, List.flatMap_map, List.flatMap_congr heach, NDArray.flatMap_parts]
      exact List.take_of_length_le h.le

end Nested

namespace NDArray

variable {a : NDArray} {d : Dtype} {v : Nested} {shape : List Nat}

/-! ## Arrays of nestings -/

/-- From a rectangular nesting the array is made of its leaves. -/
theorem fromNested_eq (h : v.Rectangular shape) :
    fromNested v d = ofScalars v.leaves d (some (shape.map Float.ofNat)) := by
  rw [fromNested, Nested.shape_of_rectangular h, Nested.flatten_of_rectangular h]
  rfl

/-- A nesting that is not rectangular has lists that are too deep or not equally long. -/
theorem error_of_fromNested (h : ¬ ∃ shape, v.Rectangular shape) :
    ∃ e, fromNested v d = .error e ∧ (e = .tooDeep ∨ ∃ k, e = .ragged k) := by
  cases hflatten : v.flatten 0 v.shape with
  | ok xs =>
      exact absurd ⟨_, Nested.rectangular_of_flatten (Nested.emptyLast_shape v) hflatten⟩ h
  | error e =>
      refine ⟨e, ?_, Nested.error_of_flatten hflatten⟩
      rw [fromNested, hflatten]
      rfl

/-- The array of a rectangular nesting of integers. -/
theorem fromNested_of_rectangular (hd : d.Integral)
    (hleaves : ∀ x ∈ v.leaves, ∃ i, x.integer? = some i ∧ d.Holds i) (h : v.Rectangular shape)
    (hv : v.Counted) :
    ∃ a, fromNested v d = .ok a ∧ a.dtype = d ∧ a.shape = shape.map Float.ofNat ∧
      a.toNested? = some (v.mapLeaves d.settle) := by
  obtain ⟨bs, hstore, hload⟩ := Dtype.exists_storeAll hd hleaves
  have hs := Nested.shape_of_rectangular h
  -- The leaves are as many as the shape says, so the check passes.
  have hcheck : checkShape (shape.map Float.ofNat) v.leaves.length = .ok () := by
    rw [Nested.length_leaves h, ← hs]
    exact checkShape_map_ofNat hv.each hv.together
  have hbuilt : fromNested v d = .ok ⟨d, shape.map Float.ofNat, bs⟩ := by
    rw [fromNested_eq h, ofScalars, hstore]
    exact exists_ofOctets (Dtype.length_storeAll hstore) hcheck
  refine ⟨_, hbuilt, rfl, rfl, (toNested?_eq_some (valid_of_fromNested hbuilt)).mpr ?_⟩
  · have hdims : (shape.map Float.ofNat).map Number.toNat = shape := by
      rw [List.map_map]
      conv_rhs => rw [← List.map_id shape]
      refine List.map_congr_left ?_
      intro n hn
      exact Number.toNat_ofNat (hv.each n (by rwa [hs]))
    rw [toNested, dims, hdims, elements, hload]
    refine ⟨countable_of_forall ?_, Nested.build_leaves h d.settle⟩
    intro n hn
    exact (hv.each n (by rwa [hs])).le

/-! ## Nestings of arrays -/

/-- The lengths of the axes, taken for numbers again, are the dimensions without the sign of a zero.
-/
theorem ofNat_dims (h : a.Valid) : a.dims.map Float.ofNat = a.shape.map Number.unsignedZero := by
  rw [dims, List.map_map]
  refine List.map_congr_left ?_
  intro x hx
  have hint := (amount_of_isDimension (h.isDimension x hx)).1
  exact Number.ofInt_of_integer? hint

/-- An array of integers is built again from its nesting. The sign of a zero in its shape is lost.
-/
theorem fromNested_toNested (h : a.Valid) (hf : a.Fits) (hd : a.dtype.Integral)
    (hs : Nested.EmptyLast a.dims) {n : Nested} (hn : a.toNested? = some n) :
    fromNested n a.dtype = .ok ⟨a.dtype, a.shape.map Number.unsignedZero, a.octets⟩ := by
  obtain ⟨-, rfl⟩ := (toNested?_eq_some h).mp hn
  have hrectangular : a.toNested.Rectangular a.dims := Nested.rectangular_build hs a.elements
  have hleaves : a.toNested.leaves = a.elements := Nested.leaves_build (h.exact hf).count
  rw [fromNested_eq hrectangular, hleaves, ofNat_dims h]
  exact ofScalars_loadAll hd h.length_octets (checkShape_unsignedZero h.shape)

/-! ## Both ways -/

/-- Of the nestings of integers in the range of a kind exactly the rectangular ones become arrays.
Such an array has the shape of the nesting, and its nesting is the one that it was made of, with
every integer as the element that it is in the kind; every other nesting is refused as not
homogeneous. The other way round an array without empty axes before its last one is built again from
its nesting, which it has if its axes can be counted. -/
theorem fromNested_rectangular {d : Dtype} (hd : d.Integral) :
    (∀ v : Nested, (∀ x ∈ v.leaves, ∃ i, x.integer? = some i ∧ d.Holds i) →
      (∀ shape, v.Rectangular shape → v.Counted) →
        ((∃ a, fromNested v d = .ok a) ↔ ∃ shape, v.Rectangular shape) ∧
        (∀ a shape, fromNested v d = .ok a → v.Rectangular shape →
          a.dtype = d ∧ a.shape = shape.map Float.ofNat ∧ a.toNested? = some (v.mapLeaves d.settle) ∧
            ((∀ x ∈ v.leaves, ∃ i, d.Holds i ∧ x = d.ofInteger i) → a.toNested? = some v)) ∧
        ∀ e, fromNested v d = .error e →
          e.isKind = false ∧ (e = .tooDeep ∨ ∃ depth, e = .ragged depth)) ∧
    ∀ a : NDArray, a.Valid → a.Fits → a.dtype = d → Nested.EmptyLast a.dims →
      ((∃ n, a.toNested? = some n) ↔ Countable a.dims) ∧ ∀ n, a.toNested? = some n →
        fromNested n d = .ok ⟨d, a.shape.map Number.unsignedZero, a.octets⟩ := by
  constructor
  · intro v hleaves hcounted
    refine ⟨⟨?_, ?_⟩, ?_, ?_⟩
    · -- A nesting that is not rectangular is refused, and what is refused gives no array.
      rintro ⟨a, ha⟩
      by_contra hnot
      obtain ⟨e, he, -⟩ := error_of_fromNested (d := d) hnot
      cases ha.symm.trans he
    · rintro ⟨shape, hshape⟩
      obtain ⟨a, ha, -⟩ := fromNested_of_rectangular hd hleaves hshape (hcounted shape hshape)
      exact ⟨a, ha⟩
    · intro a shape ha hshape
      obtain ⟨a', ha', hdtype, hdims, hnested⟩ :=
        fromNested_of_rectangular hd hleaves hshape (hcounted shape hshape)
      cases ha.symm.trans ha'
      refine ⟨hdtype, hdims, hnested, ?_⟩
      intro helements
      rw [hnested, Option.some_inj]
      refine Nested.mapLeaves_fixed ?_
      intro x hx
      obtain ⟨i, hi, rfl⟩ := helements x hx
      exact Dtype.settle_ofInteger hd hi
    · intro e he
      by_cases hshape : ∃ shape, v.Rectangular shape
      · obtain ⟨shape, hshape⟩ := hshape
        obtain ⟨a, ha, -⟩ := fromNested_of_rectangular hd hleaves hshape (hcounted shape hshape)
        cases he.symm.trans ha
      · obtain ⟨e', he', hfault⟩ := error_of_fromNested (d := d) hshape
        cases he.symm.trans he'
        refine ⟨?_, hfault⟩
        obtain rfl | ⟨depth, rfl⟩ := hfault
        · rfl
        · rfl
  · rintro a h hf rfl hs
    exact ⟨exists_toNested? h, fun n hn => fromNested_toNested h hf hd hs hn⟩

/-- Two rows of two integers. -/
def square : Nested :=
  .node [.node [.leaf (.num 1), .leaf (.num 2)], .node [.leaf (.num 3), .leaf (.num 4)]]

/-- The nesting of two rows becomes an array, which gives it back. A column is built again from its
nesting. -/
theorem fromNested_rectangular_square :
    Dtype.Integral .i32 ∧ square.Rectangular [2, 2] ∧
      (∃ a, fromNested square .i32 = .ok a ∧ a.shape = [2, 2] ∧ a.toNested? = some square) ∧
      ∃ n, toNested? ⟨.i32, [2, 1], [1, 0, 0, 0, 0xFE, 0xFF, 0xFF, 0xFF]⟩ = some n ∧
        fromNested n .i32 = .ok ⟨.i32, [2, 1], [1, 0, 0, 0, 0xFE, 0xFF, 0xFF, 0xFF]⟩ := by
  have hd : Dtype.Integral .i32 := by decide
  have hflatten : square.flatten 0 [2, 2] = .ok square.leaves := by
    rfl
  have hrectangular : square.Rectangular [2, 2] :=
    Nested.rectangular_of_flatten (by simp [Nested.EmptyLast]) hflatten
  have helements : ∀ x ∈ square.leaves, ∃ i, x.integer? = some i ∧ Dtype.Holds .i32 i ∧
      x = Dtype.ofInteger .i32 i := by
    have hleaves : square.leaves = (List.range' 1 4).map fun n => .num (Float.ofNat n) := rfl
    intro x hx
    rw [hleaves] at hx
    obtain ⟨n, hn, rfl⟩ := List.mem_map.mp hx
    have hn : n < 5 := (List.mem_range'_1.mp hn).2
    refine ⟨n, Number.integer?_ofNat (by omega), ?_, rfl⟩
    interval_cases n <;> decide
  have hcounted : square.Counted := by
    constructor
    · decide
    · intro k
      rcases k with _ | _ | k
      · decide
      · decide
      · simp [square, Nested.shape, volume]
  have hdims : dims ⟨.i32, [2, 1], [1, 0, 0, 0, 0xFE, 0xFF, 0xFF, 0xFF]⟩ = [2, 1] := by
    rfl
  have hcolumn : Nested.EmptyLast (dims ⟨.i32, [2, 1], [1, 0, 0, 0, 0xFE, 0xFF, 0xFF, 0xFF]⟩) := by
    simp [hdims, Nested.EmptyLast]
  obtain ⟨hnested, harray⟩ := fromNested_rectangular hd
  obtain ⟨hiff, hback, -⟩ := hnested square
    (fun x hx => (helements x hx).imp fun i h => ⟨h.1, h.2.1⟩) (fun _ _ => hcounted)
  obtain ⟨a, ha⟩ := hiff.mpr ⟨_, hrectangular⟩
  obtain ⟨-, hshape, -, hsame⟩ := hback a _ ha hrectangular
  obtain ⟨hexists, hagain⟩ := harray ⟨.i32, [2, 1], [1, 0, 0, 0, 0xFE, 0xFF, 0xFF, 0xFF]⟩
    ⟨by decide, by decide +kernel⟩ (by decide) rfl hcolumn
  obtain ⟨n, hn⟩ := hexists.mpr (by rw [hdims]; exact countable_of_volume (by decide) (by decide))
  refine ⟨hd, hrectangular, ⟨a, ha, hshape, hsame fun x hx => (helements x hx).imp fun i h => h.2⟩, ?_⟩
  exact ⟨n, hn, hagain n hn⟩

/-- A number is an integer of a 64-bit kind as well, but it is read back as an exact integer. -/
theorem fromNested_number_wide :
    Dtype.Integral .i64 ∧
      (∀ x ∈ (Nested.leaf (.num 5)).leaves, ∃ i, x.integer? = some i ∧ Dtype.Holds .i64 i) ∧
      (Nested.leaf (.num 5)).Rectangular [] ∧
      ∃ a, fromNested (.leaf (.num 5)) .i64 = .ok a ∧ a.toNested? = some (.leaf (.int 5)) ∧
        a.toNested? ≠ some (.leaf (.num 5)) := by
  have hinteger : Number.integer? 5 = some ((5 : Nat) : Int) := Number.integer?_ofNat (by norm_num)
  have hbuilt : fromNested (.leaf (.num 5)) .i64 = .ok ⟨.i64, [], [5, 0, 0, 0, 0, 0, 0, 0]⟩ := by
    rfl
  have helements : elements ⟨.i64, [], [5, 0, 0, 0, 0, 0, 0, 0]⟩ = [.int 5] := by
    decide +kernel
  have hback : toNested? ⟨.i64, [], [5, 0, 0, 0, 0, 0, 0, 0]⟩ = some (.leaf (.int 5)) := by
    rw [toNested?, helements]
    rfl
  refine ⟨by decide, ?_, .leaf _, _, hbuilt, hback, ?_⟩
  · intro x hx
    cases List.mem_singleton.mp hx
    exact ⟨5, hinteger, by decide⟩
  · rw [hback]
    intro h
    cases h

end NDArray
end LineRpc
