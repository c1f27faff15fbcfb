import LineRpc.Library.Arrays
import LineRpc.Proofs.NDArray.Views

/-!
# Transpose — rows and columns exchanged

The elements of an array with rows and columns are picked column by column and stored again. Element
`j * rows + i` of what is picked is element `i * cols + j` of the array, so an index with its parts
exchanged reads the same element, and what is picked twice are the elements of the array again, in
their order. In an integer kind the elements determine the octets. The columns are counted one by
one, and that never ends if there are more than `2 ^ 53` of them, though the array be empty.

* `getElem?_columnMajor`    : the places, column by column
* `Transposed.getElem?`     : where an element goes
* `Transposed.element_iff`  : an index with its parts exchanged
* `Transposed.twice`        : exchanging twice
* `transpose_exchanges`     : the function of the library
-/

namespace LineRpc
namespace NDArray

/-! ## Places -/

/-- Blocks of one width: an item of a block stands as far behind its start. -/
theorem getElem?_blocks {α : Type} {f : Nat → List α} {n width : Nat}
    (hwidth : ∀ k < n, (f k).length = width) {k i : Nat} (hk : k < n) (hi : i < width) :
    ((List.range n).flatMap f)[k * width + i]? = (f k)[i]? := by
  induction n with
  | zero =>
      cases hk
  | succ n ih =>
      have hwidth' : ∀ k < n, (f k).length = width := fun k hk => hwidth k (Nat.lt_succ_of_lt hk)
      have hlength : ((List.range n).flatMap f).length = n * width := by
        rw [List.length_flatMap, List.map_congr_left (fun k hk => hwidth' k (List.mem_range.mp hk))]
        simp
      rw [List.range_succ, List.flatMap_append, List.flatMap_singleton]
      -- A place is in the last block or in those before it.
      rcases Nat.lt_succ_iff_lt_or_eq.mp hk with hlt | rfl
      · rw [List.getElem?_append_left (by rw [hlength]; exact place_lt hlt hi)]
        exact ih hwidth' hlt
      · rw [List.getElem?_append_right (by rw [hlength]; exact Nat.le_add_right _ _), hlength,
          Nat.add_sub_cancel_left]

/-- The element of a row and a column stands at its place in the columns. -/
theorem getElem?_columnMajor {rows cols i j : Nat} (hi : i < rows) (hj : j < cols) :
    (columnMajor rows cols)[j * rows + i]? = some (i * cols + j) := by
  rw [columnMajor, getElem?_blocks (fun k _ => by simp) hj hi]
  simp [hi]

variable {a b b' : NDArray} {r c : Float}

/-! ## Elements -/

namespace Transposed

/-- The element of a row and a column goes where the column and the row say. -/
theorem getElem? (h : a.Valid) (hf : a.Fits) (hs : a.shape = [r, c]) (ht : Transposed a b r c)
    {i j : Nat} (hi : i < Number.toNat r) (hj : j < Number.toNat c) :
    b.elements[j * Number.toNat r + i]? = a.elements[i * Number.toNat c + j]? := by
  have hlt : i * Number.toNat c + j < a.size := by
    rw [← size_of_pair h hf hs]
    exact place_lt hi hj
  rw [ht.elements, picked, List.getElem?_map, getElem?_columnMajor hi hj, getElem?_elements h hlt]
  rfl

end Transposed

/-! ## Indices -/

/-- Two numbers read an element if they are a row and a column. -/
theorem element_pair (h : a.Valid) (hf : a.Fits) (hs : a.shape = [r, c]) {x y : Float} {e : Scalar} :
    a.element [x, y] = .ok e ↔
      ∃ i j : Nat, Number.integer? x = some (i : Int) ∧ Number.integer? y = some (j : Int) ∧
        i < Number.toNat r ∧ j < Number.toNat c ∧ a.elements[i * Number.toNat c + j]? = some e := by
  have hdims : a.dims = [Number.toNat r, Number.toNat c] := by
    simp [dims, hs]
  have hplace (i j : Nat) : place a.dims [i, j] = i * Number.toNat c + j := by
    simp [hdims, place, volume]
  rw [element_eq_ok h hf]
  constructor
  · rintro ⟨index, hreads, hinside, he⟩
    -- Two numbers are read as an index of two parts.
    cases hreads with
    | @cons _ i _ _ hx hreads =>
        cases hreads with
        | @cons _ j _ _ hy hreads =>
            cases hreads
            rw [hdims] at hinside
            obtain ⟨_, _, hindex, hi, hinside⟩ := inside_cons.mp hinside
            cases hindex
            obtain ⟨_, _, hindex, hj, -⟩ := inside_cons.mp hinside
            cases hindex
            exact ⟨i, j, hx, hy, hi, hj, hplace i j ▸ he⟩
  · rintro ⟨i, j, hx, hy, hi, hj, he⟩
    refine ⟨[i, j], .cons hx (.cons hy .nil), ?_, (hplace i j).symm ▸ he⟩
    rw [hdims]
    exact .cons hi (.cons hj .nil)

/-- A row and a column have an element. -/
theorem exists_element_pair (h : a.Valid) (hf : a.Fits) (hs : a.shape = [r, c]) {i j : Nat}
    (hi : i < Number.toNat r) (hj : j < Number.toNat c) :
    ∃ e, a.elements[i * Number.toNat c + j]? = some e := by
  have hlt : i * Number.toNat c + j < a.size := by
    rw [← size_of_pair h hf hs]
    exact place_lt hi hj
  exact ⟨_, getElem?_elements h hlt⟩

namespace Transposed

/-- An index with its parts exchanged reads the same element. -/
theorem element_iff (h : a.Valid) (hf : a.Fits) (hs : a.shape = [r, c]) (ht : Transposed a b r c)
    {x y : Float} {e : Scalar} : b.element [y, x] = .ok e ↔ a.element [x, y] = .ok e := by
  rw [element_pair ht.valid ht.fits ht.shape, element_pair h hf hs]
  constructor
  · rintro ⟨j, i, hy, hx, hj, hi, he⟩
    exact ⟨i, j, hx, hy, hi, hj, (ht.getElem? h hf hs hi hj).symm.trans he⟩
  · rintro ⟨i, j, hx, hy, hi, hj, he⟩
    exact ⟨j, i, hy, hx, hj, hi, (ht.getElem? h hf hs hi hj).trans he⟩

/-! ## Twice -/

/-- Picking the exchanged columns one by one runs through the elements of the array in their order.
-/
theorem twice (h : a.Valid) (hf : a.Fits) (hs : a.shape = [r, c]) (ht : Transposed a b r c)
    (ht' : Transposed b b' c r) : b'.elements = a.elements := by
  have hsize := size_of_pair h hf hs
  have hvolume : volume [Number.toNat r, Number.toNat c] = a.size := by
    simpa [dims, hs] using h.volume hf
  have hlength : b'.elements.length = a.size := by
    rw [ht'.elements, picked, List.length_map, length_columnMajor, Nat.mul_comm, hsize]
  refine List.ext_getElem? fun p => ?_
  rcases lt_or_ge p a.size with hp | hp
  · -- The place is that of a row and a column.
    obtain ⟨index, hinside, hplace⟩ := exists_place (hvolume ▸ hp)
    obtain ⟨i, _, rfl, hi, hinside⟩ := inside_cons.mp hinside
    obtain ⟨j, _, rfl, hj, hinside⟩ := inside_cons.mp hinside
    cases hinside
    obtain rfl : i * Number.toNat c + j = p := by
      simpa [place, volume] using hplace
    rw [ht'.getElem? ht.valid ht.fits ht.shape hj hi, ht.getElem? h hf hs hi hj]
  · rw [List.getElem?_eq_none (by omega), List.getElem?_eq_none (by rw [h.length_elements]; exact hp)]

/-- In an integer kind rows and columns that are exchanged twice are those of the array, octet by
octet. -/
theorem eq_of_twice (hd : a.dtype.Integral) (h : a.Valid) (hf : a.Fits) (hs : a.shape = [r, c])
    (ht : Transposed a b r c) (ht' : Transposed b b' c r) : b' = a :=
  eq_of_elements hd h ht'.valid (ht'.dtype.trans ht.dtype) (ht'.shape.trans hs.symm)
    (twice h hf hs ht ht')

end Transposed

/-! ## The function -/

theorem transpose_ndarray (a : NDArray) :
    Arrays.transpose [.ndarray a] = (Args.ofAttempt a.transpose).map .ndarray := by
  have harity : Args.arity "transpose" [.ndarray a] 1 1 = .ok () := by
    simp [Args.arity]
  have harray : Args.array "transpose" (Args.nth [.ndarray a] 0) = .ok a := rfl
  rw [Arrays.transpose, harity, harray]
  change (Args.ofAttempt a.transpose >>= _) = _
  cases Args.ofAttempt a.transpose <;> rfl

/-- The function gives the transposed array, or has no end if there are too many columns. -/
theorem transpose_of_pair (h : a.Valid) (hf : a.Fits) (hs : a.shape = [r, c]) :
    (Number.toNat c ≤ 2 ^ 53 ∧ ∃ b, Arrays.transpose [.ndarray a] = .ok (.ndarray b) ∧
        ofScalars (a.picked (columnMajor (Number.toNat r) (Number.toNat c))) a.dtype (some [c, r]) =
          .ok b ∧ Transposed a b r c) ∨
      2 ^ 53 < Number.toNat c ∧ Arrays.transpose [.ndarray a] = .error (.failed .endless) := by
  rw [transpose_ndarray, transpose_eq h hf hs]
  split
  · rename_i hcount
    obtain ⟨b, hb, ht⟩ := exists_transposed h hf hs
    exact .inl ⟨hcount, b, by rw [hb]; rfl, hb, ht⟩
  · rename_i hcount
    exact .inr ⟨not_le.mp hcount, rfl⟩

/-- What exchanging the rows and columns of an array with two dimensions comes to. -/
structure Exchanges (a : NDArray) (r c : Float) : Prop where
  /-- There is an end just if the columns can be counted, and nothing is raised. -/
  ends : (∃ v, Arrays.transpose [.ndarray a] = .ok v) ↔ Number.toNat c ≤ 2 ^ 53
  endless : ∀ e, Arrays.transpose [.ndarray a] = .error e → e = .failed .endless
  /-- The outcome is an array of the kind, with the two dimensions exchanged: the one of the
  elements, read column by column and stored again. -/
  array : ∀ v, Arrays.transpose [.ndarray a] = .ok v →
    ∃ b : NDArray, v = .ndarray b ∧ b.Valid ∧ b.Exact ∧ b.dtype = a.dtype ∧ b.shape = [c, r] ∧
      ofScalars (a.picked (columnMajor (Number.toNat r) (Number.toNat c))) a.dtype (some [c, r]) =
        .ok b ∧
      b.elements = a.picked (columnMajor (Number.toNat r) (Number.toNat c))
  /-- An index with its parts exchanged reads the same element, and every row and column has one. -/
  element : ∀ b, Arrays.transpose [.ndarray a] = .ok (.ndarray b) →
    (∀ (i j : Nat) (x y : Float), Number.integer? x = some (i : Int) →
      Number.integer? y = some (j : Int) → i < Number.toNat r → j < Number.toNat c →
      ∃ e, a.element [x, y] = .ok e ∧ b.element [y, x] = .ok e) ∧
    ∀ x y e, b.element [y, x] = .ok e ↔ a.element [x, y] = .ok e
  /-- Exchanging again gives the kind, the shape and the elements of the array back, and in an
  integer kind its octets too; it has an end just if the rows can be counted. -/
  twice : ∀ b, Arrays.transpose [.ndarray a] = .ok (.ndarray b) →
    ((∃ v, Arrays.transpose [.ndarray b] = .ok v) ↔ Number.toNat r ≤ 2 ^ 53) ∧
    ∀ v, Arrays.transpose [.ndarray b] = .ok v →
      (∃ b' : NDArray, v = .ndarray b' ∧ b'.dtype = a.dtype ∧ b'.shape = a.shape ∧
        b'.elements = a.elements) ∧
      (a.dtype.Integral → v = .ndarray a)

/-- There is an end just if the columns can be counted. -/
theorem exists_transpose_iff (h : a.Valid) (hf : a.Fits) (hs : a.shape = [r, c]) :
    (∃ v, Arrays.transpose [.ndarray a] = .ok v) ↔ Number.toNat c ≤ 2 ^ 53 := by
  rcases transpose_of_pair h hf hs with ⟨hcount, b, hb, -⟩ | ⟨hcount, hendless⟩
  · exact ⟨fun _ => hcount, fun _ => ⟨_, hb⟩⟩
  · refine ⟨fun ⟨v, hv⟩ => ?_, fun hle => absurd hle (not_le.mpr hcount)⟩
    cases hendless.symm.trans hv

/-- Whatever it ends with is the transposed array. -/
theorem transposed_of_transpose (h : a.Valid) (hf : a.Fits) (hs : a.shape = [r, c]) {v : Value}
    (hv : Arrays.transpose [.ndarray a] = .ok v) :
    ∃ b : NDArray, v = .ndarray b ∧
      ofScalars (a.picked (columnMajor (Number.toNat r) (Number.toNat c))) a.dtype (some [c, r]) =
        .ok b ∧ Transposed a b r c := by
  rcases transpose_of_pair h hf hs with ⟨-, b, hb, hstored, ht⟩ | ⟨-, hendless⟩
  · cases hb.symm.trans hv
    exact ⟨b, rfl, hstored, ht⟩
  · cases hendless.symm.trans hv

/-- Transposing puts each element of a row and a column at that column and row. -/
theorem exchanges (h : a.Valid) (hf : a.Fits) (hs : a.shape = [r, c]) : Exchanges a r c where
  ends := exists_transpose_iff h hf hs
  endless := by
    intro e he
    rcases transpose_of_pair h hf hs with ⟨-, b, hb, -⟩ | ⟨-, hendless⟩
    · cases hb.symm.trans he
    · exact (Except.error.inj (hendless.symm.trans he)).symm
  array := by
    intro v hv
    obtain ⟨b, rfl, hstored, ht⟩ := transposed_of_transpose h hf hs hv
    exact ⟨b, rfl, ht.valid, ht.valid.exact ht.fits, ht.dtype, ht.shape, hstored, ht.elements⟩
  element := by
    intro b hb
    obtain ⟨_, hb, -, ht⟩ := transposed_of_transpose h hf hs hb
    cases hb
    refine ⟨?_, fun x y e => ht.element_iff h hf hs⟩
    intro i j x y hx hy hi hj
    obtain ⟨e, he⟩ := exists_element_pair h hf hs hi hj
    have hread := (element_pair h hf hs).mpr ⟨i, j, hx, hy, hi, hj, he⟩
    exact ⟨e, hread, (ht.element_iff h hf hs).mpr hread⟩
  twice := by
    intro b hb
    obtain ⟨_, hb, -, ht⟩ := transposed_of_transpose h hf hs hb
    cases hb
    refine ⟨exists_transpose_iff ht.valid ht.fits ht.shape, ?_⟩
    intro v hv
    -- The second exchange is that of the outcome of the first.
    obtain ⟨b', rfl, -, ht'⟩ := transposed_of_transpose ht.valid ht.fits ht.shape hv
    have hback := ht.twice h hf hs ht'
    refine ⟨⟨b', rfl, ht'.dtype.trans ht.dtype, ht'.shape.trans hs.symm, hback⟩, fun hd => ?_⟩
    rw [ht.eq_of_twice hd h hf hs ht']

/-- Exchanging the rows and columns of an array of any kind gives the transposed array, if the
columns can be counted, and exchanging again gives the array back. An array that has not two
dimensions is given back as it is. -/
theorem transpose_exchanges (h : a.Valid) (hf : a.Fits) :
    (∀ r c, a.shape = [r, c] → Exchanges a r c) ∧
    (a.rank ≠ 2 → Arrays.transpose [.ndarray a] = .ok (.ndarray a)) := by
  constructor
  · intro r c hs
    exact exchanges h hf hs
  · intro hrank
    rw [transpose_ndarray, transpose_of_rank hrank]
    rfl

/-- Two rows of three elements of two octets each. -/
def wideRows : NDArray :=
  ⟨.i16, [2, 3], [1, 0, 2, 0, 3, 0, 4, 0, 5, 0, 255, 255]⟩

/-- The last element of the second row becomes that of the second column, and one row stays. -/
theorem transpose_exchanges_wideRows :
    wideRows.Valid ∧ wideRows.Fits ∧ wideRows.dtype.Integral ∧
      (∃ b : NDArray, Arrays.transpose [.ndarray wideRows] = .ok (.ndarray b) ∧ b.Valid ∧
        b.shape = [3, 2] ∧ b.element [2, 1] = .ok (.num (-1)) ∧
        Arrays.transpose [.ndarray b] = .ok (.ndarray wideRows)) ∧
      Arrays.transpose [.ndarray ⟨.i16, [2], [1, 0, 2, 0]⟩] =
        .ok (.ndarray ⟨.i16, [2], [1, 0, 2, 0]⟩) := by
  have hvalid : wideRows.Valid := ⟨by decide, by decide +kernel⟩
  have hfits : wideRows.Fits := by decide
  have hd : wideRows.dtype.Integral := by decide
  have hrows : Number.toNat 2 = 2 := by decide +kernel
  have hcols : Number.toNat 3 = 3 := by decide +kernel
  have hread : wideRows.element [1, 2] = .ok (.num (-1)) := by decide +kernel
  have hexchanges := (transpose_exchanges hvalid hfits).1 2 3 rfl
  obtain ⟨v, hv⟩ := hexchanges.ends.mpr (by rw [hcols]; norm_num)
  obtain ⟨b, rfl, hvalidb, -, -, hshape, -⟩ := hexchanges.array v hv
  obtain ⟨hends, hback⟩ := hexchanges.twice b hv
  obtain ⟨v', hv'⟩ := hends.mpr (by rw [hrows]; norm_num)
  obtain rfl := (hback v' hv').2 hd
  refine ⟨hvalid, hfits, hd,
    ⟨b, hv, hvalidb, hshape, ((hexchanges.element b hv).2 1 2 _).mpr hread, hv'⟩, ?_⟩
  have hrow : NDArray.Valid ⟨.i16, [2], [1, 0, 2, 0]⟩ := ⟨by decide, by decide +kernel⟩
  exact (transpose_exchanges hrow (by decide)).2 (by decide)

/-- As many columns without elements as no number can count one by one. -/
def endlessColumns : NDArray :=
  ⟨.u8, [0, 9007199254740994], []⟩

/-- An empty array of an integer kind passes every check, and exchanging its axes never ends. -/
theorem transpose_endlessColumns :
    endlessColumns.Valid ∧ endlessColumns.Fits ∧ endlessColumns.dtype.Integral ∧
      endlessColumns.rank = 2 ∧
      Arrays.transpose [.ndarray endlessColumns] = .error (.failed .endless) := by
  have hvalid : endlessColumns.Valid := ⟨by decide, by decide +kernel⟩
  have hfits : endlessColumns.Fits := by decide
  have hcols : Number.toNat 9007199254740994 = 9007199254740994 := by decide +kernel
  refine ⟨hvalid, hfits, by decide, rfl, ?_⟩
  rw [transpose_ndarray, transpose_eq hvalid hfits rfl, hcols, if_neg (by norm_num)]
  rfl

end NDArray
end LineRpc
