import LineRpc.Proofs.NDArray.Exact

/-!
# Frame — labels and columns agree with the values

A series has one axis and a label for each element, if it has labels at all; a table with columns
has two axes and as many columns as the second is long, and a label for each row. Building checks
this with numbers; as long as labels, columns and octets can be counted it holds exactly. The column
of a table is a series, and finding it fails only if there is no column of the name.

* `Series.Valid`, `Series.Exact`, `Frame.Exact` : what building makes sure of, and what it comes to
* `Series.Valid.exact`, `Frame.Valid.exact`     : the one gives the other
* `Frame.valid_of_column`                       : a column is a series as it is built
* `Frame.error_of_column`                       : a column is not found only if it is not there
-/

namespace LineRpc

/-! ## Labels -/

/-- The labels, if there are any, can be counted. -/
def LabelsFit (index : Option (List Label)) : Prop :=
  ∀ labels, index = some labels → labels.length < 2 ^ 53

theorem checkLabels_some {rows : Float} {labels : List Label} :
    checkLabels rows (some labels) = .ok () ↔ (rows == Float.ofNat labels.length) = true := by
  rw [checkLabels, Number.beq_comm]
  split <;> simp_all

/-- Labels pass exactly if they are as many as there are rows. -/
theorem checkLabels_iff {rows : Float} {n : Nat} (hrows : Number.Amount rows (n : ℚ))
    {index : Option (List Label)} (hl : LabelsFit index) :
    checkLabels rows index = .ok () ↔ ∀ labels, index = some labels → labels.length = n := by
  cases index with
  | none =>
      refine iff_of_true rfl ?_
      intro labels h
      cases h
  | some labels =>
      have hcast : ((n : ℚ) : WithTop ℚ) = (labels.length : ℚ) ↔ labels.length = n := by
        rw [WithTop.coe_inj, Nat.cast_inj, eq_comm]
      rw [checkLabels_some, Number.beq_ofNat_iff (hl labels rfl) hrows, hcast]
      simp

/-! ## Series -/

namespace Series

variable {s : Series}

/-- What building a series makes sure of: its values are an array of one axis, and its labels fit.
-/
structure Valid (s : Series) : Prop where
  values : s.values.Valid
  axis : s.values.rank = 1
  index : checkLabels (Float.ofNat s.values.size) s.index = .ok ()

/-- The values agree with their shape, which has one axis, and every element has a label or none
has. -/
structure Exact (s : Series) : Prop where
  values : s.values.Exact
  axis : s.values.rank = 1
  index : ∀ labels, s.index = some labels → labels.length = s.values.elements.length

/-- Octets and labels can be counted. -/
structure Fits (s : Series) : Prop where
  values : s.values.Fits
  index : LabelsFit s.index

theorem Valid.exact (h : s.Valid) (hf : s.Fits) : s.Exact where
  values := h.values.exact hf.values
  axis := h.axis
  index := by
    intro labels hlabels
    have hcount : s.values.elements.length = s.values.size := h.values.length_elements
    simpa only [hcount] using (checkLabels_iff (Number.amount_ofNat hf.values.size) hf.index).mp
      h.index labels hlabels

/-- A series is made exactly of one axis and an index that fits. -/
theorem make_eq_ok {values : NDArray} {name : Option String} {index : Option (List Label)} :
    make values name index = .ok s ↔
      values.rank = 1 ∧ checkLabels (Float.ofNat values.size) index = .ok () ∧
        ⟨values, name, index⟩ = s := by
  by_cases hrank : values.rank = 1
  · cases hcheck : checkLabels (Float.ofNat values.size) index with
    | error e =>
        simp [make, hrank, hcheck, bind, Except.bind]
    | ok u =>
        simp [make, hrank, hcheck, bind, Except.bind, pure, Except.pure]
  · simp [make, hrank, bind, Except.bind, throw, throwThe, MonadExceptOf.throw]

/-- What is built from an array is a series. -/
theorem valid_of_make {values : NDArray} (hv : values.Valid) {name : Option String}
    {index : Option (List Label)} (h : make values name index = .ok s) : s.Valid := by
  obtain ⟨hrank, hcheck, rfl⟩ := make_eq_ok.mp h
  exact ⟨hv, hrank, hcheck⟩

end Series

/-! ## Tables -/

namespace Frame

variable {f : Frame} {name : String} {s : Series}

/-- The values agree with their shape, columns are as many as the second of two axes is long, and
every row has a label or none has. -/
structure Exact (f : Frame) : Prop where
  values : f.values.Exact
  columns : f.columns ≠ [] →
    ∃ r c, f.values.shape = [r, c] ∧ Number.toNat c = f.columns.length
  index : ∀ labels, f.index = some labels → labels.length = Number.toNat f.rows

/-- Octets, columns and labels can be counted. -/
structure Fits (f : Frame) : Prop where
  values : f.values.Fits
  columns : f.columns.length < 2 ^ 53
  index : LabelsFit f.index

/-- A table is made exactly when columns and index fit its values. -/
theorem make_eq_ok {columns : List String} {values : NDArray} {index : Option (List Label)} :
    make columns values index = .ok f ↔
      columnsFit columns values = true ∧ checkLabels values.rows index = .ok () ∧
        ⟨columns, values, index⟩ = f := by
  cases hcolumns : columnsFit columns values with
  | false =>
      simp [make, hcolumns, bind, Except.bind, throw, throwThe, MonadExceptOf.throw]
  | true =>
      cases hcheck : checkLabels values.rows index with
      | error e =>
          simp [make, hcolumns, hcheck, bind, Except.bind]
      | ok u =>
          simp [make, hcolumns, hcheck, bind, Except.bind, pure, Except.pure]

/-- Columns fit values without a second thought if there are none. Otherwise the values have two
axes, and the second is as long as there are columns. -/
theorem columnsFit_iff {columns : List String} {values : NDArray} (hv : values.Valid)
    (hn : columns.length < 2 ^ 53) :
    columnsFit columns values = true ↔
      (columns ≠ [] → ∃ r c, values.shape = [r, c] ∧ Number.toNat c = columns.length) := by
  have hlast {c : Float} (hc : c ∈ values.shape) :
      (c == Float.ofNat columns.length) = true ↔ Number.toNat c = columns.length := by
    have hamount := (NDArray.amount_of_isDimension (hv.isDimension c hc)).2
    rw [Number.beq_ofNat_iff hn hamount, WithTop.coe_inj, Nat.cast_inj]
  unfold columnsFit
  -- No columns fit any values; otherwise there must be two axes.
  split
  · exact iff_of_true rfl fun hne => absurd rfl hne
  · rename_i names r c hne hs
    rw [hlast (by simp [hs])]
    constructor
    · intro hc _
      exact ⟨r, c, hs, hc⟩
    · intro h
      obtain ⟨r', c', hs', hc'⟩ := h hne
      cases hs.symm.trans hs'
      exact hc'
  · rename_i names hne hs
    refine iff_of_false Bool.false_ne_true ?_
    intro h
    obtain ⟨r, c, hrc, -⟩ := h hne
    exact hs r c hrc

/-- A table with columns has two axes, and the second is as long as there are columns. -/
theorem Valid.shape (h : f.Valid) (hf : f.Fits) (hne : f.columns ≠ []) :
    ∃ r c, f.values.shape = [r, c] ∧ Number.toNat c = f.columns.length :=
  (columnsFit_iff h.values hf.columns).mp h.columns hne

theorem Valid.exact (h : f.Valid) (hf : f.Fits) : f.Exact where
  values := h.values.exact hf.values
  columns := h.shape hf
  index := by
    intro labels hlabels
    exact (checkLabels_iff h.values.amount_rows hf.index).mp h.index labels hlabels

/-! ## Columns -/

/-- A column is a series as it is built. -/
theorem valid_of_column (hs : f.column name = .ok s) : s.Valid := by
  rw [column] at hs
  split at hs
  · cases hs
  · obtain ⟨values, hvalues, hmake⟩ := ok_of_bind hs
    exact Series.valid_of_make (NDArray.valid_of_ofScalars hvalues) hmake

/-- A table with columns has an element in every row for each of them. -/
theorem Valid.size_eq (h : f.Valid) (hf : f.Fits) (hne : f.columns ≠ []) :
    Number.toNat f.rows * f.columns.length = f.values.size := by
  obtain ⟨r, c, hs, hc⟩ := h.shape hf hne
  have hrows : f.rows = r := by
    simp [rows, NDArray.rows, hs]
  simpa [NDArray.volume, NDArray.dims, hs, hrows, hc] using h.values.volume hf.values

/-- The rows of a table with columns can be counted, since there are no more of them than elements.
-/
theorem Valid.rows_lt (h : f.Valid) (hf : f.Fits) (hne : f.columns ≠ []) :
    Number.toNat f.rows < 2 ^ 53 := by
  have hle : Number.toNat f.rows ≤ f.values.size := by
    simpa only [← h.size_eq hf hne] using Nat.le_mul_of_pos_right _ (List.length_pos_of_ne_nil hne)
  exact lt_of_le_of_lt hle hf.values.size

/-- The place of a row and a column is that of an element. -/
theorem Valid.place_lt (h : f.Valid) (hf : f.Fits) {i j : Nat} (hi : i < Number.toNat f.rows)
    (hj : j < f.columns.length) : i * f.columns.length + j < f.values.size := by
  have hne : f.columns ≠ [] := List.ne_nil_of_length_pos (Nat.zero_lt_of_lt hj)
  rw [← h.size_eq hf hne]
  exact NDArray.place_lt hi hj

/-- The elements of the `j`-th column. -/
def columnElements (f : Frame) (j : Nat) : List Scalar :=
  f.values.picked (f.columnPlaces j)

section Column

variable {j : Nat}

theorem length_columnElements (f : Frame) (j : Nat) :
    (f.columnElements j).length = Number.toNat f.rows := by
  simp [columnElements, NDArray.picked, columnPlaces]

/-- The elements of a column are some of the elements of the table, so they can be stored. -/
theorem element_of_columnElements (h : f.Valid) (hf : f.Fits) (hj : j < f.columns.length) :
    ∀ x ∈ f.columnElements j, f.values.dtype.Element x := by
  refine NDArray.element_of_picked h.values ?_
  intro p hp
  obtain ⟨i, hi, rfl⟩ := List.mem_map.mp hp
  exact h.place_lt hf (List.mem_range.mp hi) hj

/-- The column at a place is the array of its elements, and passes all checks: its shape is its
length, and the labels of the table fit its rows. -/
theorem column_eq (h : f.Valid) (hf : f.Fits) (hname : f.columns.idxOf? name = some j) :
    ∃ values : NDArray, f.column name = .ok ⟨values, some name, f.index⟩ ∧
      NDArray.ofScalars (f.columnElements j) f.values.dtype none = .ok values ∧
      values.dtype = f.values.dtype ∧ values.rank = 1 ∧ values.elements = f.columnElements j ∧
      values.Fits := by
  obtain ⟨hj, -⟩ := List.idxOf?_eq_some_iff.mp hname
  have hne : f.columns ≠ [] := List.ne_nil_of_length_pos (Nat.zero_lt_of_lt hj)
  have hcount := length_columnElements f j
  have hsmall : (f.columnElements j).length < 2 ^ 53 := hcount ▸ h.rows_lt hf hne
  obtain ⟨bs, hbuilt, hload, hlength⟩ := NDArray.exists_ofScalars
    (element_of_columnElements h hf hj) (s := none) (NDArray.checkShape_ofNat hsmall)
  have hsize : NDArray.size ⟨f.values.dtype, [Float.ofNat (f.columnElements j).length], bs⟩ =
      Number.toNat f.rows := by
    rw [NDArray.size, hlength, hcount]
    exact Nat.mul_div_cancel _ f.values.dtype.itemSize_pos
  have hlabels : checkLabels (Float.ofNat (NDArray.size
      ⟨f.values.dtype, [Float.ofNat (f.columnElements j).length], bs⟩)) f.index = .ok () := by
    rw [hsize]
    exact (checkLabels_iff (Number.amount_ofNat (hcount ▸ hsmall)) hf.index).mpr (h.exact hf).index
  -- No column has more octets than the table.
  have hfits : bs.length < 2 ^ 53 := by
    have hle : bs.length ≤ f.values.octets.length := by
      rw [hlength, hcount, h.values.length_octets, ← h.size_eq hf hne]
      exact Nat.mul_le_mul_right _ (Nat.le_mul_of_pos_right _ (Nat.zero_lt_of_lt hj))
    exact lt_of_le_of_lt hle hf.values
  have hpicked : (f.columnPlaces j).map (fun p => f.values.elements.toArray.getD p (.num Number.nan)) =
      f.columnElements j := by
    simp [columnElements, NDArray.picked]
  refine ⟨_, ?_, hbuilt, rfl, rfl, hload, hfits⟩
  simp only [column, hname, hpicked, hbuilt]
  exact Series.make_eq_ok.mpr ⟨rfl, hlabels, rfl⟩

end Column

/-- A column that is there is found. It has an element in every row, and the labels of the rows. -/
theorem exists_column (h : f.Valid) (hf : f.Fits) (hname : name ∈ f.columns) :
    ∃ s, f.column name = .ok s ∧ s.values.elements.length = Number.toNat f.rows ∧
      s.name = some name ∧ s.index = f.index ∧ s.Exact := by
  obtain ⟨j, hj⟩ : ∃ j, f.columns.idxOf? name = some j := by
    simpa [Option.isSome_iff_exists] using List.isSome_idxOf?.mpr hname
  obtain ⟨values, hcolumn, -, -, -, helements, hfits⟩ := column_eq h hf hj
  have hcount : values.elements.length = Number.toNat f.rows := by
    rw [helements, length_columnElements]
  exact ⟨_, hcolumn, hcount, rfl, rfl, (valid_of_column hcolumn).exact ⟨hfits, hf.index⟩⟩

/-- The only reason for not finding a column is that it is not there. -/
theorem error_of_column (h : f.Valid) (hf : f.Fits) {e : ArrayError}
    (he : f.column name = .error e) : name ∉ f.columns ∧ e = .noColumn name := by
  by_cases hname : name ∈ f.columns
  · obtain ⟨s, hs, -⟩ := exists_column h hf hname
    cases hs.symm.trans he
  · have hnone : f.columns.idxOf? name = none := List.idxOf?_eq_none_iff.mpr hname
    simp only [column, hnone, Except.error.injEq] at he
    exact ⟨hname, he.symm⟩

end Frame
end LineRpc
