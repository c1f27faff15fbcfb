import LineRpc.Library.Tables
import LineRpc.Proofs.Frame
import LineRpc.Proofs.Mapping
import LineRpc.Proofs.NDArray.Nested

/-!
# Columns — a table from lists of numbers

A table is made of columns of one length, which are laid out row by row. There are as many elements
as rows times columns, so once the columns are read the shape fits the elements and the columns fit
the shape; only an element that cannot be stored is left as a fault of the array.

* `Tables.ofNumbers`             : the table of columns that were read
* `Tables.fromColumns_eq`        : reading the columns, then making the table
* `Tables.ColumnsCounted`        : columns and their elements can be counted
* `Tables.isMisfit_of_fromColumns`: no check of an array or a table fails
-/

namespace LineRpc
namespace Tables

variable {args : List Value} {names : List String} {data : List (List Float)} {d : Dtype}
  {e : ArrayError}

/-- The number of rows that columns of one length have. -/
def rowCount (data : List (List Float)) : Nat :=
  (data.headD []).length

/-- The table of columns that were read, with as many rows as the first of them is long. -/
def ofNumbers (names : List String) (data : List (List Float)) (d : Dtype) :
    Except ArrayError Frame := do
  let values ← NDArray.ofScalars ((interleave (rowCount data) data).map .num) d
    (some [Float.ofNat (rowCount data), Float.ofNat names.length])
  Frame.make names values none

/-- The numbers of all columns that a value shows. -/
def readColumns (source : Value) : Except CallError (List (List Float)) :=
  (shownColumns source).mapM fun (name, v) => columnNumbers name v

theorem ofArray_ofNumbers (names : List String) (data : List (List Float)) (d : Dtype) :
    (do
      let values ← Args.ofArray (NDArray.ofScalars ((interleave (rowCount data) data).map .num) d
        (some [Float.ofNat (rowCount data), Float.ofNat names.length]))
      let f ← Args.ofArray (Frame.make names values none)
      pure (Value.frame f)) = (Args.ofArray (ofNumbers names data d)).map .frame := by
  rw [ofNumbers]
  cases NDArray.ofScalars ((interleave (rowCount data) data).map .num) d
      (some [Float.ofNat (rowCount data), Float.ofNat names.length]) with
  | error e =>
      rfl
  | ok values =>
      cases Frame.make names values none <;> rfl

/-- The columns are read first, and then the table is made of them. -/
theorem fromColumns_eq (args : List Value) :
    fromColumns args =
      (Args.arity "from_columns" args 1 2).bind fun _ =>
      if Args.isMapping (Args.nth args 0) then
        (readColumns (Args.nth args 0)).bind fun data =>
        if data.any fun column => column.length ≠ rowCount data then .error .raggedColumns
        else
          (Args.dtype "from_columns" (Args.nth args 1) .f64).bind fun d =>
          (Args.ofArray (ofNumbers ((Args.nth args 0).entries.map Prod.fst) data d)).map .frame
      else .error (.notMapping "from_columns" (Args.nth args 0).kind) := by
  simp only [← ofArray_ofNumbers, List.length_map, readColumns, rowCount]
  cases hm : Args.isMapping (Args.nth args 0) with
  | false =>
      simp [fromColumns, hm, bind, Except.bind, throw, throwThe, MonadExceptOf.throw]
  | true =>
      simp [fromColumns, hm, bind, Except.bind, throw, throwThe, MonadExceptOf.throw]

/-- A table made of columns is valid. -/
theorem valid_of_ofNumbers {f : Frame} (h : ofNumbers names data d = .ok f) : f.Valid := by
  obtain ⟨values, hvalues, hf⟩ := ok_of_bind h
  exact (Frame.valid_of_make (NDArray.valid_of_ofScalars hvalues) hf).1

/-! ## Shapes -/

/-- There is a cell for each row and column. -/
theorem length_interleave (rows : Nat) (data : List (List Float)) :
    (interleave rows data).length = rows * data.length := by
  simp [interleave, List.length_flatMap]

/-- There are no more rows than elements, and none without a column. -/
theorem rowCount_lt (hsize : rowCount data * data.length < 2 ^ 53) : rowCount data < 2 ^ 53 := by
  cases data with
  | nil =>
      decide
  | cons column data =>
      exact lt_of_le_of_lt (Nat.le_mul_of_pos_right _ (by simp)) hsize

/-- The shape of a table is accepted for its elements. -/
theorem checkShape_interleave (hcols : data.length < 2 ^ 53)
    (hsize : rowCount data * data.length < 2 ^ 53) :
    NDArray.checkShape [Float.ofNat (rowCount data), Float.ofNat data.length]
      (interleave (rowCount data) data).length = .ok () := by
  have hrows := rowCount_lt hsize
  have hdims : ∀ d ∈ [rowCount data, data.length], d < 2 ^ 53 := by
    intro d hd
    rcases List.mem_pair.mp hd with rfl | rfl
    · exact hrows
    · exact hcols
  have hbelow : ∀ k, NDArray.volume ([rowCount data, data.length].take k) < 2 ^ 53 := by
    intro k
    match k with
    | 0 => simp [NDArray.volume]
    | 1 => simpa [NDArray.volume] using hrows
    | k + 2 => simpa [NDArray.volume] using hsize
  simpa [NDArray.volume, length_interleave] using NDArray.checkShape_map_ofNat hdims hbelow

/-- Columns fit a shape whose second dimension counts them. -/
theorem columnsFit_of_shape {values : NDArray} {r : Float} (hn : names.length < 2 ^ 53)
    (hs : values.shape = [r, Float.ofNat names.length]) :
    Frame.columnsFit names values = true := by
  have hself := Number.beq_self_of_isFinite (Number.isFinite_ofNat hn)
  cases names with
  | nil =>
      rfl
  | cons name names =>
      simpa [Frame.columnsFit, hs] using hself

/-- The shape of a table fits its elements, and its columns fit the shape. -/
theorem isMisfit_of_ofNumbers (hnames : names.length = data.length) (hcols : data.length < 2 ^ 53)
    (hsize : rowCount data * data.length < 2 ^ 53) (h : ofNumbers names data d = .error e) :
    e.isMisfit = false := by
  rcases error_of_bind h with hscalars | ⟨values, hvalues, hmake⟩
  · refine NDArray.isMisfit_of_ofScalars ?_ hscalars
    simpa [hnames] using checkShape_interleave hcols hsize
  · -- The columns are as many as the second dimension says.
    have hfit : Frame.columnsFit names values = true :=
      columnsFit_of_shape (hnames ▸ hcols) (NDArray.shape_of_ofScalars hvalues)
    have hmade : Frame.make names values none = .ok ⟨names, values, none⟩ := by
      simp [Frame.make, hfit, checkLabels, bind, Except.bind, pure, Except.pure]
    cases hmade.symm.trans hmake

/-! ## Columns that are read -/

/-- The columns that a value shows can be counted, and so can their elements. -/
structure ColumnsCounted (source : Value) : Prop where
  columns : source.entries.length < 2 ^ 53
  elements : ∀ e ∈ source.entries, ∀ items, e.2 = .list items →
    items.length * source.entries.length < 2 ^ 53

/-- A column of numbers has as many as the list it came from. -/
theorem length_columnNumbers {name : String} {v : Value} {xs : List Float}
    (h : columnNumbers name (.ok v) = .ok xs) :
    ∃ items, v = .list items ∧ xs.length = items.length := by
  cases v with
  | list items =>
      exact ⟨items, rfl, length_of_mapM h⟩
  | _ =>
      cases h

/-- Columns that can all be read are those of the entries. -/
theorem forall₂_of_readColumns {source : Value} (h : readColumns source = .ok data) :
    List.Forall₂ (fun e column => columnNumbers e.1 (.ok e.2) = .ok column) source.entries
      data := by
  rw [readColumns, shownColumns] at h
  cases hkey : source.unreadable? with
  | none =>
      simpa [hkey, List.forall₂_map_left_iff] using mapM_eq_ok.mp h
  | some shown =>
      -- The key that cannot be read is among those that are shown.
      simp only [hkey] at h
      have hmem := Mapping.mem_place_self (Mapping.index? shown.1) shown.1 (Except.error shown.2)
        (source.entries.map fun e => (e.1, Except.ok e.2))
      obtain ⟨column, hcolumn⟩ := exists_mapM.mp ⟨data, h⟩ _ hmem
      cases hcolumn

/-- If columns and elements can be counted, then so can those that were read. -/
theorem counted_of_readColumns {source : Value} (hs : ColumnsCounted source)
    (h : readColumns source = .ok data) :
    data.length = source.entries.length ∧ rowCount data * data.length < 2 ^ 53 := by
  have hall := forall₂_of_readColumns h
  have hlength := hall.length_eq
  refine ⟨hlength.symm, ?_⟩
  rw [← hlength]
  have helements := hs.elements
  generalize source.entries = entries at hall helements
  cases hall with
  | nil =>
      decide
  | cons hcolumn hrest =>
      obtain ⟨items, hitems, hcount⟩ := length_columnNumbers hcolumn
      simpa [rowCount, hcount] using helements _ List.mem_cons_self items hitems

/-! ## Faults of arguments -/

theorem number_ne_array {function : String} {v : Value} :
    Args.number function v ≠ .error (.array e) := by
  intro h
  cases v with
  | bool b =>
      cases b <;> cases h
  | _ =>
      cases h

theorem columnNumbers_ne_array {name : String} {v : Except Fault Value} :
    columnNumbers name v ≠ .error (.array e) := by
  intro h
  match v, h with
  | .error failure, h =>
      cases h
  | .ok v, h =>
      cases v with
      | list items =>
          obtain ⟨x, -, hx⟩ := exists_of_mapM_error h
          exact number_ne_array hx
      | _ =>
          cases h

theorem dtype_ne_array {function : String} {v : Value} {fallback : Dtype} :
    Args.dtype function v fallback ≠ .error (.array e) := by
  intro h
  simp only [Args.dtype] at h
  repeat' split at h
  all_goals cases h

/-- An error about an array comes from the array. -/
theorem error_of_ofArray {α : Type} {r : Except ArrayError α}
    (h : Args.ofArray r = .error (.array e)) : r = .error e := by
  cases r with
  | error e' =>
      cases h
      rfl
  | ok a =>
      cases h

/-- Making a table of columns that can be counted fails no check of an array or a table. -/
theorem isMisfit_of_fromColumns (hs : ColumnsCounted (Args.nth args 0))
    (h : fromColumns args = .error (.array e)) : e.isMisfit = false := by
  rw [fromColumns_eq] at h
  -- Every check before the last step has an error of its own, none of them about arrays.
  rcases error_of_bind h with harity | ⟨-, -, h⟩
  · rw [Args.arity] at harity
    split at harity <;> cases harity
  split at h
  · rcases error_of_bind h with hread | ⟨data, hread, h⟩
    · obtain ⟨column, -, hcolumn⟩ := exists_of_mapM_error hread
      exact absurd hcolumn columnNumbers_ne_array
    split at h
    · cases h
    rcases error_of_bind h with hdtype | ⟨d, -, h⟩
    · exact absurd hdtype dtype_ne_array
    · have hmade := map_eq_error.mp h
      obtain ⟨hlength, hsize⟩ := counted_of_readColumns hs hread
      refine isMisfit_of_ofNumbers ?_ ?_ hsize (error_of_ofArray hmade)
      · simpa using hlength.symm
      · simpa only [hlength] using hs.columns
  · cases h

end Tables
end LineRpc
