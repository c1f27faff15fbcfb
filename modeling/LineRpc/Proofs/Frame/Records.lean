import LineRpc.Library.Arguments
import LineRpc.Proofs.Frame
import LineRpc.Proofs.Mapping.Lookup
import LineRpc.Proofs.NDArray.Transpose

/-!
# Records — rows and columns of a table agree

A table can be read row by row, as mappings from column names to elements, or column by column. Both
ways read the cells of its values. If a name stands more than once, a record holds the cell of its
last column, since that is set last, while looking for a column finds the first one. The reserved
key is never set in a record.

* `FirstAt`, `LastAt` : the first and the last column of a name
* `element_cell`      : a row and a column read a cell
* `get?_record`       : a record holds the cell of the last column of a name
* `columnElements_eq` : the cells of a column
* `RecordsAgree`      : rows and columns agree
* `records_agree`     : they do in every table
-/

namespace LineRpc
namespace Frame

/-! ## Positions of a name -/

/-- The `j`-th of some names is the first one that is `name`. -/
def FirstAt (names : List String) (name : String) (j : Nat) : Prop :=
  names[j]? = some name ∧ ∀ k, k < j → names[k]? ≠ some name

/-- The `j`-th of some names is the last one that is `name`. -/
def LastAt (names : List String) (name : String) (j : Nat) : Prop :=
  names[j]? = some name ∧ ∀ k, j < k → names[k]? ≠ some name

variable {names : List String} {name : String} {i j : Nat}

theorem lt_of_at (h : names[j]? = some name) : j < names.length :=
  (List.getElem?_eq_some_iff.mp h).1

/-- The first position of a name is where a search finds it. -/
theorem firstAt_iff : FirstAt names name j ↔ names.idxOf? name = some j := by
  rw [List.idxOf?_eq_some_iff]
  constructor
  · rintro ⟨hj, hbefore⟩
    obtain ⟨hlt, hname⟩ := List.getElem?_eq_some_iff.mp hj
    refine ⟨hlt, hname, ?_⟩
    intro k hk heq
    exact hbefore k hk (List.getElem?_eq_some_iff.mpr ⟨Nat.lt_trans hk hlt, heq⟩)
  · rintro ⟨hlt, hname, hbefore⟩
    refine ⟨List.getElem?_eq_some_iff.mpr ⟨hlt, hname⟩, ?_⟩
    intro k hk heq
    obtain ⟨hlt', hsame⟩ := List.getElem?_eq_some_iff.mp heq
    exact hbefore k hk hsame

/-- A name that is there has a first position. -/
theorem exists_firstAt (h : name ∈ names) : ∃ j, FirstAt names name j := by
  obtain ⟨j, hj⟩ : ∃ j, names.idxOf? name = some j := by
    simpa [Option.isSome_iff_exists] using List.isSome_idxOf?.mpr h
  exact ⟨j, firstAt_iff.mpr hj⟩

/-- A name that is there has a last position. -/
theorem exists_lastAt (h : name ∈ names) : ∃ j, LastAt names name j := by
  induction names with
  | nil =>
      cases h
  | cons first names ih =>
      by_cases hrest : name ∈ names
      · obtain ⟨j, hj, hbehind⟩ := ih hrest
        refine ⟨j + 1, hj, ?_⟩
        intro k hk
        cases k with
        | zero =>
            cases hk
        | succ k =>
            exact hbehind k (Nat.lt_of_succ_lt_succ hk)
      · -- The name stands in front and nowhere else.
        have hfirst : name = first := (List.mem_cons.mp h).resolve_right hrest
        subst hfirst
        refine ⟨0, rfl, ?_⟩
        intro k hk heq
        cases k with
        | zero =>
            cases hk
        | succ k =>
            exact hrest (List.mem_of_getElem? heq)

/-- Where no name stands twice, every position of a name is its first one. -/
theorem firstAt_of_nodup (hnodup : names.Nodup) (hj : names[j]? = some name) :
    FirstAt names name j := by
  refine ⟨hj, ?_⟩
  intro k hk heq
  have hsame : k = j := (List.getElem?_inj (lt_of_at heq) hnodup).mp (heq.trans hj.symm)
  exact absurd hk (hsame ▸ Nat.lt_irrefl j)

/-! ## Cells -/

variable {f : Frame}

/-- The element of a row and a column. -/
def cell (f : Frame) (i j : Nat) : Scalar :=
  f.values.elements.getD (i * f.columns.length + j) (.num Number.nan)

/-- The elements stand row by row. -/
theorem getElem?_cell (h : f.Valid) (hf : f.Fits) (hi : i < Number.toNat f.rows)
    (hj : j < f.columns.length) :
    f.values.elements[i * f.columns.length + j]? = some (f.cell i j) :=
  NDArray.getElem?_elements h.values (h.place_lt hf hi hj)

/-- A row and a column read their cell. -/
theorem element_cell (h : f.Valid) (hf : f.Fits) (hi : i < Number.toNat f.rows)
    (hj : j < f.columns.length) :
    f.values.element [Float.ofNat i, Float.ofNat j] = .ok (f.cell i j) := by
  have hne : f.columns ≠ [] := List.ne_nil_of_length_pos (Nat.zero_lt_of_lt hj)
  obtain ⟨r, c, hs, hc⟩ := h.shape hf hne
  have hr : f.rows = r := by
    simp [rows, NDArray.rows, hs]
  have hrow := Number.integer?_ofNat (Nat.lt_trans hi (h.rows_lt hf hne))
  have hcolumn := Number.integer?_ofNat (Nat.lt_trans hj hf.columns)
  refine (NDArray.element_pair h.values hf.values hs).mpr ⟨i, j, hrow, hcolumn, ?_, ?_, ?_⟩
  · rwa [← hr]
  · rwa [hc]
  · rw [hc]
    exact getElem?_cell h hf hi hj

/-! ## Records -/

/-- The elements of a row. -/
def row (f : Frame) (i : Nat) : List Scalar :=
  (f.values.elements.drop (i * f.columns.length)).take f.columns.length

/-- There is a record for each row. -/
theorem getElem?_records {r : Mapping Scalar} :
    f.records[i]? = some r ↔ i < Number.toNat f.rows ∧ record f.columns (f.row i) = r := by
  rw [records, List.getElem?_map]
  by_cases hi : i < Number.toNat f.rows
  · rw [List.getElem?_range hi, Option.map_some, Option.some_inj]
    exact (and_iff_right hi).symm
  · rw [List.getElem?_eq_none (by simpa using hi)]
    simp [hi]

/-- A row has the cells of all columns. -/
theorem getElem?_row (h : f.Valid) (hf : f.Fits) (hi : i < Number.toNat f.rows)
    (hj : j < f.columns.length) : (f.row i)[j]? = some (f.cell i j) := by
  rw [row, List.getElem?_take_of_lt hj, List.getElem?_drop]
  exact getElem?_cell h hf hi hj

theorem length_row (h : f.Valid) (hf : f.Fits) (hi : i < Number.toNat f.rows) :
    (f.row i).length = f.columns.length := by
  refine le_antisymm (List.length_take_le _ _) ?_
  by_contra hless
  -- The cell behind the last one of a shorter row would be missing.
  have hj := not_le.mp hless
  have hcell := getElem?_row h hf hi hj
  rw [List.getElem?_eq_none le_rfl] at hcell
  cases hcell

/-- The keys of a record are the names of the columns, without the reserved one. -/
theorem mem_keys_record {columns : List String} {xs : List Scalar}
    (hlength : xs.length = columns.length) :
    name ∈ Mapping.keys (record columns xs) ↔ name ∈ columns ∧ name ≠ Mapping.reservedKey := by
  have hnames : (columns.zip xs).map Prod.fst = columns := List.map_fst_zip hlength.ge
  rw [record, Mapping.mem_keys]
  constructor
  · intro hkey
    obtain ⟨e, he, rfl⟩ := List.mem_map.mp hkey
    obtain ⟨hmem, hne⟩ := List.mem_filter.mp he
    refine ⟨?_, of_decide_eq_true hne⟩
    rw [← hnames]
    exact List.mem_map_of_mem hmem
  · rintro ⟨hmem, hne⟩
    rw [← hnames] at hmem
    obtain ⟨e, he, rfl⟩ := List.mem_map.mp hmem
    exact List.mem_map_of_mem (List.mem_filter.mpr ⟨he, decide_eq_true hne⟩)

/-- A record holds what stands in the last column of a name. -/
theorem get?_record {columns : List String} {xs : List Scalar} {x : Scalar}
    (hlast : LastAt columns name j) (hx : xs[j]? = some x) (hne : name ≠ Mapping.reservedKey) :
    Mapping.get? (record columns xs) name = some x := by
  have hentry : (columns.zip xs)[j]? = some (name, x) := by
    rw [List.getElem?_zip_eq_some]
    exact ⟨hlast.1, hx⟩
  obtain ⟨hj, hentry⟩ := List.getElem?_eq_some_iff.mp hentry
  -- The entries are those before the column, its own, and those behind it.
  have hsplit : columns.zip xs =
      (columns.zip xs).take j ++ (name, x) :: (columns.zip xs).drop (j + 1) := by
    rw [← hentry, ← List.drop_eq_getElem_cons hj, List.take_append_drop]
  rw [record, hsplit, List.filter_append, List.filter_cons_of_pos (by exact decide_eq_true hne)]
  refine Mapping.get?_last x ?_
  intro e he heq
  obtain ⟨k, hk⟩ := List.mem_iff_getElem?.mp (List.mem_of_mem_filter he)
  rw [List.getElem?_drop] at hk
  have hname := (List.getElem?_zip_eq_some.mp hk).1
  rw [heq] at hname
  exact hlast.2 (j + 1 + k) (by omega) hname

/-! ## Columns -/

/-- The elements of a column are its cells. -/
theorem columnElements_eq (f : Frame) (j : Nat) :
    f.columnElements j = (List.range (Number.toNat f.rows)).map fun i => f.cell i j := by
  simp only [columnElements, NDArray.picked, columnPlaces, List.map_map]
  rfl

theorem getElem?_columnElements (f : Frame) (hi : i < Number.toNat f.rows) :
    (f.columnElements j)[i]? = some (f.cell i j) := by
  simp [columnElements_eq, hi]

/-! ## Rows and columns -/

/-- Rows and columns of a table agree. -/
structure RecordsAgree (f : Frame) : Prop where
  /-- There is a record for each row. -/
  count : f.records.length = Number.toNat f.rows
  /-- The keys of a record are the names of the columns other than the reserved one, each once. -/
  keys : ∀ r ∈ f.records, (Mapping.keys r).Nodup ∧
    ∀ name, name ∈ Mapping.keys r ↔ name ∈ f.columns ∧ name ≠ Mapping.reservedKey
  /-- A record holds under a name the element of its row and of the last column of the name. -/
  last : ∀ (i : Nat) r, f.records[i]? = some r →
    ∀ name ∈ f.columns, name ≠ Mapping.reservedKey →
      ∃ j x, LastAt f.columns name j ∧
        f.values.element [Float.ofNat i, Float.ofNat j] = .ok x ∧ Mapping.get? r name = some x
  /-- A name finds the series of the elements of its first column, with the labels of the rows. -/
  first : ∀ name ∈ f.columns, ∃ j s, FirstAt f.columns name j ∧ f.column name = .ok s ∧
    s.name = some name ∧ s.index = f.index ∧ s.values.dtype = f.values.dtype ∧
    s.values.rank = 1 ∧ s.values.elements.length = Number.toNat f.rows ∧
    ∀ i, i < Number.toNat f.rows → ∃ x,
      f.values.element [Float.ofNat i, Float.ofNat j] = .ok x ∧ s.values.elements[i]? = some x
  /-- Where no name stands twice, records and columns hold the same elements. -/
  distinct : f.columns.Nodup → ∀ (i : Nat) r, f.records[i]? = some r →
    ∀ name ∈ f.columns, name ≠ Mapping.reservedKey →
      ∃ s x, f.column name = .ok s ∧ s.values.elements[i]? = some x ∧ Mapping.get? r name = some x
  /-- A range error says that there is no column of a name, and nothing else does. -/
  missing : ∀ name, name ∉ f.columns ↔
    ∃ e, f.column name = .error e ∧ (CallError.array e).errorClass = .range
  /-- No other error is raised. -/
  refused : ∀ name e, f.column name = .error e → e = .noColumn name

/-- Rows and columns of a table agree, up to names that stand more than once. -/
theorem records_agree (h : f.Valid) (hf : f.Fits) : f.RecordsAgree where
  count := by
    rw [records, List.length_map, List.length_range]
  keys := by
    intro r hr
    obtain ⟨i, hrecord⟩ := List.mem_iff_getElem?.mp hr
    obtain ⟨hi, rfl⟩ := getElem?_records.mp hrecord
    refine ⟨Mapping.nodup_keys (Mapping.ordered_ofEntries _), ?_⟩
    intro name
    exact mem_keys_record (length_row h hf hi)
  last := by
    intro i r hr name hname hkey
    obtain ⟨hi, rfl⟩ := getElem?_records.mp hr
    obtain ⟨j, hlast⟩ := exists_lastAt hname
    have hj := lt_of_at hlast.1
    -- A record is set from left to right, so the last column of a name stays.
    exact ⟨j, f.cell i j, hlast, element_cell h hf hi hj,
      get?_record hlast (getElem?_row h hf hi hj) hkey⟩
  first := by
    intro name hname
    obtain ⟨j, hfirst⟩ := exists_firstAt hname
    have hj := lt_of_at hfirst.1
    -- A column is looked up from left to right, so the first one of a name is found.
    obtain ⟨values, hcolumn, -, hdtype, hrank, helements, -⟩ :=
      column_eq h hf (firstAt_iff.mp hfirst)
    refine ⟨j, _, hfirst, hcolumn, rfl, rfl, hdtype, hrank, ?_, ?_⟩
    · rw [helements, length_columnElements]
    · intro i hi
      exact ⟨f.cell i j, element_cell h hf hi hj, helements ▸ getElem?_columnElements f hi⟩
  distinct := by
    intro hnodup i r hr name hname hkey
    obtain ⟨hi, rfl⟩ := getElem?_records.mp hr
    obtain ⟨j, hlast⟩ := exists_lastAt hname
    -- The only column of a name is its first one and its last one.
    have hfirst := firstAt_of_nodup hnodup hlast.1
    have hj := lt_of_at hfirst.1
    obtain ⟨values, hcolumn, -, -, -, helements, -⟩ := column_eq h hf (firstAt_iff.mp hfirst)
    exact ⟨_, f.cell i j, hcolumn, helements ▸ getElem?_columnElements f hi,
      get?_record hlast (getElem?_row h hf hi hj) hkey⟩
  missing := by
    intro name
    constructor
    · intro hname
      cases hcolumn : f.column name with
      | error e =>
          obtain ⟨-, rfl⟩ := error_of_column h hf hcolumn
          exact ⟨_, rfl, rfl⟩
      | ok s =>
          exfalso
          have hnone : f.columns.idxOf? name = none := List.idxOf?_eq_none_iff.mpr hname
          simp [column, hnone] at hcolumn
    · rintro ⟨e, he, -⟩
      exact (error_of_column h hf he).1
  refused := by
    intro name e he
    exact (error_of_column h hf he).2

/-- Two rows of four columns. One name stands twice, and one is the reserved key. -/
def twice : Frame :=
  ⟨["a", "b", "a", "__proto__"], ⟨.u8, [2, 4], [1, 2, 3, 4, 5, 6, 7, 8]⟩, none⟩

/-- In the second row the record holds the last element of the name that stands twice, and the
column of this name the first one. The reserved key is in no record. -/
theorem records_agree_twice :
    twice.Valid ∧ twice.Fits ∧ twice.RecordsAgree ∧
      ∃ r s, twice.records[1]? = some r ∧ Mapping.get? r "a" = some (.num 7) ∧
        "__proto__" ∉ Mapping.keys r ∧ twice.column "a" = .ok s ∧
        s.values.elements[1]? = some (.num 5) := by
  have hvalid : twice.Valid := ⟨⟨by decide, by decide +kernel⟩, by decide +kernel, rfl⟩
  have hfits : twice.Fits := by
    refine ⟨by decide, by decide, ?_⟩
    intro labels hlabels
    cases hlabels
  have hagree := records_agree hvalid hfits
  have hrecord : twice.records[1]? = some [("a", .num 7), ("b", .num 6)] := by decide +kernel
  have hcolumn : twice.column "a" = .ok ⟨⟨.u8, [2], [1, 5]⟩, some "a", none⟩ := by decide +kernel
  refine ⟨hvalid, hfits, hagree, _, _, hrecord, rfl, ?_, hcolumn, by decide +kernel⟩
  intro hkey
  -- The keys of a record are never the reserved one.
  have hkeys := (hagree.keys _ (List.mem_of_getElem? hrecord)).2 "__proto__"
  exact (hkeys.mp hkey).2 rfl

end Frame
end LineRpc
