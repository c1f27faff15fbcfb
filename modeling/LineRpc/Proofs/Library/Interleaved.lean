import LineRpc.Proofs.Frame.Records
import LineRpc.Proofs.Library.Columns

/-!
# Interleaved — columns that are laid out by rows and picked out again

A table is made of columns, which are laid out row by row: element `i` of column `j` goes to place
`i * width + j`. Looking for a column picks the places `j`, `width + j`, `2 * width + j` and so on,
and stores what it reads there. That is what the column alone would be stored as, octet by octet,
for every number of rows and columns and in every kind.

* `Counts`, `Lists`        : columns of numbers and truth values
* `getElem?_interleave`    : where an element of a column goes
* `ofScalars_column`       : a column that is picked is a column that is stored
* `column_interleaved`     : the column of a name, and its elements
* `fromColumns_readsBack`  : a table of columns, and its columns again
-/

namespace LineRpc

/-! ## Stored elements -/

namespace NDArray

variable {a : NDArray} {d : Dtype} {xs ys : List Scalar} {shape : Option (List Float)}

/-- The elements of an array are stored as those that it was made of. -/
theorem elements_of_ofScalars (h : ofScalars xs d shape = .ok a) :
    a.dtype = d ∧ List.Forall₂ (fun x y => d.store y = d.store x) xs a.elements := by
  obtain ⟨bs, hbs, ha⟩ := ok_of_bind h
  obtain ⟨-, rfl⟩ := ofOctets_eq_ok.mp ha
  exact ⟨rfl, Dtype.forall₂_loadAll hbs⟩

/-- Elements that are stored alike make the same array. -/
theorem ofScalars_congr (h : List.Forall₂ (fun x y => d.store y = d.store x) xs ys) :
    ofScalars ys d shape = ofScalars xs d shape := by
  rw [ofScalars, ofScalars, Dtype.storeAll_congr h, h.length_eq]

/-- Elements that are read and stored again make the same array. -/
theorem ofScalars_elements (h : ofScalars xs d shape = .ok a) :
    ofScalars a.elements d shape = .ok a := by
  rw [ofScalars_congr (elements_of_ofScalars h).2]
  exact h

end NDArray

namespace Tables

variable {entries : Mapping Value} {data : List (List Float)} {d : Dtype} {names : List String}
  {f : Frame} {n i j : Nat}

/-! ## Columns of numbers and truth values -/

/-- The number that a value counts as: itself, or one or zero for a truth value. -/
inductive Counts : Value → Float → Prop
  | number (x : Float) : Counts (.num x) x
  | true : Counts (.bool true) 1
  | false : Counts (.bool false) 0

/-- The values of some entries are lists of numbers and truth values, and these are their numbers.
-/
def Lists (entries : Mapping Value) (data : List (List Float)) : Prop :=
  List.Forall₂ (fun e xs => ∃ items, e.2 = .list items ∧ List.Forall₂ Counts items xs) entries data

theorem number_of_counts {function : String} {v : Value} {x : Float} (h : Counts v x) :
    Args.number function v = .ok x := by
  cases h <;> rfl

/-- The numbers of the lists are read. -/
theorem readColumns_lists (h : Lists entries data) : readColumns (.mapping entries) = .ok data := by
  refine mapM_eq_ok.mpr ?_
  change List.Forall₂ _ (entries.map fun e => (e.1, Except.ok e.2)) data
  rw [List.forall₂_map_left_iff]
  refine List.Forall₂.imp ?_ h
  rintro ⟨name, v⟩ xs ⟨items, rfl, hitems⟩
  refine mapM_eq_ok.mpr (List.Forall₂.imp ?_ hitems)
  intro v x hx
  exact number_of_counts hx

/-! ## Lengths -/

/-- All columns are `n` long. -/
def SameLength (data : List (List Float)) (n : Nat) : Prop :=
  ∀ xs ∈ data, xs.length = n

/-- Columns of one length have that many rows. -/
theorem rowCount_of_sameLength (h : SameLength data n) :
    rowCount data = if data = [] then 0 else n := by
  cases data with
  | nil =>
      rfl
  | cons xs data =>
      exact h xs List.mem_cons_self

theorem sameLength_rowCount (h : SameLength data n) : SameLength data (rowCount data) := by
  intro xs hxs
  have hne : data ≠ [] := List.ne_nil_of_mem hxs
  rw [rowCount_of_sameLength h, if_neg hne]
  exact h xs hxs

/-- The check of the lengths finds columns that are not equally long. -/
theorem ragged_iff :
    (data.any fun xs => xs.length ≠ rowCount data) = true ↔ ¬ ∃ n, SameLength data n := by
  have hsame : (∃ n, SameLength data n) ↔ SameLength data (rowCount data) :=
    ⟨fun ⟨n, h⟩ => sameLength_rowCount h, fun h => ⟨_, h⟩⟩
  rw [hsame, SameLength]
  simp

/-! ## Places -/

/-- An element of a column goes to the place of its row and column. -/
theorem getElem?_interleave (h : SameLength data n) {xs : List Float} (hxs : data[j]? = some xs)
    (hi : i < n) : (interleave n data)[i * data.length + j]? = xs[i]? := by
  obtain ⟨hj, hcolumn⟩ := List.getElem?_eq_some_iff.mp hxs
  have hlength : i < xs.length := by
    rw [h xs (List.mem_of_getElem? hxs)]
    exact hi
  rw [interleave, NDArray.getElem?_blocks (fun k _ => by simp) hi hj]
  simp [hxs, hlength]

/-! ## The table -/

/-- Columns are fewer than numbers can count, and so are the octets of the table that they make if
they are of one length. Memory never holds more. -/
structure Room (data : List (List Float)) (d : Dtype) : Prop where
  columns : data.length < 2 ^ 53
  octets : ∀ n, SameLength data n → n * data.length * d.itemSize < 2 ^ 53

/-- All numbers can be stored. -/
def Storable (data : List (List Float)) (d : Dtype) : Prop :=
  ∀ xs ∈ data, ∀ x ∈ xs, ∃ g, d.store (.num x) = .ok g

section Room

variable (hroom : Room data d) (h : SameLength data n)
include hroom h

/-- The octets of the table can be counted. -/
theorem Room.total : rowCount data * data.length * d.itemSize < 2 ^ 53 :=
  hroom.octets _ (sameLength_rowCount h)

theorem Room.elements : rowCount data * data.length < 2 ^ 53 :=
  lt_of_le_of_lt (Nat.le_mul_of_pos_right _ d.itemSize_pos) (hroom.total h)

theorem Room.rows : rowCount data < 2 ^ 53 :=
  rowCount_lt (hroom.elements h)

end Room

/-- Whatever is laid out is an element of a column. -/
theorem exists_column_of_mem (h : SameLength data n) {x : Float} (hx : x ∈ interleave n data) :
    ∃ xs ∈ data, x ∈ xs := by
  obtain ⟨i, hi, hx⟩ := List.mem_flatMap.mp hx
  obtain ⟨xs, hxs, rfl⟩ := List.mem_map.mp hx
  have hlength : i < xs.length := by
    rw [h xs hxs]
    exact List.mem_range.mp hi
  refine ⟨xs, hxs, ?_⟩
  rw [List.getD_eq_getElem _ _ hlength]
  exact List.getElem_mem hlength

/-- Columns of one length that can be stored make an array of rows and columns. -/
theorem exists_values (h : SameLength data n) (hstore : Storable data d) (hroom : Room data d) :
    ∃ a, NDArray.ofScalars ((interleave (rowCount data) data).map .num) d
      (some [Float.ofNat (rowCount data), Float.ofNat data.length]) = .ok a ∧ a.Fits := by
  have heach : ∀ x ∈ (interleave (rowCount data) data).map Scalar.num, ∃ g, d.store x = .ok g := by
    intro s hs
    obtain ⟨x, hx, rfl⟩ := List.mem_map.mp hs
    obtain ⟨xs, hxs, hmem⟩ := exists_column_of_mem (sameLength_rowCount h) hx
    exact hstore xs hxs x hmem
  obtain ⟨groups, hgroups⟩ := exists_mapM.mpr heach
  have hstored : d.storeAll ((interleave (rowCount data) data).map .num) = .ok groups.flatten := by
    rw [Dtype.storeAll, hgroups]
    rfl
  have hlength := Dtype.length_storeAll hstored
  rw [List.length_map, length_interleave] at hlength
  -- As many numbers were stored as the shape asks for.
  have hshape := checkShape_interleave hroom.columns (hroom.elements h)
  rw [length_interleave] at hshape
  refine ⟨⟨d, [Float.ofNat (rowCount data), Float.ofNat data.length], groups.flatten⟩, ?_, ?_⟩
  · rw [NDArray.ofScalars, hstored]
    exact NDArray.exists_ofOctets hlength hshape
  · rw [NDArray.Fits, hlength]
    exact hroom.total h

/-- The table that columns of one length make. -/
theorem exists_ofNumbers (hnames : names.length = data.length) (h : SameLength data n)
    (hstore : Storable data d) (hroom : Room data d) :
    ∃ a, NDArray.ofScalars ((interleave (rowCount data) data).map .num) d
        (some [Float.ofNat (rowCount data), Float.ofNat data.length]) = .ok a ∧
      ofNumbers names data d = .ok ⟨names, a, none⟩ ∧ Frame.Fits ⟨names, a, none⟩ := by
  obtain ⟨a, ha, hfits⟩ := exists_values h hstore hroom
  have hcolumns : names.length < 2 ^ 53 := hnames ▸ hroom.columns
  have hshape : a.shape = [Float.ofNat (rowCount data), Float.ofNat names.length] := by
    rw [NDArray.shape_of_ofScalars ha, hnames]
    rfl
  have hfit : Frame.columnsFit names a = true := columnsFit_of_shape hcolumns hshape
  have hmake : Frame.make names a none = .ok ⟨names, a, none⟩ :=
    Frame.make_eq_ok.mpr ⟨hfit, rfl, rfl⟩
  refine ⟨a, ha, ?_, hfits, hcolumns, ?_⟩
  · rw [ofNumbers, hnames, ha]
    exact hmake
  · intro labels hlabels
    cases hlabels

/-! ## Columns of the table -/

section Column

variable {a : NDArray} (hnames : names.length = data.length) (h : SameLength data n)
  (ha : NDArray.ofScalars ((interleave (rowCount data) data).map .num) d
    (some [Float.ofNat (rowCount data), Float.ofNat data.length]) = .ok a)
  (hvalid : Frame.Valid ⟨names, a, none⟩) (hfits : Frame.Fits ⟨names, a, none⟩)
include ha

theorem rows_of_values : Frame.rows ⟨names, a, none⟩ = Float.ofNat (rowCount data) := by
  have hshape := NDArray.shape_of_ofScalars ha
  rw [Frame.rows, NDArray.rows, hshape]
  rfl

include h

/-- There are as many rows as a column is long. -/
theorem rows_eq_length (hroom : Room data d) {xs : List Float} (hxs : data[j]? = some xs) :
    Number.toNat (Frame.rows ⟨names, a, none⟩) = xs.length := by
  have hlength : xs.length = rowCount data := sameLength_rowCount h xs (List.mem_of_getElem? hxs)
  rw [rows_of_values ha, Number.toNat_ofNat (hroom.rows h), hlength]

include hnames

/-- The cell of a row and a column is stored as the element that went there. -/
theorem store_cell {xs : List Float} (hxs : data[j]? = some xs) (hi : i < xs.length) {y : Scalar}
    (hy : a.elements[i * names.length + j]? = some y) : d.store y = d.store (.num xs[i]) := by
  have hrow : i < rowCount data := by
    rwa [← sameLength_rowCount h xs (List.mem_of_getElem? hxs)]
  have hplace : ((interleave (rowCount data) data).map Scalar.num)[i * names.length + j]? =
      some (.num xs[i]) := by
    rw [List.getElem?_map, hnames, getElem?_interleave (sameLength_rowCount h) hxs hrow,
      List.getElem?_eq_getElem hi, Option.map_some]
  obtain ⟨hlt, hx⟩ := List.getElem?_eq_some_iff.mp hplace
  obtain ⟨hlt', hy⟩ := List.getElem?_eq_some_iff.mp hy
  have hstore := (NDArray.elements_of_ofScalars ha).2.get hlt hlt'
  simp only [List.get_eq_getElem] at hstore
  rwa [hx, hy] at hstore

include hvalid hfits

/-- A column that is picked out of the rows is the one that was laid out, stored by itself. -/
theorem ofScalars_column (hroom : Room data d) {xs : List Float} (hxs : data[j]? = some xs) :
    NDArray.ofScalars (Frame.columnElements ⟨names, a, none⟩ j) d none =
      NDArray.ofScalars (xs.map .num) d none := by
  have hj : j < names.length := by
    rw [hnames]
    exact (List.getElem?_eq_some_iff.mp hxs).1
  have hrows : Number.toNat (Frame.rows ⟨names, a, none⟩) = xs.length :=
    rows_eq_length h ha hroom hxs
  -- What was stored in a cell and read again is stored as before.
  refine NDArray.ofScalars_congr (List.forall₂_iff_get.mpr ⟨?_, ?_⟩)
  · rw [Frame.length_columnElements, hrows, List.length_map]
  · intro i hi hi'
    have hi : i < xs.length := by simpa using hi
    have hcell := Frame.getElem?_cell hvalid hfits (i := i) (j := j) (hrows ▸ hi) hj
    have hpicked := Frame.getElem?_columnElements (j := j) ⟨names, a, none⟩ (i := i) (hrows ▸ hi)
    rw [List.get_eq_getElem, List.get_eq_getElem, List.getElem_map,
      (List.getElem?_eq_some_iff.mp hpicked).2]
    exact store_cell hnames h ha hxs hi hcell

/-- A column is found by its name if no name stands twice. It is what its list alone is stored as,
and its elements are those of its cells. -/
theorem column_interleaved (hroom : Room data d) (hnodup : names.Nodup) {name : String}
    {xs : List Float} (hname : names[j]? = some name) (hxs : data[j]? = some xs) :
    ∃ b, NDArray.ofScalars (xs.map .num) d none = .ok b ∧
      Frame.column ⟨names, a, none⟩ name = .ok ⟨b, some name, none⟩ ∧
      ∀ i, i < xs.length → ∃ x, b.elements[i]? = some x ∧
        a.element [Float.ofNat i, Float.ofNat j] = .ok x := by
  have hj := Frame.lt_of_at hname
  have hfirst := Frame.firstAt_of_nodup hnodup hname
  -- A name that stands once finds its own column.
  obtain ⟨b, hcolumn, hmade, -, -, helements, -⟩ :=
    Frame.column_eq hvalid hfits (Frame.firstAt_iff.mp hfirst)
  have hdtype : a.dtype = d := (NDArray.elements_of_ofScalars ha).1
  refine ⟨b, ?_, hcolumn, ?_⟩
  · rw [← ofScalars_column hnames h ha hvalid hfits hroom hxs, ← hdtype]
    exact hmade
  · intro i hi
    have hrows : Number.toNat (Frame.rows ⟨names, a, none⟩) = xs.length :=
      rows_eq_length h ha hroom hxs
    rw [← hrows] at hi
    refine ⟨_, ?_, Frame.element_cell hvalid hfits hi hj⟩
    rw [helements]
    exact Frame.getElem?_columnElements _ hi

end Column

/-! ## Reading back -/

/-- What making a table of lists and reading it again comes to. -/
structure ReadsBack (entries : Mapping Value) (data : List (List Float)) (d : Dtype) : Prop where
  /-- A table is made exactly if all lists are equally long. -/
  succeeds : (∃ v, fromColumns [.mapping entries, .str d.tag] = .ok v) ↔ ∃ n, SameLength data n
  /-- Otherwise a range error says so. -/
  refused : (¬ ∃ n, SameLength data n) → ∃ e, fromColumns [.mapping entries, .str d.tag] = .error e ∧
    e.errorClass = .range ∧ e.message = "All arrays must be of the same length"
  /-- The table has the keys as columns, in their order, and as many rows as the lists are long.
  Each of its columns is the array that is made of the list alone, and its elements are those of the
  table at the row and the column. -/
  table : ∀ n, SameLength data n → ∃ f, fromColumns [.mapping entries, .str d.tag] = .ok (.frame f) ∧
    f.Valid ∧ f.columns = Mapping.keys entries ∧ f.index = none ∧ f.values.dtype = d ∧
    Number.integer? f.rows = some ((if entries = [] then 0 else n : Nat) : Int) ∧
    ∀ (j : Nat) name v xs, entries[j]? = some (name, v) → data[j]? = some xs →
      ∃ a, NDArray.ofScalars (xs.map .num) d none = .ok a ∧
        column [.frame f, .str name] = .ok (.series ⟨a, some name, none⟩) ∧
        (∀ i, i < n → ∃ x, a.elements[i]? = some x ∧
          f.values.element [Float.ofNat i, Float.ofNat j] = .ok x) ∧
        NDArray.ofScalars a.elements d none = .ok a

theorem dtype_tag (function : String) (d fallback : Dtype) :
    Args.dtype function (.str d.tag) fallback = .ok d := by
  cases d <;> rfl

/-- The lists are read and checked, and then the table is made of them. -/
theorem fromColumns_lists (hlists : Lists entries data) :
    fromColumns [.mapping entries, .str d.tag] =
      if data.any fun xs => xs.length ≠ rowCount data then .error .raggedColumns
      else (Args.ofArray (ofNumbers (Mapping.keys entries) data d)).map .frame := by
  have harity : Args.arity "from_columns" [.mapping entries, .str d.tag] 1 2 = .ok () := rfl
  have hmapping : Args.isMapping (.mapping entries) = true := rfl
  have hread := readColumns_lists hlists
  have hdtype := dtype_tag "from_columns" d .f64
  have hsource : Args.nth [.mapping entries, .str d.tag] 0 = .mapping entries := rfl
  have htag : Args.nth [.mapping entries, .str d.tag] 1 = .str d.tag := rfl
  rw [fromColumns_eq, harity, hsource, htag, hread, hdtype, if_pos hmapping]
  rfl

/-- A column that the table has is the answer. -/
theorem column_frame {name : String} {s : Series} (h : f.column name = .ok s) :
    column [.frame f, .str name] = .ok (.series s) := by
  change (Args.ofArray (f.column name) >>= fun s => pure (Value.series s)) = _
  rw [h]
  rfl

/-- Making a table of lists and reading it again loses nothing. -/
theorem fromColumns_readsBack (hkeys : Mapping.Ordered entries) (hlists : Lists entries data)
    (hstore : Storable data d) (hroom : Room data d) : ReadsBack entries data d := by
  have hmade := fromColumns_lists (d := d) hlists
  have hlength : entries.length = data.length := hlists.length_eq
  have hnames : (Mapping.keys entries).length = data.length := by
    rw [Mapping.keys, List.length_map, hlength]
  -- Lists of one length pass the check, and nothing else can fail then.
  have htable {n : Nat} (h : SameLength data n) {f : Frame}
      (hf : ofNumbers (Mapping.keys entries) data d = .ok f) :
      fromColumns [.mapping entries, .str d.tag] = .ok (.frame f) := by
    rw [hmade, if_neg (fun hragged => ragged_iff.mp hragged ⟨n, h⟩), hf]
    rfl
  have hragged (h : ¬ ∃ n, SameLength data n) :
      fromColumns [.mapping entries, .str d.tag] = .error .raggedColumns := by
    rw [hmade, if_pos (ragged_iff.mpr h)]
  refine ⟨⟨?_, ?_⟩, ?_, ?_⟩
  · rintro ⟨v, hv⟩
    by_contra h
    cases (hragged h).symm.trans hv
  · rintro ⟨n, h⟩
    obtain ⟨a, -, hf, -⟩ := exists_ofNumbers hnames h hstore hroom
    exact ⟨_, htable h hf⟩
  · intro h
    exact ⟨_, hragged h, rfl, rfl⟩
  · intro n h
    obtain ⟨a, ha, hf, hfits⟩ := exists_ofNumbers hnames h hstore hroom
    have hvalid := valid_of_ofNumbers hf
    have hrows : Frame.rows ⟨Mapping.keys entries, a, none⟩ = Float.ofNat (rowCount data) :=
      rows_of_values ha
    have hcount : rowCount data = if entries = [] then 0 else n := by
      have hnil : data = [] ↔ entries = [] := by
        rw [← List.length_eq_zero_iff, ← List.length_eq_zero_iff, hlength]
      rw [rowCount_of_sameLength h]
      simp only [hnil]
    refine ⟨_, htable h hf, hvalid, rfl, rfl, (NDArray.elements_of_ofScalars ha).1, ?_, ?_⟩
    · rw [hrows, Number.integer?_ofNat (hroom.rows h), hcount]
    · intro j name v xs hentry hxs
      have hname : (Mapping.keys entries)[j]? = some name := by
        rw [Mapping.keys, List.getElem?_map, hentry]
        rfl
      obtain ⟨b, hb, hcolumn, hcells⟩ := column_interleaved hnames h ha hvalid hfits hroom
        (Mapping.nodup_keys hkeys) hname hxs
      rw [h xs (List.mem_of_getElem? hxs)] at hcells
      exact ⟨b, hb, column_frame hcolumn, hcells, NDArray.ofScalars_elements hb⟩

/-- Two lists of two items. One key is an index, one item is a truth value, and two numbers are out
of the range of an octet. -/
def mixed : Mapping Value :=
  [("1", .list [.num 3, .bool true]), ("b", .list [.num 300, .num (-1)])]

/-- The second column has the octets of its list, and the index key stands first. -/
theorem fromColumns_readsBack_mixed :
    Mapping.Ordered mixed ∧ Lists mixed [[3, 1], [300, -1]] ∧
      Storable [[3, 1], [300, -1]] .u8 ∧ Room [[3, 1], [300, -1]] .u8 ∧
      ReadsBack mixed [[3, 1], [300, -1]] .u8 ∧
      ∃ f, fromColumns [.mapping mixed, .str "u8"] = .ok (.frame f) ∧ f.columns = ["1", "b"] ∧
        column [.frame f, .str "b"] = .ok (.series ⟨⟨.u8, [2], [44, 255]⟩, some "b", none⟩) ∧
        NDArray.ofScalars (NDArray.elements ⟨.u8, [2], [44, 255]⟩) .u8 none =
          .ok ⟨.u8, [2], [44, 255]⟩ := by
  have hkeys : Mapping.Ordered mixed := Mapping.ordered_of_keys ["1", "b"] (by decide) rfl
  have hlists : Lists mixed [[3, 1], [300, -1]] :=
    .cons ⟨_, rfl, .cons (.number 3) (.cons .true .nil)⟩
      (.cons ⟨_, rfl, .cons (.number 300) (.cons (.number (-1)) .nil)⟩ .nil)
  have hstore : Storable [[3, 1], [300, -1]] .u8 := fun _ _ _ _ => ⟨_, rfl⟩
  have hroom : Room [[3, 1], [300, -1]] .u8 := by
    refine ⟨by decide, ?_⟩
    intro n hn
    obtain rfl : 2 = n := hn [3, 1] List.mem_cons_self
    decide
  have hback := fromColumns_readsBack hkeys hlists hstore hroom
  have hsame : SameLength [[3, 1], [300, -1]] 2 := by
    intro xs hxs
    rcases List.mem_pair.mp hxs with rfl | rfl <;> rfl
  obtain ⟨f, hf, -, hcolumns, -, -, -, hread⟩ := hback.table 2 hsame
  obtain ⟨a, ha, hcolumn, -, hagain⟩ := hread 1 "b" _ _ rfl rfl
  have hknown : NDArray.ofScalars [.num 300, .num (-1)] .u8 none = .ok ⟨.u8, [2], [44, 255]⟩ := by
    decide +kernel
  cases ha.symm.trans hknown
  exact ⟨hkeys, hlists, hstore, hroom, hback, f, hf, hcolumns, hcolumn, hagain⟩

end Tables
end LineRpc
