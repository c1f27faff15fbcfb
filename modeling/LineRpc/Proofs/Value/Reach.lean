import LineRpc.Proofs.Library.Results

/-!
# Reach — values that operations come to

Operations start from what is decoded, from octets, from elements and from nestings. They take
values apart, put them into lists and mappings, and call the functions of arrays and tables.
Whatever they come to in finitely many steps is sound: every array, series and table in it agrees
with its shape, its columns and its labels, and taking those apart fails none of the checks that
building makes.

* `Value.Step`    : one operation on values that are there
* `Value.Run`     : the values that finitely many operations come to
* `sound_of_step` : an operation on sound values gives a sound value
* `sound_of_run`  : all values that operations come to are sound
* `reached_exact` : what that comes to for arrays, series and tables
-/

namespace LineRpc
namespace Value

/-! ## Operations -/

/-- Whether a value is an array, a series or a table itself. -/
def isTyped : Value → Bool
  | .ndarray _ => true
  | .series _ => true
  | .frame _ => true
  | _ => false

/-- One operation on values that are there. Numbers, texts, lists and mappings are free; an array, a
series or a table only comes from decoding, from building or from a function. -/
inductive Step (pool : List Value) : Value → Prop
  | decoded {caps : Capabilities} {j : Json} {v : Value} (h : Codec.decodeJson caps j = .ok v) :
      Step pool v
  | taken {v p : Value} (hv : v ∈ pool) (hp : p ∈ v.parts) : Step pool p
  | composed {v : Value} (h : v.isTyped = false) (hparts : ∀ p ∈ v.parts, p ∈ pool) : Step pool v
  | fromBytes {d : Dtype} {bs : Octets} {shape : List Float} {a : NDArray}
      (h : NDArray.fromBytes d bs shape = .ok a) : Step pool (.ndarray a)
  | ofScalars {xs : List Scalar} {d : Dtype} {shape : Option (List Float)} {a : NDArray}
      (h : NDArray.ofScalars xs d shape = .ok a) : Step pool (.ndarray a)
  | fromNested {n : Nested} {d : Dtype} {a : NDArray} (h : NDArray.fromNested n d = .ok a) :
      Step pool (.ndarray a)
  | reshaped {a b : NDArray} {shape : List Float} (ha : .ndarray a ∈ pool)
      (h : a.reshape shape = .ok b) : Step pool (.ndarray b)
  | item {a : NDArray} {items : List NDArray.Item} {x : NDArray.Item} (ha : .ndarray a ∈ pool)
      (h : a.items = .ok items) (hx : x ∈ items) : Step pool (ofItem x)
  | column {f : Frame} {name : String} {s : Series} (hf : .frame f ∈ pool)
      (h : f.column name = .ok s) : Step pool (.series s)
  | called {name : String} {f : Builtin} {args : List Value} {v : Value}
      (hf : (name, f) ∈ Arrays.functions ++ Tables.functions) (hargs : ∀ a ∈ args, a ∈ pool)
      (h : f args = .ok v) : Step pool v

/-- The values that finitely many operations come to, the last one first. -/
inductive Run : List Value → Prop
  | nil : Run []
  | cons {pool : List Value} {v : Value} (run : Run pool) (step : Step pool v) : Run (v :: pool)

variable {pool : List Value} {v : Value}

/-- An operation on sound values gives a sound value. -/
theorem sound_of_step (hpool : ∀ v ∈ pool, v.Sound) (h : Step pool v) : v.Sound := by
  cases h with
  | decoded h =>
      exact sound_of_decode h
  | taken hv hp =>
      exact (hpool _ hv).part hp
  | composed h hparts =>
      refine sound_iff.mpr ⟨?_, fun p hp => hpool p (hparts p hp)⟩
      cases v with
      | ndarray a | series s | frame f =>
          cases h
      | _ =>
          trivial
  | fromBytes h =>
      exact sound_ndarray.mpr (NDArray.valid_of_fromBytes h).1
  | ofScalars h =>
      exact sound_ndarray.mpr (NDArray.valid_of_ofScalars h)
  | fromNested h =>
      exact sound_ndarray.mpr (NDArray.valid_of_fromNested h)
  | reshaped ha h =>
      exact sound_ndarray.mpr (NDArray.valid_of_reshape (sound_ndarray.mp (hpool _ ha)) h)
  | item ha h hx =>
      -- An item of an array of one dimension is an element.
      rcases NDArray.valid_of_items (sound_ndarray.mp (hpool _ ha)) h hx with
        ⟨x, rfl⟩ | ⟨b, rfl, hb⟩
      · exact sound_ofScalar x
      · exact sound_ndarray.mpr hb
  | column hf h =>
      exact sound_series.mpr (Frame.valid_of_column h)
  | called hf hargs h =>
      have hsound := fun a ha => hpool a (hargs a ha)
      rcases List.mem_append.mp hf with harrays | htables
      · exact Arrays.sound_of_arrays hsound harrays h
      · exact Tables.sound_of_tables hsound htables h

/-- All values that operations come to are sound. -/
theorem sound_of_run (h : Run pool) : ∀ v ∈ pool, v.Sound := by
  induction h with
  | nil =>
      simp
  | cons _ step ih =>
      exact List.forall_mem_cons.mpr ⟨sound_of_step ih step, ih⟩

/-! ## Checks that cannot fail -/

/-- Taking apart what is in a value fails no check: iterating over an array of two dimensions or
more raises nothing, nor does exchanging rows and columns, and every column of a table is found.
What is counted on the way may be too long for that to end; otherwise iterating gives arrays, and
rows and columns are exchanged. -/
structure Usable (v : Value) : Prop where
  items : ∀ a, (Value.ndarray a).Within v → a.Fits → 2 ≤ a.rank →
    (∀ e, a.items ≠ .error (.raised e)) ∧
    (2 ^ 53 < Number.toNat a.rows → a.items = .error .endless) ∧
    (Number.toNat a.rows ≤ 2 ^ 53 →
      ∃ parts : List NDArray, a.items = .ok (parts.map .array) ∧
        parts.length = Number.toNat a.rows ∧ ∀ b ∈ parts, b.shape = a.shape.drop 1 ∧ b.Exact)
  transpose : ∀ a, (Value.ndarray a).Within v → a.Fits →
    (∀ e, a.transpose ≠ .error (.raised e)) ∧
    ((∀ r c, a.shape = [r, c] → Number.toNat c ≤ 2 ^ 53) → ∃ b, a.transpose = .ok b)
  column : ∀ f, (Value.frame f).Within v → f.Fits → ∀ name ∈ f.columns,
    ∃ s, f.column name = .ok s ∧ s.values.elements.length = Number.toNat f.rows ∧
      s.name = some name ∧ s.index = f.index ∧ s.Exact

/-- A sound value can be taken apart. -/
theorem Sound.usable (h : v.Sound) : v.Usable where
  items := by
    intro a ha hf hrank
    have ha : a.Valid := h _ ha
    refine ⟨NDArray.items_ne_raised ha hf hrank, ?_, NDArray.exists_items ha hf hrank⟩
    intro hrows
    rw [NDArray.items_eq ha hf hrank, if_neg (not_le.mpr hrows)]
  transpose := by
    intro a ha hf
    have ha : a.Valid := h _ ha
    exact ⟨NDArray.transpose_ne_raised ha hf, NDArray.exists_transpose ha hf⟩
  column := by
    intro f hfv hf name hname
    have hfv : f.Valid := h _ hfv
    exact Frame.exists_column hfv hf hname

/-- Every array, series and table that operations come to agrees with its shape, its columns and its
labels, and taking it apart fails no check. Making an array of elements without a shape, of a
nesting, or of columns fails none either. -/
theorem reached_exact (h : Run pool) :
    (∀ v ∈ pool, v.Exact ∧ v.Usable) ∧
    (∀ (xs : List Scalar) (d : Dtype) (e : ArrayError), xs.length < 2 ^ 53 →
      NDArray.ofScalars xs d none = .error e → e.isMisfit = false) ∧
    (∀ (n : Nested) (d : Dtype) (e : ArrayError), n.Counted →
      NDArray.fromNested n d = .error e → e.isMisfit = false) ∧
    (∀ (args : List Value) (e : ArrayError), Tables.ColumnsCounted (Args.nth args 0) →
      Tables.fromColumns args = .error (.array e) → e.isMisfit = false) := by
  refine ⟨?_, ?_, ?_, ?_⟩
  · intro v hv
    have hsound := sound_of_run h v hv
    exact ⟨hsound.exact, hsound.usable⟩
  · intro xs d e hcount he
    refine NDArray.isMisfit_of_ofScalars ?_ he
    simpa using NDArray.checkShape_ofNat hcount
  · intro n d e hcount he
    exact NDArray.isMisfit_of_fromNested hcount he
  · intro args e hcount he
    exact Tables.isMisfit_of_fromColumns hcount he

/-- A table of two rows and two columns with labels, on the wire. -/
def square : Json :=
  .obj [(Marker.table, .obj [("columns", .arr [.str "a", .str "b"]),
    ("data", .obj [("dtype", .str "u8"), ("shape", .arr [.num 2, .num 2]),
      ("data", .str "AQIDBA==")]),
    ("index", .arr [.str "x", .str "y"])])]

def squareTable : Frame :=
  ⟨["a", "b"], ⟨.u8, [2, 2], [1, 2, 3, 4]⟩, some [.str "x", .str "y"]⟩

def squareRow : NDArray :=
  ⟨.u8, [2], [3, 4]⟩

def squareColumn : Series :=
  ⟨⟨.u8, [2], [2, 4]⟩, some "b", some [.str "x", .str "y"]⟩

/-- A list of a list of one number and an empty one. -/
def ragged : Nested :=
  .node [.node [.leaf (.num 1)], .node []]

/-- A column of one number that is no integer, to be stored as exact integers. -/
def halfColumn : List Value :=
  [.mapping [("a", .list [.num 1.5])], .str "i64"]

/-- The table is decoded, its values are taken, and then come their last row and the second column.
-/
theorem run_square :
    Run [.series squareColumn, .ndarray squareRow, .ndarray squareTable.values,
      .frame squareTable] := by
  have htable : Codec.decodeJson .full square = .ok (.frame squareTable) := by
    rfl
  have hitems : squareTable.values.items = .ok [.array ⟨.u8, [2], [1, 2]⟩, .array squareRow] := by
    decide +kernel
  have hcolumn : squareTable.column "b" = .ok squareColumn := by
    decide +kernel
  refine .cons (.cons (.cons (.cons .nil (.decoded htable)) ?_) ?_) ?_
  · exact .taken (v := .frame squareTable) (by simp) (by simp [parts])
  · exact .item (x := .array squareRow) (by simp) hitems (by simp)
  · exact .column (by simp) hcolumn

theorem labelsFit_square : LabelsFit (some [Label.str "x", Label.str "y"]) := by
  intro labels hlabels
  cases hlabels
  decide

theorem counted_ragged : ragged.Counted := by
  refine ⟨by decide, ?_⟩
  intro k
  rcases k with _ | _ | k
  · decide
  · decide
  · simp [ragged, Nested.shape, NDArray.volume]

theorem columnsCounted_half : Tables.ColumnsCounted (Args.nth halfColumn 0) := by
  refine ⟨by decide, ?_⟩
  intro e he items hitems
  rcases List.mem_singleton.mp he with rfl
  cases hitems
  decide

/-- All that the run came to agrees with its shape and can be taken apart, and what cannot be built
is no misfit. -/
theorem reached_exact_square :
    Run [.series squareColumn, .ndarray squareRow, .ndarray squareTable.values,
      .frame squareTable] ∧
    squareColumn.Exact ∧ squareRow.Exact ∧ squareTable.Exact ∧
    (∃ parts : List NDArray, squareTable.values.items = .ok (parts.map .array)) ∧
    (∃ b, squareTable.values.transpose = .ok b) ∧
    (∃ s, squareTable.column "a" = .ok s ∧ s.Exact) ∧
    NDArray.ofScalars [.num 0.5] .u64 none = .error (.notInteger 0.5) ∧
    NDArray.fromNested ragged .f64 = .error (.ragged 1) ∧
    Tables.fromColumns halfColumn = .error (.array (.notInteger 1.5)) ∧
    ∀ e ∈ [ArrayError.notInteger 0.5, .ragged 1, .notInteger 1.5], e.isMisfit = false := by
  have hrun := run_square
  have hlabels := labelsFit_square
  have hfits : squareTable.Fits := ⟨by decide, by decide, hlabels⟩
  have hscalars : NDArray.ofScalars [.num 0.5] .u64 none = .error (.notInteger 0.5) := by
    rfl
  have hnested : NDArray.fromNested ragged .f64 = .error (.ragged 1) := by
    rfl
  have hcolumns : Tables.fromColumns halfColumn = .error (.array (.notInteger 1.5)) := by
    rfl
  -- The theorem is applied once, and everything else is read off it.
  obtain ⟨hall, hofScalars, hfromNested, hfromColumns⟩ := reached_exact hrun
  obtain ⟨hcolumnExact, -⟩ := hall (.series squareColumn) (by simp)
  obtain ⟨hrowExact, -⟩ := hall (.ndarray squareRow) (by simp)
  obtain ⟨htableExact, husable⟩ := hall (.frame squareTable) (by simp)
  have hvalues : (Value.ndarray squareTable.values).Within (.frame squareTable) :=
    .part (by simp [parts]) .self
  have hrows : Number.toNat squareTable.values.rows = 2 := by decide +kernel
  have hcols : Number.toNat 2 = 2 := by decide +kernel
  obtain ⟨-, -, hcounted⟩ := husable.items squareTable.values hvalues hfits.values (by decide)
  obtain ⟨parts, hparts, -⟩ := hcounted (by rw [hrows]; norm_num)
  obtain ⟨s, hs, -, -, -, hexact⟩ := husable.column squareTable .self hfits "a" (by decide)
  refine ⟨hrun, ?_, ?_, ?_, ⟨parts, hparts⟩, ?_, ⟨s, hs, hexact⟩, hscalars, hnested, hcolumns, ?_⟩
  · exact hcolumnExact.series squareColumn .self ⟨by decide, hlabels⟩
  · exact hrowExact.arrays squareRow .self (by decide)
  · exact htableExact.tables squareTable .self hfits
  · refine (husable.transpose squareTable.values hvalues hfits.values).2 ?_
    rintro r c hs
    cases hs
    rw [hcols]
    norm_num
  · intro e he
    simp only [List.mem_cons, List.not_mem_nil, or_false] at he
    rcases he with rfl | rfl | rfl
    · exact hofScalars _ _ _ (by decide) hscalars
    · exact hfromNested _ _ _ counted_ragged hnested
    · exact hfromColumns _ _ columnsCounted_half hcolumns

end Value
end LineRpc
