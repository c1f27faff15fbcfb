import LineRpc.Codec.Encode
import LineRpc.Proofs.Base64
import LineRpc.Proofs.Mapping
import LineRpc.Proofs.NDArray

/-!
# Payload — arrays and tables behind their markers

What stands under a marker is read field by field. Arrays and tables are written with the fields
that are looked for, so reading comes down to building them again; only a row label that is no
number and no text stands in the way of a table.

* `decodeArray_value`      : the payload of an array
* `readsLabel`             : whether a label is read
* `decodeTable_value`      : the payload of a table with such labels
* `decodeTable_unlabelled` : the payload of a table with another label among them
* `isNaN_of_tablePayload`  : every row label that was read is a text or a number
-/

namespace LineRpc
namespace Codec

variable {caps : Capabilities}

/-! ## Native values of JSON values -/

theorem ofJsonList_eq (js : List Json) : Value.ofJsonList js = js.map Value.ofJson := by
  induction js with
  | nil =>
      rfl
  | cons j js ih =>
      rw [Value.ofJsonList, ih, List.map_cons]

theorem ofJsonEntries_eq (es : List (String × Json)) :
    Value.ofJsonEntries es = Mapping.mapValues Value.ofJson es := by
  induction es with
  | nil =>
      rfl
  | cons e es ih =>
      rcases e with ⟨k, j⟩
      rw [Value.ofJsonEntries, ih, Mapping.mapValues_cons]

theorem ofJson_arr (js : List Json) : Value.ofJson (.arr js) = .list (js.map Value.ofJson) := by
  rw [Value.ofJson, ofJsonList_eq]

theorem ofJson_obj (es : List (String × Json)) :
    Value.ofJson (.obj es) = .mapping (Mapping.mapValues Value.ofJson es) := by
  rw [Value.ofJson, ofJsonEntries_eq]

/-! ## Fields -/

theorem ordered_arrayFields (dtype shape data : Json) :
    Mapping.Ordered [("dtype", dtype), ("shape", shape), ("data", data)] :=
  Mapping.ordered_of_keys ["dtype", "shape", "data"] (by decide +kernel) rfl

theorem ordered_tableFields (columns data index : Json) :
    Mapping.Ordered [("columns", columns), ("data", data), ("index", index)] :=
  Mapping.ordered_of_keys ["columns", "data", "index"] (by decide +kernel) rfl

/-! ## Arrays -/

/-- The payload of an array as it is looked at. -/
def arrayValue (d : Dtype) (shape : List Float) (bs : Octets) : Value :=
  .mapping [("dtype", .str d.tag), ("shape", .list (shape.map .num)),
    ("data", .str (Base64.encode bs))]

/-- The JSON of an array, read as a value, is the payload of the array. -/
theorem ofJson_arrayJson (a : NDArray) :
    Value.ofJson (arrayJson a) = arrayValue a.dtype a.shape a.octets := by
  simp only [arrayJson, Value.ofJson, Value.ofJsonEntries, ofJsonList_eq, List.map_map, arrayValue]
  rfl

theorem octets_encode (field : String) (bs : Octets) :
    octets field (Base64.encode bs) = .ok bs := by
  rw [octets, Base64.decode?_encode]

/-- A kind of element is read back from its tag. -/
theorem ofTag_tag (d : Dtype) : Dtype.ofTag d.tag = d := by
  cases d <;> rfl

theorem number_of_num {path : List Step} {x : Float} (h : x.isNaN = false) :
    Schema.number path (.num x) = [] := by
  simp only [Schema.number, h, Bool.false_eq_true, if_false]

/-- A list of which every item passes has no problems. -/
theorem listOf_eq_nil {path : List Step} {check : List Step → Value → List Problem}
    {items : List Value} (h : ∀ v ∈ items, ∀ path, check path v = []) :
    Schema.listOf path check (some (.list items)) = [] := by
  rw [Schema.listOf, List.flatMap_eq_nil_iff]
  rintro ⟨v, i⟩ hv
  exact h v (List.fst_mem_of_mem_zipIdx hv) _

/-- Every item of a list without problems passes. -/
theorem passes_of_listOf {path : List Step} {check : List Step → Value → List Problem}
    {items : List Value} (h : Schema.listOf path check (some (.list items)) = []) {v : Value}
    (hv : v ∈ items) : ∃ path, check path v = [] := by
  rcases List.getElem?_of_mem hv with ⟨i, hi⟩
  exact ⟨_, List.flatMap_eq_nil_iff.mp h (v, i) (List.mem_zipIdx_iff_getElem?.mpr hi)⟩

/-- The payload of an array passes the check when no axis is NaN. -/
theorem arrayProblems_value {d : Dtype} {shape : List Float} {bs : Octets}
    (h : ∀ x ∈ shape, x.isNaN = false) : arrayProblems (arrayValue d shape bs) = [] := by
  have hshape : Schema.listOf [.key "shape"] Schema.number (some (.list (shape.map .num))) = [] := by
    refine listOf_eq_nil ?_
    intro v hv path
    rcases List.mem_map.mp hv with ⟨x, hx, rfl⟩
    exact number_of_num (h x hx)
  change [] ++ [] ++ Schema.listOf [.key "shape"] Schema.number (some (.list (shape.map .num))) = []
  rw [hshape]
  rfl

theorem numbersOf_map (shape : List Float) :
    numbersOf (some (.list (shape.map .num))) = shape := by
  rw [numbersOf, List.filterMap_map]
  exact List.filterMap_some

/-- The payload of an array is read as its tag, its shape and its text. -/
theorem arrayPayload_value {d : Dtype} {shape : List Float} {bs : Octets}
    (h : ∀ x ∈ shape, x.isNaN = false) :
    arrayPayload (arrayValue d shape bs) = .ok ⟨d.tag, shape, Base64.encode bs⟩ := by
  have hshape := numbersOf_map shape
  rw [arrayPayload, arrayProblems_value h]
  change Except.ok (ArrayPayload.mk d.tag (numbersOf (some (.list (shape.map .num))))
    (Base64.encode bs)) = _
  rw [hshape]

/-- Reading an array, step by step: only the first step depends on the capabilities. -/
theorem decodeArray_eq (payload : Value) :
    decodeArray caps payload =
      if caps.arrays then
        (readable ["data", "dtype", "shape"] payload).bind fun _ =>
        (arrayPayload payload).bind fun p =>
        (octets (Marker.array ++ ".data") p.data).bind fun bs =>
        (NDArray.fromBytes (Dtype.ofTag p.dtype) bs p.shape).mapError .badArray
      else .error .arraysDisabled := by
  rw [decodeArray]
  cases caps.arrays <;> rfl

/-- The payload of an array is read as the array that its parts make. -/
theorem decodeArray_value {d : Dtype} {shape : List Float} {bs : Octets}
    (hcaps : caps.arrays = true) (h : ∀ x ∈ shape, x.isNaN = false) :
    decodeArray caps (arrayValue d shape bs) =
      (NDArray.fromBytes d bs shape).mapError .badArray := by
  rw [decodeArray, hcaps, arrayPayload_value h]
  change ((octets _ (Base64.encode bs)).bind fun bs =>
    (NDArray.fromBytes (Dtype.ofTag d.tag) bs shape).mapError .badArray) = _
  rw [octets_encode, ofTag_tag]
  rfl

/-! ## Tables -/

/-- Whether a row label is read: it is a text or a number. -/
def readsLabel : Value → Bool
  | .str _ => true
  | .num x => !x.isNaN
  | _ => false

/-- Labels are read back from their values. -/
theorem labelsOf_ofLabel (labels : List Label) : labelsOf (labels.map Value.ofLabel) = labels := by
  -- What a label is written as is what the reader looks for.
  have hlabel (l : Label) : (match Value.ofLabel l with
      | .str s => some (Label.str s)
      | .num x => some (Label.num x)
      | _ => none) = some l := by
    cases l <;> rfl
  rw [labelsOf, List.filterMap_map]
  refine Eq.trans ?_ List.filterMap_some
  congr 1
  funext l
  exact hlabel l

theorem label_eq_nil {path : List Step} {v : Value} (h : readsLabel v = true) :
    Schema.label path v = [] := by
  cases v with
  | str s =>
      rfl
  | num x =>
      exact number_of_num (by simpa [readsLabel] using h)
  | _ =>
      cases h

theorem label_ne_nil {path : List Step} {v : Value} (h : readsLabel v = false) :
    Schema.label path v ≠ [] := by
  cases v with
  | str s =>
      cases h
  | num x =>
      have hx : x.isNaN = true := by simpa [readsLabel] using h
      simp only [Schema.label, Schema.number, hx, if_true]
      exact List.cons_ne_nil _ _
  | _ =>
      simp [Schema.label]

/-- What passes the check for a label reads as one. -/
theorem readsLabel_of_label {path : List Step} {v : Value} (h : Schema.label path v = []) :
    readsLabel v = true := by
  by_contra hv
  exact label_ne_nil (Bool.not_eq_true _ ▸ hv) h

theorem isNaN_of_mem_labelsOf {vs : List Value} (h : ∀ v ∈ vs, readsLabel v = true) {x : Float}
    (hx : .num x ∈ labelsOf vs) : x.isNaN = false := by
  rcases List.mem_filterMap.mp hx with ⟨v, hv, hlabel⟩
  cases v with
  | num y =>
      cases hlabel
      simpa [readsLabel] using h _ hv
  | _ =>
      cases hlabel

/-- The row labels as they are looked at. -/
def indexValue : Option (List Value) → Value
  | none => .null
  | some labels => .list labels

/-- The payload of a table as it is looked at. -/
def tableValue (columns : List String) (data : Value) (index : Option (List Value)) : Value :=
  .mapping [("columns", .list (columns.map .str)), ("data", data),
    ("index", indexValue index)]

/-- A table payload passes the check when its labels do. -/
theorem tableProblems_value {columns : List String} {data : Value} {index : Option (List Value)} :
    tableProblems (tableValue columns data index) =
      match index with
      | none => []
      | some labels => Schema.listOf [.key "index"] Schema.label (some (.list labels)) := by
  have hcolumns : Schema.listOf [.key "columns"] Schema.label
      (some (.list (columns.map .str))) = [] := by
    refine listOf_eq_nil ?_
    intro v hv path
    rcases List.mem_map.mp hv with ⟨s, -, rfl⟩
    rfl
  -- The columns are texts and the data is there, so only the row labels can be wrong.
  have hsplit : tableProblems (tableValue columns data index) =
      Schema.listOf [.key "columns"] Schema.label (some (.list (columns.map .str))) ++ [] ++
        Schema.labelsOrNull [.key "index"] (some (indexValue index)) :=
    rfl
  rw [hsplit, hcolumns]
  cases index <;> rfl

/-- The names of columns are read back from their values. -/
theorem columnNames (columns : List String) :
    (labelsOf (columns.map .str)).map columnName = columns := by
  rw [labelsOf, List.filterMap_map, List.map_filterMap]
  exact List.filterMap_some

/-- Reading a table, step by step. -/
theorem decodeTable_eq (payload : Value) :
    decodeTable caps payload =
      if caps.tables then
        (readable ["columns", "index"] payload).bind fun _ =>
        (tablePayload payload).bind fun p =>
        (readable ["data"] payload).bind fun _ =>
        (decodeArray caps p.data).bind fun values =>
        (Frame.make (p.columns.map columnName) values
          (p.index.filter fun labels => !labels.isEmpty)).mapError .badArray
      else .error .tablesDisabled := by
  rw [decodeTable]
  cases caps.tables <;> rfl

/-- The payload of a table is read as the table that its parts make, if its labels are read. -/
theorem decodeTable_value {columns : List String} {data : Value} {index : Option (List Value)}
    (hcaps : caps.tables = true)
    (h : ∀ labels, index = some labels → ∀ v ∈ labels, readsLabel v = true) :
    decodeTable caps (tableValue columns data index) = (decodeArray caps data).bind fun values =>
      (Frame.make columns values
        ((index.map labelsOf).filter fun labels => !labels.isEmpty)).mapError .badArray := by
  have hproblems : tableProblems (tableValue columns data index) = [] := by
    rw [tableProblems_value]
    cases index with
    | none =>
        rfl
    | some labels =>
        exact listOf_eq_nil fun v hv path => label_eq_nil (h labels rfl v hv)
  have hcolumns := columnNames columns
  -- Without problems the fields are taken out, and building the table is all that is left.
  rw [decodeTable, hcaps, tablePayload, hproblems]
  change ((decodeArray caps data).bind fun values =>
    (Frame.make ((labelsOf (columns.map .str)).map columnName) values
      ((labelsOf? (some (indexValue index))).filter fun labels => !labels.isEmpty)).mapError
      DecodeError.badArray) = _
  rw [hcolumns]
  cases index <;> rfl

/-- A label that is neither a text nor a number keeps a table from being read. -/
theorem decodeTable_unlabelled {columns : List String} {data : Value} {labels : List Value}
    {v : Value} (hv : v ∈ labels) (h : readsLabel v = false) (f : Frame) :
    decodeTable caps (tableValue columns data (some labels)) ≠ .ok f := by
  -- The problem of the label is one of the problems of the list.
  have hproblems : tableProblems (tableValue columns data (some labels)) ≠ [] := by
    rw [tableProblems_value]
    intro hnil
    rcases passes_of_listOf hnil hv with ⟨path, hpath⟩
    exact label_ne_nil h hpath
  rw [decodeTable]
  cases hc : caps.tables with
  | false =>
      -- Without tables nothing is read.
      intro heq
      cases heq
  | true =>
      rw [tablePayload]
      cases hp : tableProblems (tableValue columns data (some labels)) with
      | nil =>
          exact absurd hp hproblems
      | cons p ps =>
          intro heq
          cases heq

theorem fields_of_object {path : List Step} {v : Value} {fields : List Problem}
    (h : Schema.object path v fields = []) : fields = [] := by
  rw [Schema.object] at h
  split at h
  · exact h
  · cases h

/-- No row label of a table of the right form is of the number type without being a number. -/
theorem isNaN_of_tablePayload {payload : Value} {p : TablePayload}
    (h : tablePayload payload = .ok p) {x : Float} (hx : .num x ∈ p.index.getD []) :
    x.isNaN = false := by
  rw [tablePayload] at h
  split at h
  · rename_i hproblems
    cases h
    -- The row labels were checked one by one, unless the field holds no list.
    have hindex := (List.append_eq_nil_iff.mp (fields_of_object hproblems)).2
    cases hfield : Schema.field? payload "index" with
    | none =>
        rw [hfield] at hx
        cases hx
    | some v =>
        rw [hfield] at hx hindex
        cases v with
        | list items =>
            refine isNaN_of_mem_labelsOf ?_ hx
            intro v hv
            rcases passes_of_listOf hindex hv with ⟨path, hpath⟩
            exact readsLabel_of_label hpath
        | _ =>
            cases hx
  · cases h

end Codec
end LineRpc
