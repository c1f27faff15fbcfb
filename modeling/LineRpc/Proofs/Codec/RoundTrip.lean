import LineRpc.Proofs.Codec.Labels

/-!
# RoundTrip — decoding what was encoded

A value is representable if the wire has a form for each of its parts. Encoding such a value and
decoding the result gives the value again: with every number as it was, keys in their order, and the
octets of every array. The one obstacle is a row label that is not a number although it is of the
number type. It is written like any other number and refused when the table is read.

A worker that does without arrays or tables gives back the values without them. What comes back
under given capabilities is called canonical for them.

* `Value.Representable`    : values that the wire has a form for
* `Value.Canonical`        : values that come back under given capabilities
* `decode_encode_canonical`: canonical values come back
* `exists_encode`          : representable values are encoded
* `labels_of_decode`       : with such a label nothing comes back
-/

namespace LineRpc

/-- A value that the wire has a form for. Arrays have a dimension, row labels are missing or there
are some, and no key of a mapping is a marker. -/
inductive Value.Representable : Value → Prop
  | null : Representable .null
  | bool (b : Bool) : Representable (.bool b)
  | num (x : Float) : Representable (.num x)
  | str (s : String) : Representable (.str s)
  | bytes (octets : Octets) : Representable (.bytes .buffer octets)
  | ndarray {a : NDArray} (valid : a.Valid) (dims : a.shape ≠ []) : Representable (.ndarray a)
  | frame {f : Frame} (valid : f.Valid) (dims : f.values.shape ≠ []) (rows : f.index ≠ some []) :
      Representable (.frame f)
  | list {items : List Value} (each : ∀ v ∈ items, Representable v) : Representable (.list items)
  | mapping {entries : List (String × Value)} (ordered : Mapping.Ordered entries)
      (unmarked : Codec.Unmarked (entries.map Prod.fst))
      (each : ∀ e ∈ entries, Representable e.2) : Representable (.mapping entries)

/-- A value that comes back under given capabilities: it holds arrays and tables only as far as they
are understood, and every row label that is of the number type is a number. -/
inductive Value.Canonical (caps : Capabilities) : Value → Prop
  | null : Canonical caps .null
  | bool (b : Bool) : Canonical caps (.bool b)
  | num (x : Float) : Canonical caps (.num x)
  | str (s : String) : Canonical caps (.str s)
  | bytes (octets : Octets) : Canonical caps (.bytes .buffer octets)
  | ndarray {a : NDArray} (arrays : caps.arrays = true) (valid : a.Valid) (dims : a.shape ≠ []) :
      Canonical caps (.ndarray a)
  | frame {f : Frame} (arrays : caps.arrays = true) (tables : caps.tables = true) (valid : f.Valid)
      (dims : f.values.shape ≠ []) (rows : f.index ≠ some [])
      (labels : ∀ x, .num x ∈ f.index.getD [] → x.isNaN = false) : Canonical caps (.frame f)
  | list {items : List Value} (each : ∀ v ∈ items, Canonical caps v) : Canonical caps (.list items)
  | mapping {entries : List (String × Value)} (ordered : Mapping.Ordered entries)
      (unmarked : Codec.Unmarked (entries.map Prod.fst))
      (each : ∀ e ∈ entries, Canonical caps e.2) : Canonical caps (.mapping entries)

namespace Codec

variable {caps : Capabilities}

/-! ## Typed values -/

/-- An encoded array reads as its payload under the marker. -/
theorem ofJson_encodeArray (a : NDArray) :
    Value.ofJson (encodeArray a) =
      .mapping [(Marker.array, arrayValue a.dtype a.shape a.octets)] := by
  rw [encodeArray, Value.ofJson, Value.ofJsonEntries, Value.ofJsonEntries, ofJson_arrayJson]

theorem ofJson_labelJson (l : Label) : Value.ofJson (labelJson l) = Value.ofLabel l := by
  cases l <;> rfl

theorem ofJson_encodeTable (f : Frame) :
    Value.ofJson (encodeTable f) =
      .mapping [(Marker.table, tableValue f.columns
        (arrayValue f.values.dtype f.values.shape f.values.octets)
        (f.index.map fun labels => labels.map Value.ofLabel))] := by
  have hindex : Value.ofJson (Json.ofOption (fun labels => .arr (labels.map labelJson)) f.index) =
      indexValue (f.index.map fun labels => labels.map Value.ofLabel) := by
    cases f.index with
    | none =>
        rfl
    | some labels =>
        change Value.list (Value.ofJsonList (labels.map labelJson)) = .list _
        rw [ofJsonList_eq, List.map_map]
        congr 2
        funext l
        exact ofJson_labelJson l
  simp only [encodeTable, tableJson, Value.ofJson, Value.ofJsonEntries, ofJson_arrayJson, hindex,
    ofJsonList_eq, List.map_map, tableValue]
  rfl

/-- Every label reads as one, NaN excepted. -/
theorem readsLabel_ofLabel {l : Label} :
    readsLabel (Value.ofLabel l) = true ↔ ∀ x, l = .num x → x.isNaN = false := by
  cases l with
  | str s =>
      simp [Value.ofLabel, readsLabel]
  | num x =>
      constructor
      · intro h y hy
        cases hy
        rw [Value.ofLabel, readsLabel, Bool.not_eq_true'] at h
        exact h
      · intro h
        rw [Value.ofLabel, readsLabel, h x rfl]
        rfl

/-- An array comes back from its payload. -/
theorem decodeArray_valid {a : NDArray} (hc : caps.arrays = true) (h : a.Valid)
    (hs : a.shape ≠ []) : decodeArray caps (arrayValue a.dtype a.shape a.octets) = .ok a := by
  rw [decodeArray_value hc fun d hd => NDArray.isNaN_of_isDimension (h.isDimension d hd),
    NDArray.fromBytes_of_valid h hs]
  rfl

/-- A table comes back from its payload if its labels are read. -/
theorem decodeTable_valid {f : Frame} (ha : caps.arrays = true) (ht : caps.tables = true)
    (h : f.Valid) (hs : f.values.shape ≠ []) (hi : f.index ≠ some [])
    (hl : ∀ x, .num x ∈ f.index.getD [] → x.isNaN = false) :
    decodeTable caps (tableValue f.columns
      (arrayValue f.values.dtype f.values.shape f.values.octets)
      (f.index.map fun labels => labels.map Value.ofLabel)) = .ok f := by
  have hindex : ((f.index.map fun labels => labels.map Value.ofLabel).map labelsOf).filter
      (fun labels => !labels.isEmpty) = f.index := by
    cases hf : f.index with
    | none =>
        rfl
    | some labels =>
        have hne : labels ≠ [] := by
          rintro rfl
          exact hi hf
        -- Labels that are there are kept, since they are not empty.
        rw [Option.map_some, Option.map_some, labelsOf_ofLabel]
        simp [Option.filter, hne]
  rw [decodeTable_value ht, decodeArray_valid ha h.values hs, hindex]
  · change (Frame.make f.columns f.values f.index).mapError _ = _
    rw [Frame.make_of_valid h]
    rfl
  · intro labels hlabels v hv
    rcases Option.map_eq_some_iff.mp hlabels with ⟨ls, hls, rfl⟩
    rcases List.mem_map.mp hv with ⟨l, hmem, rfl⟩
    refine readsLabel_ofLabel.mpr ?_
    rintro x rfl
    apply hl
    rw [hls]
    exact hmem

/-! ## Lists and mappings -/

/-- A list is encoded if its items are, item by item. -/
theorem encode_list_eq_ok {items : List Value} {j : Json} :
    encode caps (.list items) = .ok j ↔
      ∃ js, List.Forall₂ (fun v j => encode caps v = .ok j) items js ∧ Json.arr js = j := by
  rw [encode, map_eq_ok]
  simp only [encodeList_eq_ok]

/-- A mapping whose entries are encoded becomes a mapping. -/
theorem encode_mapping_of_ok {entries : List (String × Value)} {js : List (String × Json)}
    (h : encodeEntries caps entries = .ok js) :
    encode caps (.mapping entries) = .ok (.obj (Mapping.ofEntries js)) := by
  rw [encode, h]
  rfl

/-- Encoded entries in property order are the encoded mapping. -/
theorem ofEntries_encodeEntries {entries : List (String × Value)} {js : List (String × Json)}
    (ho : Mapping.Ordered entries) (h : encodeEntries caps entries = .ok js) :
    Mapping.ofEntries js = js :=
  Mapping.ofEntries_of_ordered ((encodeEntries_eq_ok.mp h).ordered ho)

/-- An object writes the labels that its members write. -/
theorem mem_writtenLabels_mapping {entries : List (String × Value)} {js : List (String × Json)}
    {l : Label} (ho : Mapping.Ordered entries) (h : encodeEntries caps entries = .ok js) :
    l ∈ (Value.mapping entries).writtenLabels caps ↔
      ∃ e ∈ entries, l ∈ e.2.writtenLabels caps := by
  rw [Value.writtenLabels, keptLabels_of_ok h, entryLabels_eq, mem_labels_ofEntries,
    Mapping.ofEntries_of_ordered ho]

/-- The items of a list come back if each item is encoded and comes back. -/
theorem decodeJson_items {items : List Value} {js : List Json}
    (h : List.Forall₂ (fun v j => decodeJson caps j = .ok v) items js) :
    decodeJson caps (.arr js) = .ok (.list items) := by
  rw [decodeJson_arr, decodeList_eq_ok.mpr ?_]
  · rfl
  · rw [List.forall₂_map_left_iff]
    exact h.flip

/-- The entries of a mapping come back in their order if each value comes back. -/
theorem decodeJson_entries {entries : List (String × Value)} {js : List (String × Json)}
    (ho : Mapping.Ordered entries) (hu : Unmarked (entries.map Prod.fst))
    (h : Mapping.Keyed (fun v j => decodeJson caps j = .ok v) entries js) :
    decodeJson caps (.obj js) = .ok (.mapping entries) := by
  have hunmarked : Unmarked ((Mapping.mapValues Value.ofJson js).map Prod.fst) :=
    unmarked_mapValues (unmarked_keyed h hu)
  have hdecoded : decodeEntries caps (Mapping.mapValues Value.ofJson js) = .ok entries := by
    rw [decodeEntries_eq_ok, Mapping.keyed_map_left]
    exact h.flip
  rw [decodeJson_obj, decode_unmarked hunmarked, hdecoded]
  change Except.ok (Value.mapping (Mapping.ofEntries entries)) = _
  rw [Mapping.ofEntries_of_ordered ho]

/-! ## All values -/

variable {v : Value}

/-- A canonical value is encoded, and comes back. -/
theorem decode_encode_canonical (h : v.Canonical caps) :
    ∃ j, encode caps v = .ok j ∧ decodeJson caps j = .ok v := by
  induction h with
  | null | bool b | num x | str s =>
      exact ⟨_, rfl, rfl⟩
  | bytes octets =>
      refine ⟨encodeBytes octets, rfl, ?_⟩
      change decode caps (.mapping [(Marker.bytes, .str (Base64.encode octets))]) = _
      rw [decode_bytes, decodeBytes, octets_encode]
      rfl
  | ndarray arrays valid dims =>
      -- The capability decides which form is written, and that this form is read.
      refine ⟨encodeArray _, by rw [encode, if_pos arrays], ?_⟩
      rw [decodeJson, ofJson_encodeArray, decode_array, decodeArray_valid arrays valid dims]
      rfl
  | frame arrays tables valid dims rows labels =>
      refine ⟨encodeTable _, by rw [encode, if_pos tables], ?_⟩
      rw [decodeJson, ofJson_encodeTable, decode_table,
        decodeTable_valid arrays tables valid dims rows labels]
      rfl
  | list each ih =>
      obtain ⟨js, hjs⟩ := exists_forall₂ ih
      exact ⟨.arr js, encode_list_eq_ok.mpr ⟨js, hjs.imp fun _ _ h => h.1, rfl⟩,
        decodeJson_items (hjs.imp fun _ _ h => h.2)⟩
  | @mapping entries ordered unmarked each ih =>
      obtain ⟨js, hjs⟩ := Mapping.exists_keyed
        (fun v j => encode caps v = .ok j ∧ decodeJson caps j = .ok v) ih
      have hencoded : encodeEntries caps entries = .ok js :=
        encodeEntries_eq_ok.mpr (hjs.imp fun _ _ h => h.1)
      refine ⟨.obj js, ?_, decodeJson_entries ordered unmarked (hjs.imp fun _ _ h => h.2)⟩
      rw [encode_mapping_of_ok hencoded, ofEntries_encodeEntries ordered hencoded]

/-- Whatever is representable is encoded. -/
theorem exists_encode (h : v.Representable) : ∃ j, encode .full v = .ok j := by
  induction h with
  | list each ih =>
      obtain ⟨js, hjs⟩ := exists_forall₂ ih
      exact ⟨_, encode_list_eq_ok.mpr ⟨js, hjs, rfl⟩⟩
  | mapping ordered unmarked each ih =>
      obtain ⟨js, hjs⟩ := Mapping.exists_keyed (fun v j => encode .full v = .ok j) ih
      exact ⟨_, encode_mapping_of_ok (encodeEntries_eq_ok.mpr hjs)⟩
  | _ =>
      exact ⟨_, rfl⟩

/-- The entries of a representable mapping are encoded. -/
theorem exists_encodeEntries {entries : List (String × Value)}
    (each : ∀ e ∈ entries, e.2.Representable) : ∃ js, encodeEntries .full entries = .ok js := by
  obtain ⟨js, hjs⟩ := Mapping.exists_keyed (fun v j => encode .full v = .ok j)
    fun e he => exists_encode (each e he)
  exact ⟨js, encodeEntries_eq_ok.mpr hjs⟩

/-- A representable value without a row label that is refused is canonical for all capabilities. -/
theorem canonical_of_representable (h : v.Representable)
    (hl : ∀ x, .num x ∈ v.writtenLabels .full → x.isNaN = false) : v.Canonical .full := by
  -- The labels of a part are among those of the whole, so the hypothesis passes to each part.
  induction h with
  | null =>
      exact .null
  | bool b =>
      exact .bool b
  | num x =>
      exact .num x
  | str s =>
      exact .str s
  | bytes octets =>
      exact .bytes octets
  | ndarray valid dims =>
      exact .ndarray rfl valid dims
  | frame valid dims rows =>
      exact .frame rfl rfl valid dims rows hl
  | list each ih =>
      refine .list ?_
      intro v hv
      exact ih v hv fun x hx => hl x (mem_itemLabels.mpr ⟨v, hv, hx⟩)
  | mapping ordered unmarked each ih =>
      obtain ⟨js, hjs⟩ := exists_encodeEntries each
      refine .mapping ordered unmarked ?_
      intro e he
      exact ih e he fun x hx => hl x ((mem_writtenLabels_mapping ordered hjs).mpr ⟨e, he, hx⟩)

/-- If a representable value is decoded to anything, then no row label of it is refused. -/
theorem labels_of_decode {w : Value} {j : Json} (h : v.Representable)
    (hj : encode .full v = .ok j) (hw : decodeJson .full j = .ok w) :
    ∀ x, .num x ∈ v.writtenLabels .full → x.isNaN = false := by
  induction h generalizing w j with
  | frame valid dims rows =>
      rename_i f
      intro x hx
      change .num x ∈ f.index.getD [] at hx
      have hwritten : encodeTable f = j := Except.ok.inj hj
      rw [← hwritten, decodeJson, ofJson_encodeTable, decode_table] at hw
      rcases ok_of_map hw with ⟨g, hg, -⟩
      cases hf : f.index with
      | none =>
          rw [hf] at hx
          cases hx
      | some labels =>
          -- A label that is refused keeps the whole table from being read.
          rw [hf] at hx hg
          by_contra hnan
          refine decodeTable_unlabelled (List.mem_map.mpr ⟨_, hx, rfl⟩) ?_ g hg
          simpa [Value.ofLabel, readsLabel] using hnan
  | list each ih =>
      -- If the list was decoded, then the item with the label was.
      rename_i items
      intro x hx
      obtain ⟨js, hjs, rfl⟩ := encode_list_eq_ok.mp hj
      rw [decodeJson_arr] at hw
      rcases ok_of_map hw with ⟨ws, hws, -⟩
      rcases mem_itemLabels.mp hx with ⟨v, hv, hxv⟩
      obtain ⟨j, hmem, hencoded⟩ := exists_of_forall₂ hjs hv
      rcases exists_decodeList.mp ⟨ws, hws⟩ _ (List.mem_map.mpr ⟨j, hmem, rfl⟩) with ⟨w', hw'⟩
      exact ih v hv hencoded hw' x hxv
  | mapping ordered unmarked each ih =>
      rename_i entries
      intro x hx
      obtain ⟨js, hjs⟩ := exists_encodeEntries each
      have hkeyed := encodeEntries_eq_ok.mp hjs
      rw [encode_mapping_of_ok hjs, ofEntries_encodeEntries ordered hjs] at hj
      cases hj
      rw [decodeJson_obj, decode_unmarked (unmarked_mapValues (unmarked_keyed hkeyed unmarked))] at hw
      rcases ok_of_map hw with ⟨ws, hws, -⟩
      rcases (mem_writtenLabels_mapping ordered hjs).mp hx with ⟨e, he, hxe⟩
      obtain ⟨j, hmem, hencoded⟩ := hkeyed.exists_of_mem he
      obtain ⟨w', hw'⟩ := exists_decodeEntries.mp ⟨ws, hws⟩ _
        (Mapping.mem_mapValues.mpr ⟨_, hmem, rfl⟩)
      exact ih e he hencoded hw' x hxe
  | _ =>
      intro x hx
      cases hx

/-- A representable value is encoded, and decoding undoes it exactly if every row label in the value
that is of the number type is a number. -/
theorem decodeJson_encode_iff (h : v.Representable) :
    ∃ j, encode .full v = .ok j ∧
      (decodeJson .full j = .ok v ↔ ∀ x, .num x ∈ v.writtenLabels .full → x.isNaN = false) := by
  obtain ⟨j, hj⟩ := exists_encode h
  refine ⟨j, hj, fun hd => labels_of_decode h hj hd, fun hl => ?_⟩
  obtain ⟨j', hj', hd⟩ := decode_encode_canonical (canonical_of_representable h hl)
  cases hj.symm.trans hj'
  exact hd

/-- A table of one element with one row label. -/
def cell (label : Label) : Frame where
  columns := ["a"]
  values := ⟨.u8, [1, 1], [7]⟩
  index := some [label]

theorem valid_cell (label : Label) : (cell label).Valid := by
  have hshape : NDArray.checkShape [1, 1] 1 = .ok () := by
    refine NDArray.checkShape_eq_ok.mpr ⟨?_, rfl⟩
    intro d hd
    fin_cases hd <;> rfl
  have hcolumns : ((1 : Float) == Float.ofNat 1) = true := rfl
  have hrows : (Float.ofNat 1 == (1 : Float)) = true := rfl
  have hsize : (cell label).values.size = 1 := by simp [NDArray.size, cell, Dtype.itemSize]
  refine ⟨⟨by simp [cell, Dtype.itemSize], ?_⟩, hcolumns, if_pos hrows⟩
  rw [hsize]
  exact hshape

/-- A mapping with an index key in front, with bytes, numbers of every sort and a table. -/
theorem decodeJson_encode_sample :
    ∃ j, encode .full (.mapping [("1", .bytes .buffer [0, 255]),
        ("a", .list [.num Number.nan, .num (-0.0), .frame (cell (.num 1.5))])]) = .ok j ∧
      decodeJson .full j = .ok (.mapping [("1", .bytes .buffer [0, 255]),
        ("a", .list [.num Number.nan, .num (-0.0), .frame (cell (.num 1.5))])]) := by
  have hrep : (Value.mapping [("1", .bytes .buffer [0, 255]),
      ("a", .list [.num Number.nan, .num (-0.0), .frame (cell (.num 1.5))])]).Representable := by
    refine .mapping (Mapping.ordered_iff_keys.mpr (by decide +kernel)) (by decide +kernel) ?_
    intro e he
    fin_cases he
    · exact .bytes _
    · refine .list ?_
      intro v hv
      fin_cases hv
      · exact .num _
      · exact .num _
      · exact .frame (valid_cell _) (by decide) (by decide)
  obtain ⟨j, hj, hiff⟩ := decodeJson_encode_iff hrep
  refine ⟨j, hj, hiff.mpr ?_⟩
  intro x hx
  have hmem : Label.num x ∈ [Label.num 1.5] := hx
  cases List.mem_singleton.mp hmem
  rfl

/-- A table whose only row label is not a number is encoded, but it does not come back. -/
theorem decodeJson_encode_nan_label :
    ∃ j, encode .full (.frame (cell (.num Number.nan))) = .ok j ∧
      decodeJson .full j ≠ .ok (.frame (cell (.num Number.nan))) := by
  have hrep : (Value.frame (cell (.num Number.nan))).Representable :=
    .frame (valid_cell _) (by decide) (by decide)
  refine ⟨encodeTable (cell (.num Number.nan)), rfl, fun h => ?_⟩
  have hnan := labels_of_decode hrep rfl h Number.nan (List.mem_singleton.mpr rfl)
  revert hnan
  decide +kernel

end Codec
end LineRpc
