import LineRpc.Proofs.Base64.Strict
import LineRpc.Proofs.Codec.Restriction
import LineRpc.Proofs.Envelope.Request
import LineRpc.Proofs.Frame

/-!
# Grammar — which payloads are accepted

The payload of an array spells it: a tag, base64 of its octets, and a shape that holds its elements,
or an empty one for a shape of one dimension. The payload of a table spells it by the names of its
columns, the payload of its values, and row labels that fit, if there are any. Decoding accepts
exactly what is spelled, and whatever else stands under a marker is refused with an error of the
codec.

* `Json.Counted`       : values whose texts and lists can be counted
* `SpellsArray`        : the payloads of an array
* `SpellsTable`        : the payloads of a table
* `decodeArray_eq_ok`  : exactly the payloads of an array are accepted
* `decodeTable_eq_ok`  : exactly the payloads of a table are accepted
* `decode_spelled`     : both, behind their markers
-/

namespace LineRpc

/-- No text and no list in a value is so long that numbers cannot count it. No memory holds a longer
one. -/
inductive Json.Counted : Json → Prop
  | null : Counted .null
  | bool (b : Bool) : Counted (.bool b)
  | num (x : Float) : Counted (.num x)
  | str {s : String} (short : s.length < 2 ^ 53) : Counted (.str s)
  | arr {items : List Json} (short : items.length < 2 ^ 53) (each : ∀ j ∈ items, Counted j) :
      Counted (.arr items)
  | obj {entries : List (String × Json)} (each : ∀ e ∈ entries, Counted e.2) : Counted (.obj entries)

theorem Json.Counted.field {p j : Json} (h : p.Counted) {key : String} (hj : p.get? key = some j) :
    j.Counted := by
  cases h with
  | obj each =>
      exact each _ (Mapping.mem_of_get? hj)
  | _ =>
      cases hj

namespace Codec

/-! ## The grammar -/

/-- A payload spells an array: it has the tag of a kind, or any other text for `f64`; its data are
base64 of whole elements; and its shape holds them, or is empty and stands for one dimension. -/
structure SpellsArray (p : Json) (a : NDArray) : Prop where
  kind : ∃ tag, p.get? "dtype" = some (.str tag) ∧ a.dtype = Dtype.ofTag tag
  data : ∃ text, p.get? "data" = some (.str text) ∧ Base64.Spells text.toList a.octets
  whole : a.octets.length % a.dtype.itemSize = 0
  shape : ∃ shape, p.get? "shape" = some (.arr (shape.map .num)) ∧
    (shape = [] ∨ NDArray.checkShape shape a.size = .ok ()) ∧
    a.shape = if shape = [] then [Float.ofNat a.size] else shape

/-- Labels are texts, or numbers that are some. -/
def Readable (labels : List Label) : Prop :=
  ∀ x, .num x ∈ labels → x.isNaN = false

/-- What may stand in the field of the row labels. No labels at all count as a missing field. -/
inductive SpellsIndex : Option Json → Option (List Label) → Prop
  | absent : SpellsIndex none none
  | null : SpellsIndex (some .null) none
  | empty : SpellsIndex (some (.arr [])) none
  | labels {labels : List Label} (nonempty : labels ≠ []) (readable : Readable labels) :
      SpellsIndex (some (.arr (labels.map labelJson))) (some labels)

/-- A payload spells a table: its columns are texts and numbers, its data spell the values, and
columns and row labels are as many as the values have. -/
structure SpellsTable (p : Json) (f : Frame) : Prop where
  columns : ∃ names, p.get? "columns" = some (.arr (names.map labelJson)) ∧ Readable names ∧
    f.columns = names.map columnName
  data : ∃ values, p.get? "data" = some values ∧ SpellsArray values f.values
  index : SpellsIndex (p.get? "index") f.index
  width : f.columns ≠ [] → ∃ r c, f.values.shape = [r, c] ∧ Number.toNat c = f.columns.length
  height : ∀ labels, f.index = some labels → labels.length = Number.toNat f.values.rows

variable {p : Json} {caps : Capabilities}

/-! ## Fields -/

/-- A field of a payload is looked at as it is spelled. -/
theorem field?_ofJson (p : Json) (key : String) (hkey : Mapping.index? key = none) :
    Schema.field? (Value.ofJson p) key = (p.get? key).map Value.ofJson := by
  cases p with
  | arr items =>
      -- The items of a list stand under their numbers only.
      rw [ofJson_arr, Schema.field?, hkey]
      rfl
  | obj entries =>
      rw [ofJson_obj]
      exact Mapping.get?_mapValues _ _ _
  | _ =>
      rfl

/-- What has a field is an object. -/
theorem isObject_of_get? {key : String} {j : Json} (h : p.get? key = some j) :
    Schema.isObject (Value.ofJson p) = true := by
  cases p with
  | obj entries =>
      rfl
  | _ =>
      cases h

/-- A list passes exactly if it is spelled by items that pass. -/
theorem listOf_ofJson {α : Type} {spell : α → Json} {good : α → Prop}
    {check : List Step → Value → List Problem} {path : List Step} {o : Option Json}
    (hcheck : ∀ path j, check path (Value.ofJson j) = [] ↔ ∃ a, spell a = j ∧ good a) :
    Schema.listOf path check (o.map Value.ofJson) = [] ↔
      ∃ as : List α, o = some (.arr (as.map spell)) ∧ ∀ a ∈ as, good a := by
  constructor
  · intro h
    obtain ⟨j, rfl⟩ : ∃ j, o = some j := by
      cases o with
      | none =>
          cases h
      | some j =>
          exact ⟨j, rfl⟩
    cases j with
    | arr items =>
        rw [Option.map_some, ofJson_arr] at h
        -- A list has no problems only if no item has any.
        have heach : ∀ j ∈ items, ∃ a, spell a = j ∧ good a := by
          intro j hj
          obtain ⟨path, hpath⟩ := passes_of_listOf h (List.mem_map.mpr ⟨j, hj, rfl⟩)
          exact (hcheck path j).mp hpath
        choose pick hpick using heach
        refine ⟨items.pmap pick fun _ hj => hj, ?_, ?_⟩
        · simp [List.map_pmap, (hpick _ _).1]
        · intro a ha
          obtain ⟨j, hj, rfl⟩ := List.mem_pmap.mp ha
          exact (hpick j hj).2
    | _ =>
        cases h
  · rintro ⟨as, rfl, hgood⟩
    rw [Option.map_some, ofJson_arr, List.map_map]
    refine listOf_eq_nil ?_
    intro v hv path
    obtain ⟨a, ha, rfl⟩ := List.mem_map.mp hv
    exact (hcheck path _).mpr ⟨a, rfl, hgood a ha⟩

theorem number_ofJson (path : List Step) (j : Json) :
    Schema.number path (Value.ofJson j) = [] ↔ ∃ x, Json.num x = j ∧ x.isNaN = false := by
  cases j with
  | num x =>
      simp [Value.ofJson, Schema.number]
  | _ =>
      simp [Value.ofJson, Schema.number]

/-- The check for a label accepts texts and numbers, all but NaN. -/
theorem label_ofJson (path : List Step) (j : Json) :
    Schema.label path (Value.ofJson j) = [] ↔
      ∃ l, labelJson l = j ∧ ∀ x, l = .num x → x.isNaN = false := by
  constructor
  · intro h
    have hreads := readsLabel_of_label h
    cases j with
    | str s =>
        refine ⟨.str s, rfl, ?_⟩
        intro x hx
        cases hx
    | num x =>
        exact ⟨.num x, rfl, readsLabel_ofLabel.mp hreads⟩
    | _ =>
        cases hreads
  · rintro ⟨l, rfl, hl⟩
    rw [ofJson_labelJson]
    exact label_eq_nil (readsLabel_ofLabel.mpr hl)

/-- Numbers in a field. -/
theorem numbers_ofJson {path : List Step} {o : Option Json} :
    Schema.listOf path Schema.number (o.map Value.ofJson) = [] ↔
      ∃ xs : List Float, o = some (.arr (xs.map .num)) ∧ ∀ x ∈ xs, x.isNaN = false :=
  listOf_ofJson number_ofJson

/-- Labels in a field. -/
theorem labels_ofJson {path : List Step} {o : Option Json} :
    Schema.listOf path Schema.label (o.map Value.ofJson) = [] ↔
      ∃ labels, o = some (.arr (labels.map labelJson)) ∧ Readable labels := by
  rw [listOf_ofJson label_ofJson]
  constructor
  · rintro ⟨labels, ho, hl⟩
    exact ⟨labels, ho, fun x hx => hl _ hx x rfl⟩
  · rintro ⟨labels, ho, hl⟩
    refine ⟨labels, ho, ?_⟩
    rintro l hmem x rfl
    exact hl x hmem

theorem ofJson_labels (labels : List Label) :
    Value.ofJson (.arr (labels.map labelJson)) = .list (labels.map Value.ofLabel) := by
  rw [ofJson_arr, List.map_map]
  congr 2
  funext l
  exact ofJson_labelJson l

/-! ## Arrays -/

/-- What the payload of an array has in its fields, before any of it is looked at more closely. -/
structure HasArrayFields (p : Json) (q : ArrayPayload) : Prop where
  dtype : p.get? "dtype" = some (.str q.dtype)
  data : p.get? "data" = some (.str q.data)
  shape : p.get? "shape" = some (.arr (q.shape.map .num))
  numbers : ∀ d ∈ q.shape, d.isNaN = false

/-- Nothing is wrong with an array payload exactly when its three fields stand there. -/
theorem arrayProblems_eq_nil :
    arrayProblems (Value.ofJson p) = [] ↔ ∃ q, HasArrayFields p q := by
  have hdtype := field?_ofJson p "dtype" (by decide +kernel)
  have hdata := field?_ofJson p "data" (by decide +kernel)
  have hshape := field?_ofJson p "shape" (by decide +kernel)
  rw [arrayProblems, hdtype, hdata, hshape, Schema.object]
  split
  · rw [List.append_eq_nil_iff, List.append_eq_nil_iff, Request.string_eq_nil,
      Request.string_eq_nil, numbers_ofJson]
    simp only [Request.map_ofJson_str]
    constructor
    · rintro ⟨⟨⟨data, hd⟩, tag, ht⟩, shape, hs, hnan⟩
      exact ⟨⟨tag, shape, data⟩, ht, hd, hs, hnan⟩
    · rintro ⟨q, h⟩
      exact ⟨⟨⟨_, h.data⟩, _, h.dtype⟩, _, h.shape, h.numbers⟩
  · -- What is no object has no field at all.
    rename_i hobject
    refine iff_of_false (List.cons_ne_nil _ _) ?_
    rintro ⟨q, h⟩
    exact hobject (isObject_of_get? h.data)

/-- The parts of the payload of an array are what it has in its fields. -/
theorem arrayPayload_eq_ok {q : ArrayPayload} :
    arrayPayload (Value.ofJson p) = .ok q ↔ HasArrayFields p q := by
  have hspelled {q : ArrayPayload} (h : HasArrayFields p q) :
      arrayPayload (Value.ofJson p) = .ok q := by
    have hshape : (some (.arr (q.shape.map .num)) : Option Json).map Value.ofJson =
        some (.list (q.shape.map .num)) := by
      rw [Option.map_some, ofJson_arr, List.map_map]
      rfl
    rw [arrayPayload, arrayProblems_eq_nil.mpr ⟨q, h⟩,
      field?_ofJson p "dtype" (by decide +kernel), h.dtype,
      field?_ofJson p "data" (by decide +kernel), h.data,
      field?_ofJson p "shape" (by decide +kernel), h.shape, hshape, numbersOf_map]
    rfl
  constructor
  · intro h
    cases hproblems : arrayProblems (Value.ofJson p) with
    | cons problem rest =>
        rw [arrayPayload, hproblems] at h
        cases h
    | nil =>
        -- The payload that was spelled is the one that was read.
        obtain ⟨q', h'⟩ := arrayProblems_eq_nil.mp hproblems
        cases (hspelled h').symm.trans h
        exact h'
  · exact hspelled

/-- The array of whole elements that a shape holds; an empty shape stands for one dimension. -/
theorem fromBytes_eq_ok {d : Dtype} {bs : Octets} {shape : List Float} {a : NDArray}
    (hn : bs.length < 2 ^ 53) :
    NDArray.fromBytes d bs shape = .ok a ↔
      a.dtype = d ∧ a.octets = bs ∧ a.octets.length % a.dtype.itemSize = 0 ∧
        (shape = [] ∨ NDArray.checkShape shape a.size = .ok ()) ∧
          a.shape = if shape = [] then [Float.ofNat a.size] else shape := by
  have hsize : bs.length / d.itemSize < 2 ^ 53 := lt_of_le_of_lt (Nat.div_le_self _ _) hn
  rw [NDArray.fromBytes]
  split
  · -- Octets that do not make whole elements are no array.
    rename_i hpartial
    constructor
    · intro h
      cases h
    · rintro ⟨rfl, rfl, hwhole, -⟩
      exact absurd hwhole hpartial
  · rename_i hwhole
    rw [not_not] at hwhole
    rw [NDArray.ofOctets_eq_ok]
    rcases a with ⟨d', s, bs'⟩
    rw [NDArray.mk.injEq]
    by_cases hs : shape = []
    · simp only [hs, List.isEmpty_nil, if_true, true_or, true_and]
      constructor
      · rintro ⟨-, rfl, rfl, rfl⟩
        exact ⟨rfl, rfl, hwhole, rfl⟩
      · rintro ⟨rfl, rfl, -, hone⟩
        exact ⟨NDArray.checkShape_ofNat hsize, rfl, hone.symm, rfl⟩
    · have hempty : shape.isEmpty = false := List.isEmpty_eq_false_iff.mpr hs
      simp only [hs, hempty, Bool.false_eq_true, if_false, false_or]
      constructor
      · rintro ⟨hcheck, rfl, rfl, rfl⟩
        exact ⟨rfl, rfl, hwhole, hcheck, rfl⟩
      · rintro ⟨rfl, rfl, -, hcheck, rfl⟩
        exact ⟨hcheck, rfl, rfl, rfl⟩

/-- Fewer octets are spelled than numbers can count. -/
theorem length_of_counted (hp : p.Counted) {key text : String} {bs : Octets}
    (htext : p.get? key = some (.str text)) (hbs : Base64.Spells text.toList bs) :
    bs.length < 2 ^ 53 := by
  cases hp.field htext with
  | str short =>
      refine lt_of_le_of_lt hbs.length_le ?_
      rwa [String.length_toList]

/-- Exactly the payloads that spell an array are accepted, each as the array that it spells. -/
theorem decodeArray_eq_ok (hc : caps.arrays = true) (hp : p.Counted) {a : NDArray} :
    decodeArray caps (Value.ofJson p) = .ok a ↔ SpellsArray p a := by
  rw [decodeArray_eq, if_pos hc, readable_of_obstacle? (obstacle?_ofJson p _)]
  constructor
  · intro h
    obtain ⟨-, -, h⟩ := ok_of_bind h
    obtain ⟨q, hq, h⟩ := ok_of_bind h
    obtain ⟨bs, hbs, h⟩ := ok_of_bind h
    have hq := arrayPayload_eq_ok.mp hq
    have hbs := octets_eq_ok.mp hbs
    have hroom := length_of_counted hp hq.data hbs
    obtain ⟨hd, rfl, hwhole, hshape⟩ := (fromBytes_eq_ok hroom).mp (ok_of_mapError h)
    exact ⟨⟨_, hq.dtype, hd⟩, ⟨_, hq.data, hbs⟩, hwhole, ⟨_, hq.shape, hshape⟩⟩
  · rintro ⟨⟨tag, ht, hd⟩, ⟨text, htext, hbs⟩, hwhole, shape, hs, hshape⟩
    -- A shape that passes its check consists of numbers.
    have hnan : ∀ d ∈ shape, d.isNaN = false := by
      intro d hmem
      rcases hshape.1 with rfl | hcheck
      · cases hmem
      · exact NDArray.isNaN_of_isDimension ((NDArray.checkShape_eq_ok.mp hcheck).1 d hmem)
    have hpayload : arrayPayload (Value.ofJson p) = .ok ⟨tag, shape, text⟩ :=
      arrayPayload_eq_ok.mpr ⟨ht, htext, hs, hnan⟩
    have hbuilt : NDArray.fromBytes (Dtype.ofTag tag) a.octets shape = .ok a :=
      (fromBytes_eq_ok (length_of_counted hp htext hbs)).mpr ⟨hd, rfl, hwhole, hshape⟩
    rw [hpayload]
    simp only [Except.bind, octets_eq_ok.mpr hbs, hbuilt]
    rfl

/-! ## Tables -/

/-- What the payload of a table has in its fields, before the data are looked at. -/
structure HasTableFields (p : Json) (names : List Label) (values : Json)
    (index : Option (List Label)) : Prop where
  columns : p.get? "columns" = some (.arr (names.map labelJson))
  readable : Readable names
  data : p.get? "data" = some values
  index : SpellsIndex (p.get? "index") index

/-- The check for an index accepts an absent one, null and a list of labels. -/
theorem index_ofJson {path : List Step} {o : Option Json} :
    Schema.optional (Schema.labelsOrNull path) (o.map Value.ofJson) = [] ↔
      ∃ index, SpellsIndex o index := by
  have hlabels (items : List Json) : Schema.labelsOrNull path (some (Value.ofJson (.arr items))) =
      Schema.listOf path Schema.label ((some (.arr items)).map Value.ofJson) := by
    rw [Option.map_some, ofJson_arr]
    rfl
  constructor
  · intro h
    cases o with
    | none =>
        exact ⟨none, .absent⟩
    | some j =>
        cases j with
        | null =>
            exact ⟨none, .null⟩
        | arr items =>
            rw [Option.map_some, Schema.optional, hlabels] at h
            obtain ⟨labels, hitems, hreadable⟩ := labels_ofJson.mp h
            rw [hitems]
            -- No labels are a list too, but they count as none.
            by_cases hnil : labels = []
            · rw [hnil]
              exact ⟨none, .empty⟩
            · exact ⟨some labels, .labels hnil hreadable⟩
        | _ =>
            cases h
  · rintro ⟨index, h⟩
    cases h with
    | absent | null | empty =>
        rfl
    | labels nonempty readable =>
        rw [Option.map_some, Schema.optional, hlabels]
        exact labels_ofJson.mpr ⟨_, rfl, readable⟩

/-- An accepted index is read as the labels it spells; an empty one counts as none. -/
theorem labelsOf?_ofJson {o : Option Json} {index : Option (List Label)} (h : SpellsIndex o index) :
    (labelsOf? (o.map Value.ofJson)).filter (fun labels => !labels.isEmpty) = index := by
  cases h with
  | absent | null | empty =>
      rfl
  | labels nonempty readable =>
      rw [Option.map_some, ofJson_labels, labelsOf?, labelsOf_ofLabel]
      simp [Option.filter, nonempty]

theorem has_ofJson (p : Json) (key : String) (hkey : Mapping.index? key = none) :
    Schema.has (Value.ofJson p) key = (p.get? key).isSome := by
  have hreadable : (Value.ofJson p).unreadable? = none := by
    cases p <;> rfl
  rw [Schema.has, field?_ofJson p key hkey, hreadable, Option.isSome_map]
  simp

/-- Nothing is wrong with a table payload exactly when its fields stand there. -/
theorem tableProblems_eq_nil :
    tableProblems (Value.ofJson p) = [] ↔ ∃ names values index, HasTableFields p names values index := by
  have hcolumns := field?_ofJson p "columns" (by decide +kernel)
  have hdata := has_ofJson p "data" (by decide +kernel)
  have hindex := field?_ofJson p "index" (by decide +kernel)
  have hpresent : Schema.present [.key "data"] (p.get? "data").isSome = [] ↔
      ∃ values, p.get? "data" = some values := by
    rw [← Option.isSome_iff_exists, Schema.present]
    split <;> simp_all
  rw [tableProblems, hcolumns, hdata, hindex, Schema.object]
  split
  · rw [List.append_eq_nil_iff, List.append_eq_nil_iff, labels_ofJson, hpresent, index_ofJson]
    constructor
    · rintro ⟨⟨⟨names, hn, hreadable⟩, values, hv⟩, index, hi⟩
      exact ⟨names, values, index, hn, hreadable, hv, hi⟩
    · rintro ⟨names, values, index, h⟩
      exact ⟨⟨⟨names, h.columns, h.readable⟩, values, h.data⟩, index, h.index⟩
  · rename_i hobject
    refine iff_of_false (List.cons_ne_nil _ _) ?_
    rintro ⟨names, values, index, h⟩
    exact hobject (isObject_of_get? h.data)

/-- The parts of the payload of a table are what it has in its fields. -/
theorem tablePayload_of_fields {names : List Label} {values : Json} {index : Option (List Label)}
    (h : HasTableFields p names values index) :
    ∃ labels, tablePayload (Value.ofJson p) = .ok ⟨names, Value.ofJson values, labels⟩ ∧
      labels.filter (fun labels => !labels.isEmpty) = index := by
  refine ⟨_, ?_, labelsOf?_ofJson h.index⟩
  have hcolumns : labelsOf? ((p.get? "columns").map Value.ofJson) = some names := by
    rw [h.columns, Option.map_some, ofJson_labels, labelsOf?, labelsOf_ofLabel]
  rw [tablePayload, tableProblems_eq_nil.mpr ⟨names, values, index, h⟩,
    field?_ofJson p "columns" (by decide +kernel), hcolumns,
    field?_ofJson p "data" (by decide +kernel), h.data,
    field?_ofJson p "index" (by decide +kernel)]
  rfl

/-- What was read as a table payload spells its columns, data and index. -/
theorem fields_of_tablePayload {q : TablePayload} (h : tablePayload (Value.ofJson p) = .ok q) :
    ∃ values index, HasTableFields p q.columns values index ∧ q.data = Value.ofJson values ∧
      q.index.filter (fun labels => !labels.isEmpty) = index := by
  cases hproblems : tableProblems (Value.ofJson p) with
  | cons problem rest =>
      rw [tablePayload, hproblems] at h
      cases h
  | nil =>
      obtain ⟨names, values, index, hfields⟩ := tableProblems_eq_nil.mp hproblems
      obtain ⟨labels, hpayload, hindex⟩ := tablePayload_of_fields hfields
      cases hpayload.symm.trans h
      exact ⟨values, index, hfields, rfl, hindex⟩

/-- As many as a list in a field holds can be counted. -/
theorem length_lt_of_counted (hp : p.Counted) {key : String} {labels : List Label}
    (h : p.get? key = some (.arr (labels.map labelJson))) : labels.length < 2 ^ 53 := by
  cases hp.field h with
  | arr short each =>
      rwa [List.length_map] at short

/-- The index of a counted payload is itself of countable length. -/
theorem labelsFit_of_counted (hp : p.Counted) {key : String} {index : Option (List Label)}
    (h : SpellsIndex (p.get? key) index) : LabelsFit index := by
  rintro labels rfl
  generalize ho : p.get? key = o at h
  cases h with
  | labels nonempty readable =>
      exact length_lt_of_counted hp ho

/-- Exactly the payloads that spell a table are accepted, each as the table that it spells. -/
theorem decodeTable_eq_ok (ha : caps.arrays = true) (ht : caps.tables = true) (hp : p.Counted)
    {f : Frame} : decodeTable caps (Value.ofJson p) = .ok f ↔ SpellsTable p f := by
  rw [decodeTable_eq, if_pos ht, readable_of_obstacle? (obstacle?_ofJson p _),
    readable_of_obstacle? (obstacle?_ofJson p _)]
  constructor
  · intro h
    -- Reading, checking and building come one after the other, and each of them passed.
    obtain ⟨-, -, h⟩ := ok_of_bind h
    obtain ⟨q, hq, h⟩ := ok_of_bind h
    obtain ⟨-, -, h⟩ := ok_of_bind h
    obtain ⟨values, hvalues, h⟩ := ok_of_bind h
    obtain ⟨j, index, hfields, hj, hindex⟩ := fields_of_tablePayload hq
    rw [hindex] at h
    rw [hj] at hvalues
    obtain ⟨hcolumns, hlabels, rfl⟩ := Frame.make_eq_ok.mp (ok_of_mapError h)
    have hv := (valid_of_decodeArray hvalues).2.1
    have hwidth : (q.columns.map columnName).length < 2 ^ 53 := by
      rw [List.length_map]
      exact length_lt_of_counted hp hfields.columns
    exact {
      columns := ⟨_, hfields.columns, hfields.readable, rfl⟩
      data := ⟨j, hfields.data, (decodeArray_eq_ok ha (hp.field hfields.data)).mp hvalues⟩
      index := hfields.index
      width := (Frame.columnsFit_iff hv hwidth).mp hcolumns
      height := (checkLabels_iff hv.amount_rows (labelsFit_of_counted hp hfields.index)).mp hlabels }
  · rintro ⟨⟨names, hn, hreadable, hnames⟩, ⟨j, hj, hvalues⟩, hindex, hwidth, hheight⟩
    rcases f with ⟨columns, values, index⟩
    subst hnames
    obtain ⟨labels, hpayload, hlabels⟩ := tablePayload_of_fields ⟨hn, hreadable, hj, hindex⟩
    have hdata : decodeArray caps (Value.ofJson j) = .ok values :=
      (decodeArray_eq_ok ha (hp.field hj)).mpr hvalues
    have hv := (valid_of_decodeArray hdata).2.1
    have hshort : (names.map columnName).length < 2 ^ 53 := by
      rw [List.length_map]
      exact length_lt_of_counted hp hn
    have hmake : Frame.make (names.map columnName) values index =
        .ok ⟨names.map columnName, values, index⟩ :=
      Frame.make_eq_ok.mpr ⟨(Frame.columnsFit_iff hv hshort).mpr hwidth,
        (checkLabels_iff hv.amount_rows (labelsFit_of_counted hp hindex)).mpr hheight, rfl⟩
    rw [hpayload]
    simp only [Except.bind, hdata, hlabels, hmake]
    rfl

/-! ## Behind the markers -/

/-- What stands behind the marker of an array or of a table is accepted exactly if it spells one,
and is then what it spells. Whatever JSON is refused is refused with an error of the codec. -/
theorem decode_spelled {p : Json} (hp : p.Counted) :
    (∀ v, decodeJson .full (.obj [(Marker.array, p)]) = .ok v ↔
      ∃ a, SpellsArray p a ∧ v = .ndarray a) ∧
    (∀ v, decodeJson .full (.obj [(Marker.table, p)]) = .ok v ↔
      ∃ f, SpellsTable p f ∧ v = .frame f) ∧
    ∀ j e, decodeJson .full j = .error e → e.errorClass = .codec := by
  have hmarked (marker : String) : decodeJson .full (.obj [(marker, p)]) =
      decode .full (.mapping [(marker, Value.ofJson p)]) := by
    rw [decodeJson_obj]
    rfl
  have harrays : Capabilities.full.arrays = true := rfl
  have htables : Capabilities.full.tables = true := rfl
  refine ⟨?_, ?_, ?_⟩
  · intro v
    rw [hmarked, decode_array, map_eq_ok]
    simp only [decodeArray_eq_ok harrays hp, eq_comm]
  · intro v
    rw [hmarked, decode_table, map_eq_ok]
    simp only [decodeTable_eq_ok harrays htables hp, eq_comm]
  · intro j e h
    -- With all capabilities no kind is missing, so only a payload can be to blame.
    rcases blames_of_decode h with hcodec | ⟨-, hmissing | hmissing⟩
    · exact hcodec.codec
    · cases hmissing
    · cases hmissing

/-- Two columns over two rows of octets, the one named by a number, without labels of the rows. -/
def twoColumns : Json :=
  .obj [("columns", .arr [.str "a", .num 1]), ("index", .arr []),
    ("data", .obj [("dtype", .str "u8"), ("shape", .arr [.num 2, .num 2]), ("data", .str "AQIDBA==")])]

/-- A payload of two columns, one of them named like an index, is accepted and spelled. -/
theorem twoColumns_accepted : twoColumns.Counted ∧
    decodeJson .full (.obj [(Marker.table, twoColumns)]) =
      .ok (.frame ⟨["a", "1"], ⟨.u8, [2, 2], [1, 2, 3, 4]⟩, none⟩) ∧
    SpellsTable twoColumns ⟨["a", "1"], ⟨.u8, [2, 2], [1, 2, 3, 4]⟩, none⟩ := by
  have hname : Json.Counted (.str "a") := .str (by decide)
  have hnames : Json.Counted (.arr [.str "a", .num 1]) :=
    .arr (by decide) (by simp [hname, Json.Counted.num])
  have hindex : Json.Counted (.arr []) := .arr (by decide) (by simp)
  have htag : Json.Counted (.str "u8") := .str (by decide)
  have hshape : Json.Counted (.arr [.num 2, .num 2]) :=
    .arr (by decide) (by simp [Json.Counted.num])
  have htext : Json.Counted (.str "AQIDBA==") := .str (by decide)
  have hdata : Json.Counted (.obj [("dtype", .str "u8"), ("shape", .arr [.num 2, .num 2]),
      ("data", .str "AQIDBA==")]) :=
    .obj (by simp [htag, hshape, htext])
  have hcounted : twoColumns.Counted := .obj (by simp [hnames, hindex, hdata])
  have hdecoded : decodeJson .full (.obj [(Marker.table, twoColumns)]) =
      .ok (.frame ⟨["a", "1"], ⟨.u8, [2, 2], [1, 2, 3, 4]⟩, none⟩) := by
    rfl
  obtain ⟨f, hf, hv⟩ := ((decode_spelled hcounted).2.1 _).mp hdecoded
  cases hv
  exact ⟨hcounted, hdecoded, hf⟩

end Codec
end LineRpc
