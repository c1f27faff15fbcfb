import LineRpc.Proofs.Codec.RoundTrip
import LineRpc.Proofs.Json.ReadBack

/-!
# Received — arrays and tables after they were a text

A text does not say everything of a number. A dimension that was the negative zero is received as
zero, and an array without dimensions has one when it is built again, so what is received differs
from what was sent, but it is still an array, and columns and row labels still fit it. Only a row
label that is not finite gets lost: the text has a null in its place, and the table is refused.

* `NDArray.received`, `Frame.received` : an array and a table as they are received
* `decodeArray_received`               : every array is received
* `decodeTable_received`               : a table with finite labels is received
* `decodeTable_refused`                : a table with another label is refused
-/

namespace LineRpc

/-- An array as it is received. -/
def NDArray.received (a : NDArray) : NDArray where
  dtype := a.dtype
  shape := if a.shape = [] then [1] else a.shape.map Number.unsignedZero
  octets := a.octets

/-- A row label as it is received. -/
def Label.received : Label → Label
  | .str s => .str s
  | .num x => .num (Number.unsignedZero x)

/-- Row labels as they are received; an empty list of them is received as none. -/
def receivedIndex (index : Option (List Label)) : Option (List Label) :=
  (index.map fun labels => labels.map Label.received).filter fun labels => !labels.isEmpty

/-- A table as it is received. -/
def Frame.received (f : Frame) : Frame where
  columns := f.columns
  values := f.values.received
  index := receivedIndex f.index

namespace Codec

variable {caps : Capabilities}

/-! ## Arrays -/

/-- The text of the payload of an array says all of it but the signs of zeros. -/
theorem settle_arrayJson_eq {a : NDArray} (h : ∀ d ∈ a.shape, d.isFinite = true) :
    (arrayJson a).settle = arrayJson ⟨a.dtype, a.shape.map Number.unsignedZero, a.octets⟩ := by
  have hshape : Json.settleItems (a.shape.map .num) =
      (a.shape.map Number.unsignedZero).map .num := by
    rw [Json.settleItems_eq, List.map_map, List.map_map]
    refine List.map_congr_left ?_
    intro d hd
    exact Json.settleNumber_of_isFinite (h d hd)
  rw [arrayJson, Json.settle_obj (ordered_arrayFields _ _ _)]
  simp only [Mapping.mapValues_cons, Mapping.mapValues_nil, Json.settle, hshape, arrayJson]

/-- A valid array is accepted with its zeros unsigned. -/
theorem fromBytes_received {a : NDArray} (h : a.Valid) :
    NDArray.fromBytes a.dtype a.octets (a.shape.map Number.unsignedZero) = .ok a.received := by
  by_cases hs : a.shape = []
  · -- An empty shape is taken for a missing one.
    have hbuild := NDArray.fromBytes_of_scalar h hs
    rw [NDArray.received, if_pos hs, hs]
    exact hbuild
  · rw [NDArray.received, if_neg hs]
    refine NDArray.fromBytes_of_checkShape h.whole (NDArray.checkShape_unsignedZero h.shape) ?_
    rw [Ne, List.map_eq_nil_iff]
    exact hs

/-- Every array is received. -/
theorem decodeArray_received {a : NDArray} (hc : caps.arrays = true) (h : a.Valid) :
    decodeArray caps (Value.ofJson (arrayJson a).settle) = .ok a.received := by
  have hdims : ∀ d ∈ a.shape, d.isFinite = true := fun d hd =>
    NDArray.isFinite_of_isDimension (h.isDimension d hd)
  rw [settle_arrayJson_eq hdims, ofJson_arrayJson, decodeArray_value hc, fromBytes_received h]
  · rfl
  · intro d hd
    rcases List.mem_map.mp hd with ⟨d', hd', rfl⟩
    exact Number.isNaN_unsignedZero (hdims d' hd')

/-! ## Parts of tables -/

/-- Columns that fit an array fit it when it is received. -/
theorem columnsFit_received {columns : List String} {a : NDArray}
    (h : Frame.columnsFit columns a = true) : Frame.columnsFit columns a.received = true := by
  rcases a with ⟨d, shape, bs⟩
  cases columns with
  | nil =>
      rfl
  | cons c columns =>
      -- With columns there are two dimensions, and the second one counts the columns.
      match shape, h with
      | [r, d], h =>
          change (Number.unsignedZero d == Float.ofNat (c :: columns).length) = true
          rw [Number.beq_unsignedZero]
          exact h

/-- As many labels as an array has rows are as many when both are received. -/
theorem checkLabels_received {a : NDArray} {index : Option (List Label)}
    (h : checkLabels a.rows index = .ok ()) (hn : (index.getD []).length < 2 ^ 53) :
    checkLabels a.received.rows (receivedIndex index) = .ok () := by
  cases index with
  | none =>
      rfl
  | some labels =>
      by_cases hl : labels = []
      · rw [hl]
        rfl
      · -- Labels are as many as the first dimension says, so there is a dimension, and it is kept.
        have hindex : receivedIndex (some labels) = some (labels.map Label.received) := by
          simp [receivedIndex, Option.filter, hl]
        have hcount : (Float.ofNat labels.length == a.rows) = true := by
          by_contra hne
          rw [checkLabels, if_neg hne] at h
          cases h
        have hdims : a.shape ≠ [] := by
          intro hs
          rw [NDArray.rows, hs] at hcount
          exact hl (List.eq_nil_of_length_eq_zero (Number.eq_zero_of_beq hn hcount))
        have hrows : a.received.rows = Number.unsignedZero a.rows := by
          rcases List.exists_cons_of_ne_nil hdims with ⟨d, shape, hshape⟩
          rw [NDArray.rows, NDArray.received, if_neg hdims, NDArray.rows, hshape]
          rfl
        rw [hindex, hrows, checkLabels, List.length_map, Number.beq_unsignedZero_right]
        exact if_pos hcount

/-- A table is built again from what is received of its parts. -/
theorem make_received {f : Frame} (h : f.Valid) (hn : (f.index.getD []).length < 2 ^ 53) :
    Frame.make f.columns f.values.received (receivedIndex f.index) = .ok f.received := by
  rw [Frame.make, columnsFit_received h.columns, checkLabels_received h.index hn]
  rfl

/-! ## Row labels -/

/-- What is found in the place of a row label. -/
def labelValue (l : Label) : Value :=
  Value.ofJson (labelJson l).settle

/-- A finite label arrives with its zero unsigned. -/
theorem labelValue_finite {l : Label} (h : ∀ x, l = .num x → x.isFinite = true) :
    labelValue l = Value.ofLabel l.received := by
  cases l with
  | str s =>
      rfl
  | num x =>
      rw [labelValue, labelJson, Json.settle, Json.settleNumber_of_isFinite (h x rfl)]
      rfl

theorem readsLabel_received {l : Label} (h : ∀ x, l = .num x → x.isFinite = true) :
    readsLabel (Value.ofLabel l.received) = true := by
  refine readsLabel_ofLabel.mpr ?_
  intro y hy
  cases l with
  | str s =>
      cases hy
  | num x =>
      cases hy
      exact Number.isNaN_unsignedZero (h x rfl)

/-- An infinite label arrives as null, which is no label. -/
theorem readsLabel_infinite {x : Float} (h : x.isFinite = false) :
    readsLabel (labelValue (.num x)) = false := by
  rw [labelValue, labelJson, Json.settle, Json.settleNumber, h]
  rfl

/-! ## Tables -/

theorem ofJson_settle_tableJson (f : Frame) :
    Value.ofJson (tableJson f).settle =
      tableValue f.columns (Value.ofJson (arrayJson f.values).settle)
        (f.index.map fun labels => labels.map labelValue) := by
  have hcolumns : Json.settle (.arr (f.columns.map .str)) = .arr (f.columns.map .str) := by
    refine Json.settle_arr_fixed ?_
    intro j hj
    rcases List.mem_map.mp hj with ⟨s, -, rfl⟩
    rfl
  have hindex : Value.ofJson
      (Json.ofOption (fun labels => .arr (labels.map labelJson)) f.index).settle =
        indexValue (f.index.map fun labels => labels.map labelValue) := by
    cases f.index with
    | none =>
        rfl
    | some labels =>
        change Value.list (Value.ofJsonList (Json.settleItems (labels.map labelJson))) = .list _
        rw [Json.settleItems_eq, ofJsonList_eq, List.map_map, List.map_map]
        rfl
  -- The keys and names are texts, so only the array and the labels are settled.
  rw [tableJson, Json.settle_obj (ordered_tableFields _ _ _)]
  simp only [Mapping.mapValues_cons, Mapping.mapValues_nil, Value.ofJson, Value.ofJsonEntries,
    hcolumns, hindex, ofJsonList_eq, List.map_map, tableValue]
  rfl

/-- A table is received if its row labels are finite or texts. -/
theorem decodeTable_received {f : Frame} (ha : caps.arrays = true) (ht : caps.tables = true)
    (h : f.Valid) (hn : (f.index.getD []).length < 2 ^ 53)
    (hl : ∀ x, .num x ∈ f.index.getD [] → x.isFinite = true) :
    decodeTable caps (Value.ofJson (tableJson f).settle) = .ok f.received := by
  -- Finite labels come back as they were, but for the sign of zero.
  have hlabels : (f.index.map fun labels => labels.map labelValue) =
      f.index.map fun labels => (labels.map Label.received).map Value.ofLabel := by
    cases hf : f.index with
    | none =>
        rfl
    | some labels =>
        rw [hf] at hl
        rw [Option.map_some, Option.map_some, List.map_map]
        congr 1
        refine List.map_congr_left fun l hmem => labelValue_finite ?_
        rintro x rfl
        exact hl x hmem
  have hindex : ((f.index.map fun labels => (labels.map Label.received).map Value.ofLabel).map
      labelsOf).filter (fun labels => !labels.isEmpty) = receivedIndex f.index := by
    cases f.index with
    | none =>
        rfl
    | some labels =>
        rw [Option.map_some, Option.map_some, labelsOf_ofLabel]
        rfl
  rw [ofJson_settle_tableJson, hlabels, decodeTable_value ht, decodeArray_received ha h.values,
    hindex]
  · change (Frame.make f.columns f.values.received (receivedIndex f.index)).mapError _ = _
    rw [make_received h hn]
    rfl
  · intro vs hvs v hv
    rcases Option.map_eq_some_iff.mp hvs with ⟨labels, hf, rfl⟩
    rw [List.map_map] at hv
    rcases List.mem_map.mp hv with ⟨l, hmem, rfl⟩
    refine readsLabel_received ?_
    rintro x rfl
    apply hl
    rw [hf]
    exact hmem

/-- A table with a row label that is neither finite nor a text is refused. -/
theorem decodeTable_refused {f g : Frame} {x : Float} (hx : .num x ∈ f.index.getD [])
    (h : x.isFinite = false) : decodeTable caps (Value.ofJson (tableJson f).settle) ≠ .ok g := by
  cases hf : f.index with
  | none =>
      rw [hf] at hx
      cases hx
  | some labels =>
      rw [hf] at hx
      rw [ofJson_settle_tableJson, hf]
      exact decodeTable_unlabelled (List.mem_map.mpr ⟨_, hx, rfl⟩) (readsLabel_infinite h) g

end Codec
end LineRpc
