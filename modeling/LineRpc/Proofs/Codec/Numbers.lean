import LineRpc.Proofs.Codec.Received

/-!
# Numbers — values that a line says exactly

A line spells every finite number apart from the negative zero. The wire value of a representable
value in which there are no other numbers is read back from its line unchanged. Dimensions and row
labels are numbers too; the elements of arrays are not spelled as numbers but as octets.

* `Number.Plain`            : a number that a line says exactly
* `Value.numbers`           : the numbers that a representable value spells
* `settle_encode`           : the wire value of such a value is read back unchanged
-/

namespace LineRpc

/-- A number that a line says exactly. -/
structure Number.Plain (x : Float) : Prop where
  finite : x.isFinite = true
  signed : Number.isNegativeZero x = false

/-- The numbers among labels. -/
def labelNumbers (labels : List Label) : List Float :=
  labels.filterMap fun
    | .str _ => none
    | .num x => some x

mutual

/-- The numbers that a representable value spells: numbers, dimensions, and row labels. -/
def Value.numbers : Value → List Float
  | .num x => [x]
  | .ndarray a => a.shape
  | .frame f => f.values.shape ++ labelNumbers (f.index.getD [])
  | .list items => itemNumbers items
  | .mapping entries => entryNumbers entries
  | _ => []

/-- The numbers of items. -/
def itemNumbers : List Value → List Float
  | [] => []
  | v :: vs => Value.numbers v ++ itemNumbers vs

/-- The numbers of entries. -/
def entryNumbers : List (String × Value) → List Float
  | [] => []
  | (_, v) :: es => Value.numbers v ++ entryNumbers es

end

/-- A value in which every number is plain. -/
def Value.Plain (v : Value) : Prop :=
  ∀ x ∈ v.numbers, Number.Plain x

namespace Codec

theorem mem_itemNumbers {vs : List Value} {x : Float} :
    x ∈ itemNumbers vs ↔ ∃ v ∈ vs, x ∈ v.numbers := by
  induction vs with
  | nil =>
      simp [itemNumbers]
  | cons v vs ih =>
      rw [itemNumbers, List.mem_append, ih]
      simp

theorem mem_entryNumbers {es : List (String × Value)} {x : Float} :
    x ∈ entryNumbers es ↔ ∃ e ∈ es, x ∈ e.2.numbers := by
  induction es with
  | nil =>
      simp [entryNumbers]
  | cons e es ih =>
      rcases e with ⟨k, v⟩
      rw [entryNumbers, List.mem_append, ih, List.exists_mem_cons_iff]

theorem mem_labelNumbers {labels : List Label} {x : Float} :
    x ∈ labelNumbers labels ↔ Label.num x ∈ labels := by
  rw [labelNumbers, List.mem_filterMap]
  constructor
  · rintro ⟨l, hl, hx⟩
    cases l with
    | str s =>
        cases hx
    | num y =>
        cases hx
        exact hl
  · intro h
    exact ⟨.num x, h, rfl⟩

theorem Plain.of_item {items : List Value} (h : (Value.list items).Plain) {v : Value}
    (hv : v ∈ items) : v.Plain :=
  fun x hx => h x (mem_itemNumbers.mpr ⟨v, hv, hx⟩)

theorem Plain.of_entry {entries : List (String × Value)} (h : (Value.mapping entries).Plain)
    {e : String × Value} (he : e ∈ entries) : e.2.Plain :=
  fun x hx => h x (mem_entryNumbers.mpr ⟨e, he, hx⟩)

/-- The row labels that are numbers are among the numbers. -/
theorem numbers_of_label {v : Value} (h : v.Representable) {x : Float}
    (hx : .num x ∈ v.writtenLabels .full) : x ∈ v.numbers := by
  induction h with
  | frame valid dims rows =>
      exact List.mem_append_right _ (mem_labelNumbers.mpr hx)
  | list each ih =>
      rcases mem_itemLabels.mp hx with ⟨v, hv, hxv⟩
      exact mem_itemNumbers.mpr ⟨v, hv, ih v hv hxv⟩
  | mapping ordered unmarked each ih =>
      obtain ⟨js, hjs⟩ := exists_encodeEntries each
      rcases (mem_writtenLabels_mapping ordered hjs).mp hx with ⟨e, he, hxe⟩
      exact mem_entryNumbers.mpr ⟨e, he, ih e he hxe⟩
  | _ =>
      cases hx

/-- A representable value with plain numbers is encoded, and comes back. -/
theorem decode_encode_plain {v : Value} (h : v.Representable) (hp : v.Plain) :
    ∃ j, encode .full v = .ok j ∧ decodeJson .full j = .ok v :=
  decode_encode_canonical (canonical_of_representable h fun x hx =>
    Number.isNaN_of_isFinite (hp x (numbers_of_label h hx)).finite)

/-! ## Wire values on a line -/

/-- A plain number has no sign to lose. -/
theorem unsignedZero_plain {x : Float} (h : Number.Plain x) : Number.unsignedZero x = x := by
  rw [Number.unsignedZero, h.signed]
  rfl

/-- A plain number goes through text unchanged. -/
theorem settleNumber_plain {x : Float} (h : Number.Plain x) : Json.settleNumber x = .num x := by
  rw [Json.settleNumber_of_isFinite h.finite, unsignedZero_plain h]

/-- An array whose axes are plain goes through text unchanged. -/
theorem settle_arrayJson {a : NDArray} (h : ∀ d ∈ a.shape, Number.Plain d) :
    (arrayJson a).settle = arrayJson a := by
  have hshape : a.shape.map Number.unsignedZero = a.shape := by
    conv_rhs => rw [← List.map_id a.shape]
    exact List.map_congr_left fun d hd => unsignedZero_plain (h d hd)
  rw [settle_arrayJson_eq fun d hd => (h d hd).finite, hshape]

theorem settle_tableJson {f : Frame} (hs : ∀ d ∈ f.values.shape, Number.Plain d)
    (hl : ∀ x, .num x ∈ f.index.getD [] → Number.Plain x) :
    (tableJson f).settle = tableJson f := by
  refine Json.settle_obj_fixed (ordered_tableFields _ _ _) ?_
  intro e he
  fin_cases he
  · refine Json.settle_arr_fixed ?_
    intro j hj
    rcases List.mem_map.mp hj with ⟨s, -, rfl⟩
    rfl
  · exact settle_arrayJson hs
  · cases hf : f.index with
    | none =>
        rfl
    | some labels =>
        refine Json.settle_arr_fixed ?_
        intro j hj
        rcases List.mem_map.mp hj with ⟨l, hmem, rfl⟩
        rw [hf] at hl
        -- Only a label of the number type could change.
        cases l with
        | str s =>
            rfl
        | num x =>
            exact settleNumber_plain (hl x hmem)

/-- The wire value of a representable value with plain numbers is read back unchanged. -/
theorem settle_encode {v : Value} {j : Json} (h : v.Representable) (hp : v.Plain)
    (hj : encode .full v = .ok j) : j.settle = j := by
  -- Only numbers change on a line, and keys only if they are not in property order.
  induction h generalizing j with
  | null | bool b | str s =>
      cases hj
      rfl
  | num x =>
      cases hj
      exact settleNumber_plain (hp x (List.mem_singleton.mpr rfl))
  | bytes octets =>
      cases hj
      exact Json.settle_single_fixed rfl
  | ndarray valid dims =>
      cases hj
      exact Json.settle_single_fixed (settle_arrayJson hp)
  | frame valid dims rows =>
      cases hj
      refine Json.settle_single_fixed (settle_tableJson ?_ ?_)
      · exact fun d hd => hp d (List.mem_append_left _ hd)
      · exact fun x hx => hp x (List.mem_append_right _ (mem_labelNumbers.mpr hx))
  | list each ih =>
      obtain ⟨js, hjs, rfl⟩ := encode_list_eq_ok.mp hj
      refine Json.settle_arr_fixed ?_
      intro j hmem
      obtain ⟨v, hv, hencoded⟩ := exists_of_forall₂ hjs.flip hmem
      exact ih v hv (Plain.of_item hp hv) hencoded
  | mapping ordered unmarked each ih =>
      obtain ⟨js, hjs⟩ := exists_encodeEntries each
      have hkeyed := encodeEntries_eq_ok.mp hjs
      rw [encode_mapping_of_ok hjs, ofEntries_encodeEntries ordered hjs] at hj
      cases hj
      refine Json.settle_obj_fixed (hkeyed.ordered ordered) ?_
      intro e hmem
      obtain ⟨v, hv, hencoded⟩ := hkeyed.flip.exists_of_mem hmem
      exact ih _ hv (Plain.of_entry hp hv) hencoded

end Codec
end LineRpc
