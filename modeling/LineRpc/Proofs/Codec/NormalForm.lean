import LineRpc.Proofs.Codec.RoundTrip
import LineRpc.Proofs.Json.Everywhere

/-!
# NormalForm — encoding what was decoded

One value can be spelled on the wire in many ways: with other keys beside a marker, with several
markers, with an unknown tag, without a shape, with numbers for the names of columns, with an empty
list of row labels, or with bits in a text that no octet uses. Decoding leaves nothing of this.
Whatever it gives is canonical, so encoding it again spells the same value, in one way for all of
its spellings. A value without a marker has one spelling only.

* `canonical_of_decode` : whatever was decoded is canonical
* `encode_ofJson`       : a value that is spelled without markers is encoded as it stands
* `decode_normal_form`  : encoding after decoding changes the spelling only
-/

namespace LineRpc

/-- No mapping in a value has a marker among its keys. -/
def Json.Unmarked (j : Json) : Prop :=
  j.Everywhere fun entries => Codec.Unmarked (entries.map Prod.fst)

namespace Codec

variable {caps : Capabilities} {j : Json} {v : Value}

/-! ## Typed values -/

/-- An array is decoded only if arrays are understood, and it is an array with a dimension. -/
theorem valid_of_decodeArray {payload : Value} {a : NDArray}
    (h : decodeArray caps payload = .ok a) : caps.arrays = true ∧ a.Valid ∧ a.shape ≠ [] := by
  rw [decodeArray_eq] at h
  split at h
  · rename_i hc
    rcases ok_of_bind h with ⟨-, -, h⟩
    rcases ok_of_bind h with ⟨p, -, h⟩
    rcases ok_of_bind h with ⟨bs, -, h⟩
    exact ⟨hc, NDArray.valid_of_fromBytes (ok_of_mapError h)⟩
  · cases h

/-- A decoded table is in normal form. -/
theorem canonical_of_decodeTable {payload : Value} {f : Frame}
    (h : decodeTable caps payload = .ok f) : (Value.frame f).Canonical caps := by
  rw [decodeTable_eq] at h
  split at h
  · rename_i ht
    rcases ok_of_bind h with ⟨-, -, h⟩
    rcases ok_of_bind h with ⟨p, hp, h⟩
    rcases ok_of_bind h with ⟨-, -, h⟩
    rcases ok_of_bind h with ⟨values, hvalues, h⟩
    rcases valid_of_decodeArray hvalues with ⟨ha, hvalid, hdims⟩
    rcases Frame.valid_of_make hvalid (ok_of_mapError h) with ⟨hf, rfl, hindex⟩
    refine .frame ha ht hf hdims ?_ ?_
    · -- An empty list of row labels was taken for none.
      intro hnil
      rw [hindex] at hnil
      have hempty := (Option.filter_eq_some_iff.mp hnil).2
      cases hempty
    · intro x hx
      refine isNaN_of_tablePayload hp ?_
      rw [hindex] at hx
      cases hi : p.index with
      | none =>
          rw [hi] at hx
          cases hx
      | some labels =>
          rw [hi, Option.filter_some] at hx
          split at hx
          · exact hx
          · cases hx
  · cases h

/-- What stands under a marker is decoded to a typed value that the capabilities allow. -/
theorem canonical_of_decodeMarked? {es : List (String × Value)}
    (h : decodeMarked? caps es = some (.ok v)) : v.Canonical caps := by
  rw [decodeMarked?] at h
  split at h
  · rcases ok_of_map (Option.some_inj.mp h) with ⟨a, ha, rfl⟩
    rcases valid_of_decodeArray ha with ⟨harrays, hvalid, hdims⟩
    exact .ndarray harrays hvalid hdims
  split at h
  · rcases ok_of_map (Option.some_inj.mp h) with ⟨f, hf, rfl⟩
    exact canonical_of_decodeTable hf
  · rcases Option.map_eq_some_iff.mp h with ⟨payload, -, hbytes⟩
    cases payload with
    | str text =>
        rcases ok_of_map hbytes with ⟨bs, -, rfl⟩
        exact .bytes bs
    | _ =>
        cases hbytes

/-! ## Whatever is decoded -/

/-- An item of a list that was decoded comes from an item of the list. -/
theorem exists_of_mem_decodeList {vs ws : List Value} {w : Value}
    (h : decodeList caps vs = .ok ws) (hw : w ∈ ws) : ∃ v ∈ vs, decode caps v = .ok w := by
  induction decodeList_eq_ok.mp h with
  | nil =>
      cases hw
  | cons hfirst hrest ih =>
      rcases List.mem_cons.mp hw with rfl | hw
      · exact ⟨_, List.mem_cons_self, hfirst⟩
      · rcases ih (decodeList_eq_ok.mpr hrest) hw with ⟨v, hv, hdecode⟩
        exact ⟨v, List.mem_cons_of_mem _ hv, hdecode⟩

/-- The value of an entry that was decoded comes from the value of an entry. -/
theorem exists_of_mem_decodeEntries {es ws : List (String × Value)} {e : String × Value}
    (h : decodeEntries caps es = .ok ws) (he : e ∈ ws) : ∃ e' ∈ es, decode caps e'.2 = .ok e.2 := by
  rw [decodeEntries_eq] at h
  rcases ok_of_map h with ⟨values, hvalues, rfl⟩
  rcases exists_of_mem_decodeList hvalues (List.of_mem_zip he).2 with ⟨v, hv, hdecode⟩
  rcases List.mem_map.mp hv with ⟨e', he', rfl⟩
  exact ⟨e', he', hdecode⟩

/-- Decoding keeps the keys of entries. -/
theorem keys_of_decodeEntries {es ws : List (String × Value)} (h : decodeEntries caps es = .ok ws) :
    ws.map Prod.fst = es.map Prod.fst :=
  (decodeEntries_eq_ok.mp h).1

/-- Whatever was decoded is canonical. -/
theorem canonical_of_decode (h : decodeJson caps j = .ok v) : v.Canonical caps := by
  induction j generalizing v with
  | null =>
      cases h
      exact .null
  | bool b =>
      cases h
      exact .bool b
  | num x =>
      cases h
      exact .num x
  | str s =>
      cases h
      exact .str s
  | arr items ih =>
      rw [decodeJson_arr] at h
      rcases ok_of_map h with ⟨ws, hws, rfl⟩
      refine .list ?_
      intro w hw
      rcases exists_of_mem_decodeList hws hw with ⟨u, hu, hdecode⟩
      rcases List.mem_map.mp hu with ⟨j, hj, rfl⟩
      exact ih j hj hdecode
  | obj entries ih =>
      rw [decodeJson_obj, decode_mapping] at h
      split at h
      · rename_i result hmarked
        rw [h] at hmarked
        exact canonical_of_decodeMarked? hmarked
      · -- Without a marker the keys are taken over, so none of them is a marker afterwards.
        rename_i hmarked
        rcases ok_of_map h with ⟨ws, hws, rfl⟩
        refine .mapping (Mapping.ordered_ofEntries ws) ?_ ?_
        · refine unmarked_ofEntries ?_
          rw [keys_of_decodeEntries hws]
          exact unmarked_of_decodeMarked? hmarked
        · intro e he
          rcases exists_of_mem_decodeEntries hws (Mapping.mem_ofEntries he) with ⟨e', he', hdecode⟩
          rcases Mapping.mem_mapValues.mp he' with ⟨e'', he'', rfl⟩
          exact ih e'' he'' hdecode

/-! ## Values without markers -/

/-- A value of the wire, taken for a native value, is encoded as it stands. -/
theorem encode_ofJson (h : j.Ordered) : encode caps (Value.ofJson j) = .ok j := by
  induction j with
  | null | bool b | num x | str s =>
      rfl
  | arr items ih =>
      rw [ofJson_arr, encode_list_eq_ok]
      refine ⟨items, ?_, rfl⟩
      rw [List.forall₂_map_left_iff, List.forall₂_same]
      exact fun j hj => ih j hj (h.item j hj)
  | obj entries ih =>
      have hencoded : encodeEntries caps (Mapping.mapValues Value.ofJson entries) = .ok entries := by
        rw [encodeEntries_eq_ok, Mapping.keyed_map_left]
        exact ⟨rfl, List.forall₂_same.mpr (List.forall_mem_map.mpr fun e he => ih e he (h.entry e he))⟩
      rw [ofJson_obj, encode_mapping_of_ok hencoded, Mapping.ofEntries_of_ordered h.keys]

/-- A value without a marker is decoded as it stands. -/
theorem decodeJson_unmarked (ho : j.Ordered) (hu : j.Unmarked) :
    decodeJson caps j = .ok (Value.ofJson j) := by
  induction hu with
  | null | bool b | num x | str s =>
      rfl
  | arr each ih =>
      rw [decodeJson_arr, decodeList_fixed, ofJson_arr]
      · rfl
      · intro v hv
        rcases List.mem_map.mp hv with ⟨j, hj, rfl⟩
        exact ih j hj (ho.item j hj)
  | obj here each ih =>
      rw [decodeJson_obj, decode_unmarked (unmarked_mapValues here), decodeEntries_fixed, ofJson_obj]
      · change Except.ok (Value.mapping (Mapping.ofEntries _)) = _
        rw [Mapping.ofEntries_of_ordered (Mapping.ordered_mapValues ho.keys)]
      · intro e he
        rcases Mapping.mem_mapValues.mp he with ⟨e', he', rfl⟩
        exact ih e' he' (ho.entry e' he')

/-! ## The normal form -/

/-- Whatever was decoded comes back when it is encoded and decoded again with the same capabilities,
however it was spelled. What is spelled without a marker is decoded, and encoded again as it was
spelled, with its keys in their order. -/
theorem decode_normal_form (caps : Capabilities) (j : Json) :
    (∀ v, decodeJson caps j = .ok v →
      ∃ j', encode caps v = .ok j' ∧ decodeJson caps j' = .ok v) ∧
    (j.Ordered → j.Unmarked → ∃ v, decodeJson caps j = .ok v ∧ encode caps v = .ok j) := by
  constructor
  · intro v h
    exact decode_encode_canonical (canonical_of_decode h)
  · intro ho hu
    exact ⟨Value.ofJson j, decodeJson_unmarked ho hu, encode_ofJson ho⟩

/-- A table beside bytes that are none, with a number for a column, bits to spare and no row labels,
and an array of an unknown tag without a shape. -/
def spelled : Json :=
  .obj [("k", .arr [
    .obj [(Marker.bytes, .str "!"), (Marker.table, .obj [("columns", .arr [.num 7]),
      ("data", .obj [("dtype", .str "u8"), ("shape", .arr [.num 1, .num 1]),
        ("data", .str "Bx==")]), ("index", .arr [])])],
    .obj [("note", .null), (Marker.array, .obj [("data", .str "AAAAAAAA8D8="),
      ("dtype", .str "c64"), ("shape", .arr [])])]])]

def spelledValue : Value :=
  .mapping [("k", .list [.frame ⟨["7"], ⟨.u8, [1, 1], [7]⟩, none⟩,
    .ndarray ⟨.f64, [1], [0, 0, 0, 0, 0, 0, 0xF0, 0x3F]⟩])]

set_option maxRecDepth 4000 in
/-- An unusual spelling, and one without markers. -/
theorem decode_normal_form_sample :
    decodeJson .full spelled = .ok spelledValue ∧
    (∃ j, encode .full spelledValue = .ok j ∧ decodeJson .full j = .ok spelledValue) ∧
    ∃ v, decodeJson ⟨false, false⟩ (.obj [("1", .arr [.null]), ("a", .str "b")]) = .ok v ∧
      encode ⟨false, false⟩ v = .ok (.obj [("1", .arr [.null]), ("a", .str "b")]) := by
  have hdecoded : decodeJson .full spelled = .ok spelledValue := by
    rfl
  refine ⟨hdecoded, (decode_normal_form .full spelled).1 spelledValue hdecoded, ?_⟩
  refine (decode_normal_form ⟨false, false⟩ (.obj [("1", .arr [.null]), ("a", .str "b")])).2 ?_ ?_
  · refine .obj (Mapping.ordered_iff_keys.mpr (by decide +kernel)) ?_
    intro e he
    fin_cases he
    · refine .arr ?_
      intro j hj
      fin_cases hj
      exact .null
    · exact .str "b"
  · refine .obj (by decide +kernel) ?_
    intro e he
    fin_cases he
    · refine .arr ?_
      intro j hj
      fin_cases hj
      exact .null
    · exact .str "b"

end Codec
end LineRpc
