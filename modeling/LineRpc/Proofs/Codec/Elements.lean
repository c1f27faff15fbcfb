import LineRpc.Proofs.Codec.Payload
import LineRpc.Proofs.Except

/-!
# Elements — lists and mappings value by value

Lists are encoded and decoded item by item and mappings entry by entry. A mapping without a marker
among its keys keeps its keys; a mapping with a marker alone stands for what is under it.

* `encodeList_eq_ok`      : items are encoded one by one
* `encodeEntries_eq_ok`   : entries are encoded one by one
* `decode_mapping`        : entry by entry, unless a marker counts
* `Unmarked`              : keys without a marker
* `decodeList_eq_ok`      : items are decoded one by one
* `decodeEntries_eq_ok`   : entries are decoded one by one
* `decodeList_eq_error`   : the first error counts
* `exists_decodeList`     : items that are decoded at all
* `decode_unmarked`       : a mapping without a marker
-/

namespace LineRpc
namespace Codec

variable {caps : Capabilities}

/-! ## Encoding -/

/-- Encoding a list is encoding its items from the left. -/
theorem encodeList_eq (vs : List Value) : encodeList caps vs = vs.mapM (encode caps) := by
  induction vs with
  | nil =>
      rfl
  | cons v vs ih =>
      rw [encodeList, ih, List.mapM_cons]

theorem encodeEntries_eq (es : List (String × Value)) :
    encodeEntries caps es = es.mapM fun e => (encode caps e.2).map (e.1, ·) := by
  induction es with
  | nil =>
      rfl
  | cons e es ih =>
      rw [encodeEntries, ih, List.mapM_cons]
      cases encode caps e.2 <;> rfl

/-- The keys of a map are put into words before its values are encoded. -/
theorem encodePairs_eq (es : List (Value × Value)) :
    encodePairs caps es =
      es.mapM fun e => e.1.describe.bind fun k => (encode caps e.2).map (k, ·) := by
  induction es with
  | nil =>
      rfl
  | cons e es ih =>
      rw [encodePairs, ih, List.mapM_cons]
      cases e.1.describe with
      | error failure =>
          rfl
      | ok k =>
          cases encode caps e.2 <;> rfl

/-- Items are encoded one by one. -/
theorem encodeList_eq_ok {vs : List Value} {js : List Json} :
    encodeList caps vs = .ok js ↔ List.Forall₂ (fun v j => encode caps v = .ok j) vs js := by
  rw [encodeList_eq, mapM_eq_ok]

/-- Entries are encoded one by one, and keep their keys. -/
theorem encodeEntries_eq_ok {es : List (String × Value)} {js : List (String × Json)} :
    encodeEntries caps es = .ok js ↔ Mapping.Keyed (fun v j => encode caps v = .ok j) es js := by
  rw [encodeEntries_eq, mapM_eq_ok, Mapping.keyed_iff_forall₂]
  simp only [map_pair_eq_ok]

/-- Entries with any keys are encoded one by one, under the texts of their keys. -/
theorem encodePairs_eq_ok {es : List (Value × Value)} {js : List (String × Json)} :
    encodePairs caps es = .ok js ↔
      List.Forall₂ (fun e e' => e.1.describe = .ok e'.1 ∧ encode caps e.2 = .ok e'.2) es js := by
  rw [encodePairs_eq, mapM_eq_ok]
  simp only [bind_pair_eq_ok]

/-! ## Decoding, kind by kind -/

theorem decode_list (vs : List Value) :
    decode caps (.list vs) = (decodeList caps vs).map .list :=
  rfl

/-- A mapping is decoded entry by entry unless one of its markers counts. -/
theorem decode_mapping (es : List (String × Value)) :
    decode caps (.mapping es) =
      match decodeMarked? caps es with
      | some result => result
      | none => (decodeEntries caps es).map fun es => .mapping (Mapping.ofEntries es) :=
  rfl

theorem decodeList_cons (v : Value) (vs : List Value) :
    decodeList caps (v :: vs) =
      (decode caps v).bind fun w => (decodeList caps vs).bind fun ws => .ok (w :: ws) :=
  rfl

theorem decodeEntries_cons (k : String) (v : Value) (es : List (String × Value)) :
    decodeEntries caps ((k, v) :: es) =
      (decode caps v).bind fun w => (decodeEntries caps es).bind fun ws => .ok ((k, w) :: ws) :=
  rfl

/-- An array of JSON decodes item by item. -/
theorem decodeJson_arr (js : List Json) :
    decodeJson caps (.arr js) = (decodeList caps (js.map Value.ofJson)).map .list := by
  rw [decodeJson, ofJson_arr, decode_list]

theorem decodeJson_obj (es : List (String × Json)) :
    decodeJson caps (.obj es) = decode caps (.mapping (Mapping.mapValues Value.ofJson es)) := by
  rw [decodeJson, ofJson_obj]

/-! ## Decoding lists -/

theorem decodeList_eq (vs : List Value) : decodeList caps vs = vs.mapM (decode caps) := by
  induction vs with
  | nil =>
      rfl
  | cons v vs ih =>
      rw [decodeList_cons, ih, List.mapM_cons]
      rfl

/-- Items are decoded one by one. -/
theorem decodeList_eq_ok {vs ws : List Value} :
    decodeList caps vs = .ok ws ↔ List.Forall₂ (fun v w => decode caps v = .ok w) vs ws := by
  rw [decodeList_eq, mapM_eq_ok]

theorem decodeList_append (vs us : List Value) :
    decodeList caps (vs ++ us) =
      (decodeList caps vs).bind fun ws => (decodeList caps us).map (ws ++ ·) := by
  rw [decodeList_eq, decodeList_eq, decodeList_eq, List.mapM_append]
  rfl

/-- The error of a list is the one of its first item that is not decoded. -/
theorem decodeList_eq_error {vs : List Value} {e : DecodeError} :
    decodeList caps vs = .error e ↔ ∃ before v after, vs = before ++ v :: after ∧
      (∀ u ∈ before, ∃ w, decode caps u = .ok w) ∧ decode caps v = .error e := by
  rw [decodeList_eq, mapM_eq_error]

/-- Items that are decoded to themselves. -/
theorem decodeList_fixed {vs : List Value} (h : ∀ v ∈ vs, decode caps v = .ok v) :
    decodeList caps vs = .ok vs :=
  decodeList_eq_ok.mpr (List.forall₂_same.mpr h)

/-- Items are decoded if each of them is. -/
theorem exists_decodeList {vs : List Value} :
    (∃ ws, decodeList caps vs = .ok ws) ↔ ∀ v ∈ vs, ∃ w, decode caps v = .ok w := by
  rw [decodeList_eq, exists_mapM]

/-! ## Decoding entries -/

/-- The entries of a mapping are decoded as the list of their values is. -/
theorem decodeEntries_eq (es : List (String × Value)) :
    decodeEntries caps es =
      (decodeList caps (es.map Prod.snd)).map fun ws => (es.map Prod.fst).zip ws := by
  induction es with
  | nil =>
      rfl
  | cons e es ih =>
      rcases e with ⟨k, v⟩
      rw [decodeEntries_cons, List.map_cons, List.map_cons, decodeList_cons, ih]
      cases decode caps v with
      | error e =>
          rfl
      | ok w =>
          cases decodeList caps (es.map Prod.snd) <;> rfl

theorem decodeEntries_mapM (es : List (String × Value)) :
    decodeEntries caps es = es.mapM fun e => (decode caps e.2).map (e.1, ·) := by
  induction es with
  | nil =>
      rfl
  | cons e es ih =>
      rw [decodeEntries, ih, List.mapM_cons]
      cases decode caps e.2 <;> rfl

/-- Entries are decoded one by one, and keep their keys. -/
theorem decodeEntries_eq_ok {es ws : List (String × Value)} :
    decodeEntries caps es = .ok ws ↔ Mapping.Keyed (fun v w => decode caps v = .ok w) es ws := by
  rw [decodeEntries_mapM, mapM_eq_ok, Mapping.keyed_iff_forall₂]
  simp only [map_pair_eq_ok]

/-- Entries whose values are decoded to themselves. -/
theorem decodeEntries_fixed {es : List (String × Value)}
    (h : ∀ e ∈ es, decode caps e.2 = .ok e.2) : decodeEntries caps es = .ok es :=
  decodeEntries_eq_ok.mpr ⟨rfl, List.forall₂_same.mpr (List.forall_mem_map.mpr h)⟩

theorem exists_decodeEntries {es : List (String × Value)} :
    (∃ ws, decodeEntries caps es = .ok ws) ↔ ∀ e ∈ es, ∃ w, decode caps e.2 = .ok w := by
  -- Keys do not decide whether entries are decoded.
  have hlist := @exists_decodeList caps (es.map Prod.snd)
  rw [List.forall_mem_map] at hlist
  rw [← hlist, decodeEntries_eq]
  cases decodeList caps (es.map Prod.snd) with
  | error e =>
      constructor
      · rintro ⟨ws, h⟩
        cases h
      · rintro ⟨ws, h⟩
        cases h
  | ok ws =>
      exact ⟨fun _ => ⟨ws, rfl⟩, fun _ => ⟨_, rfl⟩⟩

/-- Decoded entries in property order are the decoded mapping. -/
theorem decodeMapping_of_ordered {es ws : List (String × Value)} (h : decodeEntries caps es = .ok ws)
    (ho : Mapping.Ordered ws) : decodeMapping caps es = .ok ws := by
  rw [decodeMapping, h]
  change Except.ok (Mapping.ofEntries ws) = _
  rw [Mapping.ofEntries_of_ordered ho]

/-! ## Mappings -/

/-- No marker is among keys. -/
def Unmarked (keys : List String) : Prop :=
  ∀ m ∈ Marker.all, m ∉ keys

instance (keys : List String) : Decidable (Unmarked keys) :=
  inferInstanceAs (Decidable (∀ m ∈ Marker.all, m ∉ keys))

/-- Changing the values of a mapping marks nothing. -/
theorem unmarked_mapValues {α β : Type} {f : α → β} {es : List (String × α)}
    (h : Unmarked (es.map Prod.fst)) : Unmarked ((Mapping.mapValues f es).map Prod.fst) := by
  rw [Mapping.keys_mapValues]
  exact h

/-- Mappings with the same keys are unmarked together. -/
theorem unmarked_keyed {α β : Type} {r : α → β → Prop} {m : Mapping α} {m' : Mapping β}
    (h : Mapping.Keyed r m m') (hu : Unmarked (m.map Prod.fst)) : Unmarked (m'.map Prod.fst) := by
  change Unmarked (Mapping.keys m')
  rw [h.1]
  exact hu

/-- Setting the keys of entries brings in no other key. -/
theorem unmarked_ofEntries {α : Type} {es : List (String × α)} (h : Unmarked (es.map Prod.fst)) :
    Unmarked ((Mapping.ofEntries es).map Prod.fst) := by
  intro m hm hmem
  rcases List.mem_map.mp hmem with ⟨e, he, rfl⟩
  exact h e.1 hm (List.mem_map.mpr ⟨e, Mapping.mem_ofEntries he, rfl⟩)

/-- Entries of which none counts as a marked value have no marker among their keys. -/
theorem unmarked_of_decodeMarked? {es : List (String × Value)} (h : decodeMarked? caps es = none) :
    Unmarked (es.map Prod.fst) := by
  rw [decodeMarked?] at h
  split at h
  · cases h
  split at h
  · cases h
  rename_i harray _ htable
  have hbytes := Option.map_eq_none_iff.mp h
  intro m hm
  fin_cases hm
  · exact Mapping.not_mem_of_get?_eq_none harray
  · exact Mapping.not_mem_of_get?_eq_none htable
  · exact Mapping.not_mem_of_get?_eq_none hbytes

/-- Without a marker nothing is decoded as a payload. -/
theorem decodeMarked?_unmarked {es : List (String × Value)} (h : Unmarked (es.map Prod.fst)) :
    decodeMarked? caps es = none := by
  rw [decodeMarked?, Mapping.get?_eq_none (h Marker.array (by decide)),
    Mapping.get?_eq_none (h Marker.table (by decide)),
    Mapping.get?_eq_none (h Marker.bytes (by decide))]
  rfl

/-- A mapping without a marker is decoded entry by entry. -/
theorem decode_unmarked {es : List (String × Value)} (h : Unmarked (es.map Prod.fst)) :
    decode caps (.mapping es) =
      (decodeEntries caps es).map fun es => .mapping (Mapping.ofEntries es) := by
  rw [decode_mapping, decodeMarked?_unmarked h]

theorem decode_array (payload : Value) :
    decode caps (.mapping [(Marker.array, payload)]) = (decodeArray caps payload).map .ndarray := by
  rw [decode_mapping]
  rfl

theorem decode_table (payload : Value) :
    decode caps (.mapping [(Marker.table, payload)]) = (decodeTable caps payload).map .frame := by
  rw [decode_mapping]
  rfl

theorem decode_bytes (payload : Value) :
    decode caps (.mapping [(Marker.bytes, payload)]) = decodeBytes payload := by
  rw [decode_mapping]
  rfl

end Codec
end LineRpc
