import LineRpc.Proofs.Codec.Failing
import LineRpc.Proofs.Codec.Received
import LineRpc.Proofs.Json.Line

/-!
# Arrival — what a worker encodes, a client decodes

The wire value of any native value is a text, a number, bytes, an array, a table, or a list or a
mapping of wire values. Each of these survives the line: numbers that the line cannot say become
nulls, which are decoded too. The one exception is a row label that is not finite, since a null is
no row label.

* `Arrives`                     : a wire value that is decoded after it was a text
* `arrives_encode_iff`          : the wire values that arrive
* `readLine_encode_decodes_iff` : with the ways in which writing fails
-/

namespace LineRpc

namespace Codec

variable {caps : Capabilities}

/-- A wire value that is decoded after it was a text. -/
def Arrives (caps : Capabilities) (j : Json) : Prop :=
  ∃ w, decodeJson caps j.settle = .ok w

/-! ## Lists and mappings -/

/-- A list arrives if its items do. -/
theorem arrives_arr {js : List Json} : Arrives caps (.arr js) ↔ ∀ j ∈ js, Arrives caps j := by
  -- A list goes through the text and through decoding item by item.
  have hdecode : decodeJson caps (Json.arr js).settle =
      (decodeList caps (js.map fun j => Value.ofJson j.settle)).map .list := by
    rw [Json.settle, Json.settleItems_eq, decodeJson_arr, List.map_map]
    rfl
  rw [Arrives, hdecode, exists_map_ok, exists_decodeList, List.forall_mem_map]
  rfl

/-- A mapping without a marker arrives if its entries do. -/
theorem arrives_obj {es : List (String × Json)} (hu : Unmarked (es.map Prod.fst)) :
    Arrives caps (.obj (Mapping.ofEntries es)) ↔ ∀ e ∈ Mapping.ofEntries es, Arrives caps e.2 := by
  have hvalue : Value.ofJson (Json.obj (Mapping.ofEntries es)).settle =
      .mapping (Mapping.mapValues (fun j => Value.ofJson j.settle) (Mapping.ofEntries es)) := by
    rw [Json.settle_obj (Mapping.ordered_ofEntries es), ofJson_obj, Mapping.mapValues_mapValues]
  rw [Arrives, decodeJson, hvalue, decode_unmarked (unmarked_mapValues (unmarked_ofEntries hu)),
    exists_map_ok, exists_decodeEntries]
  constructor
  · intro h e he
    exact h _ (Mapping.mem_mapValues.mpr ⟨e, he, rfl⟩)
  · intro h e he
    rcases Mapping.mem_mapValues.mp he with ⟨e', he', rfl⟩
    exact h e' he'

/-! ## Values without parts -/

theorem arrives_str (s : String) : Arrives caps (.str s) :=
  ⟨.str s, rfl⟩

theorem arrives_num (x : Float) : Arrives caps (.num x) := by
  rw [Arrives, Json.settle, Json.settleNumber]
  -- What is not finite arrives as a null.
  by_cases h : x.isFinite = true
  · rw [if_pos h]
    exact ⟨_, rfl⟩
  · rw [if_neg h]
    exact ⟨_, rfl⟩

theorem arrives_bytes (bs : Octets) : Arrives caps (encodeBytes bs) := by
  refine ⟨.bytes .buffer bs, ?_⟩
  rw [encodeBytes, Json.settle_single_fixed rfl]
  change decode caps (.mapping [(Marker.bytes, .str (Base64.encode bs))]) = _
  rw [decode_bytes, decodeBytes, octets_encode]
  rfl

theorem arrives_scalar (x : Scalar) : Arrives caps (scalarJson x) := by
  cases x with
  | num x =>
      exact arrives_num x
  | int i =>
      exact arrives_str _

theorem arrives_scalars (xs : List Scalar) : Arrives caps (scalarsJson xs) := by
  refine arrives_arr.mpr ?_
  intro j hj
  rcases List.mem_map.mp hj with ⟨x, -, rfl⟩
  exact arrives_scalar x

/-- An array that is written as lists arrives. -/
theorem arrives_nested {depth : Nat} {a : NDArray} {j : Json} (hj : nestedJson depth a = .ok j) :
    Arrives caps j := by
  induction depth generalizing a j with
  | zero =>
      obtain ⟨text, -, rfl⟩ := ok_of_map hj
      exact arrives_str text
  | succ depth ih =>
      rw [nestedJson] at hj
      split at hj
      · obtain ⟨text, -, rfl⟩ := ok_of_map hj
        exact arrives_str text
      · cases hj
      · obtain ⟨js, hjs, rfl⟩ := ok_of_map hj
        refine arrives_arr.mpr ?_
        intro j hmem
        obtain ⟨item, -, hitem⟩ := exists_of_mem_mapM hjs hmem
        -- An item is an element or an array with one axis less.
        cases item with
        | scalar x =>
            cases hitem
            exact arrives_scalar x
        | array b =>
            exact ih hitem

/-! ## Arrays and tables -/

/-- A valid array arrives, once arrays may pass. -/
theorem arrives_array {a : NDArray} (hc : caps.arrays = true) (h : a.Valid) :
    Arrives caps (encodeArray a) := by
  refine ⟨.ndarray a.received, ?_⟩
  rw [encodeArray, Json.settle_single]
  change decode caps (.mapping [(Marker.array, Value.ofJson (arrayJson a).settle)]) = _
  rw [decode_array, decodeArray_received hc h]
  rfl

/-- A table arrives if its row labels are finite or texts. -/
theorem arrives_table {f : Frame} (hc : caps.Normal) (ht : caps.tables = true) (h : f.Valid)
    (hn : (f.index.getD []).length < 2 ^ 53) :
    Arrives caps (encodeTable f) ↔ ∀ x, .num x ∈ f.index.getD [] → x.isFinite = true := by
  have hdecode : decodeJson caps (encodeTable f).settle =
      (decodeTable caps (Value.ofJson (tableJson f).settle)).map .frame := by
    rw [encodeTable, Json.settle_single]
    exact decode_table _
  rw [Arrives, hdecode, exists_map_ok]
  constructor
  · -- A table that was decoded has no label that would have been refused.
    rintro ⟨g, hg⟩ x hx
    by_contra hinf
    exact decodeTable_refused hx (Bool.not_eq_true _ ▸ hinf) hg
  · intro hl
    exact ⟨f.received, decodeTable_received (hc ht) ht h hn hl⟩

/-- A typed array of less than 2^53 octets makes a valid array. -/
theorem valid_typedArray {kind : ElementKind} {bs : Octets} (hw : bs.length % kind.itemSize = 0)
    (hn : bs.length < 2 ^ 53) : (typedArray kind bs).Valid := by
  cases kind with
  | dtype d =>
      refine ⟨hw, NDArray.checkShape_ofNat ?_⟩
      exact lt_of_le_of_lt (Nat.div_le_self _ _) hn
  | clamped =>
      -- Every byte becomes eight octets, so there are as many elements as there were bytes.
      have hlen : (typedArray .clamped bs).octets.length = bs.length * 8 := by
        simp [typedArray]
      have hsize : (typedArray .clamped bs).size = bs.length := by
        rw [NDArray.size, hlen]
        exact Nat.mul_div_cancel _ (by norm_num)
      refine ⟨?_, ?_⟩
      · rw [hlen]
        exact Nat.mul_mod_left _ _
      · rw [hsize]
        exact NDArray.checkShape_ofNat hn

/-! ## All native values -/

variable {v : Value} {j : Json}

/-- A list arrives if none of its labels is in the way of an item. -/
theorem arrives_list_iff {items : List Value} {js : List Json}
    (h : List.Forall₂ (fun v j => Arrives caps j ↔
      ∀ x, .num x ∈ v.writtenLabels caps → x.isFinite = true) items js) :
    Arrives caps (.arr js) ↔ ∀ x, .num x ∈ itemLabels caps items → x.isFinite = true := by
  rw [arrives_arr]
  constructor
  · intro ha x hx
    obtain ⟨v, hv, hxv⟩ := mem_itemLabels.mp hx
    obtain ⟨j, hj, hiff⟩ := exists_of_forall₂ h hv
    exact hiff.mp (ha j hj) x hxv
  · intro hl j hj
    obtain ⟨v, hv, hiff⟩ := exists_of_forall₂ h.flip hj
    exact hiff.mpr fun x hx => hl x (mem_itemLabels.mpr ⟨v, hv, hx⟩)

/-- Entries that were overwritten count on neither side. -/
theorem arrives_entries_iff {entries : List (String × Value)} {js : List (String × Json)}
    (hu : Unmarked (entries.map Prod.fst))
    (h : Mapping.Keyed (fun v j => Arrives caps j ↔
      ∀ x, .num x ∈ v.writtenLabels caps → x.isFinite = true) entries js) :
    Arrives caps (.obj (Mapping.ofEntries js)) ↔
      ∀ x, .num x ∈ (Mapping.ofEntries
        (Mapping.mapValues (Value.writtenLabels caps) entries)).flatMap Prod.snd →
          x.isFinite = true := by
  rw [arrives_obj (unmarked_keyed h hu)]
  constructor
  · intro ha x hx
    obtain ⟨e, he, hxe⟩ := mem_labels_ofEntries.mp hx
    obtain ⟨j, hj, hiff⟩ := h.ofEntries.exists_of_mem he
    exact hiff.mp (ha _ hj) x hxe
  · intro hl e he
    obtain ⟨v, hv, hiff⟩ := h.ofEntries.flip.exists_of_mem he
    exact hiff.mpr fun x hx => hl x (mem_labels_ofEntries.mpr ⟨_, hv, hx⟩)

/-- Entries with any keys arrive as those under the texts of the keys do. -/
theorem arrives_pairs_iff {entries : List (Value × Value)} {js : List (String × Json)}
    (hu : Unmarked (entries.filterMap fun e => e.1.describe.toOption))
    (hjs : encodePairs caps entries = .ok js)
    (h : ∀ e ∈ entries, ∀ j, encode caps e.2 = .ok j →
      (Arrives caps j ↔ ∀ x, .num x ∈ e.2.writtenLabels caps → x.isFinite = true)) :
    Arrives caps (.obj (Mapping.ofEntries js)) ↔
      ∀ x, .num x ∈ (Mapping.ofEntries (pairLabels caps entries)).flatMap Prod.snd →
        x.isFinite = true := by
  obtain ⟨named, hnamed, hjs, hlabels⟩ := pairLabels_of_ok hjs
  rw [hlabels]
  refine arrives_entries_iff ?_ ((encodeEntries_eq_ok.mp hjs).imp_of_mem ?_)
  · -- A marker among the written keys would be the text of a key.
    intro m hm hmem
    obtain ⟨n, hn, rfl⟩ := List.mem_map.mp hmem
    obtain ⟨e, he, hkey, -⟩ := exists_of_forall₂ hnamed.flip hn
    refine hu n.1 hm (List.mem_filterMap.mpr ⟨e, he, ?_⟩)
    rw [hkey]
    rfl
  · intro n hn
    obtain ⟨e, he, -, hvalue⟩ := exists_of_forall₂ hnamed.flip hn
    exact hvalue ▸ h e he

/-- What became a text arrives, and takes its labels with it. -/
theorem arrives_degraded_iff {α : Type} {parts : Except Fault α} {write : α → Json}
    {labels : List Label} (hj : degrade v (parts.map write) = .ok j)
    (h : ∀ a, parts = .ok a →
      (Arrives caps (write a) ↔ ∀ x, .num x ∈ labels → x.isFinite = true)) :
    Arrives caps j ↔ ∀ x, .num x ∈ keptLabels parts labels → x.isFinite = true := by
  rcases parts with (_ | _) | a
  · obtain ⟨text, -, rfl⟩ := ok_of_map hj
    exact iff_of_true (arrives_str text) fun x hx => absurd hx List.not_mem_nil
  · cases hj
  · cases hj
    exact h a rfl

/-- What holds of each item and its encoding holds of the two lists. -/
theorem forall₂_of_encodeList {P : Value → Json → Prop} {items : List Value} {js : List Json}
    (h : encodeList caps items = .ok js)
    (hp : ∀ v ∈ items, ∀ j, encode caps v = .ok j → P v j) : List.Forall₂ P items js := by
  refine ((List.forall₂_and_left _ _).mpr ⟨hp, encodeList_eq_ok.mp h⟩).imp ?_
  rintro v j ⟨hv, hj⟩
  exact hv j hj

/-- Items that end are written as those of a list are. -/
theorem encode_ended (items : List Value) (text tag : Except Fault String) :
    encode caps (.iterable items none text tag) =
      degrade (.iterable items none text tag) ((encodeList caps items).map .arr) := by
  rw [encode]
  cases encodeList caps items <;> rfl

/-- Where a part fails, nothing but a text is written. -/
theorem str_of_degraded {failure : Fault} (hj : degrade v (.error failure) = .ok j) :
    ∃ text, j = .str text := by
  cases failure with
  | raised x =>
      obtain ⟨text, -, rfl⟩ := ok_of_map hj
      exact ⟨text, rfl⟩
  | endless =>
      cases hj

/-- An iterator that breaks off is written as a text, if at all. -/
theorem str_of_failing {items : List Value} {failure : Fault} {text tag : Except Fault String}
    (hj : encode caps (.iterable items (some failure) text tag) = .ok j) :
    ∃ text, j = .str text := by
  rw [encode] at hj
  cases hjs : encodeList caps items <;> rw [hjs] at hj <;> exact str_of_degraded hj

/-- A value without row labels arrives whatever its numbers are. -/
theorem arrives_unlabelled (hj : Arrives caps j) (hv : v.writtenLabels caps = []) :
    Arrives caps j ↔ ∀ x, .num x ∈ v.writtenLabels caps → x.isFinite = true := by
  rw [hv]
  exact iff_of_true hj fun x hx => absurd hx List.not_mem_nil

/-- Whatever was encoded arrives, if the row labels in it are finite or texts. -/
theorem arrives_encode_iff (hc : caps.Normal) (h : v.WellFormed) (j : Json)
    (hj : encode caps v = .ok j) :
    Arrives caps j ↔ ∀ x, .num x ∈ v.writtenLabels caps → x.isFinite = true := by
  induction h generalizing j with
  | undefined | null | bool b | str s =>
      cases hj
      exact arrives_unlabelled ⟨_, rfl⟩ rfl
  | num x =>
      cases hj
      exact arrives_unlabelled (arrives_num x) rfl
  | bytes view octets =>
      cases hj
      exact arrives_unlabelled (arrives_bytes octets) rfl
  | typed whole room =>
      cases hj
      refine arrives_unlabelled ?_ rfl
      split
      · rename_i ha
        exact arrives_array ha (valid_typedArray whole room)
      · exact arrives_scalars _
  | ndarray valid =>
      refine arrives_unlabelled ?_ rfl
      rw [encode] at hj
      split at hj
      · rename_i ha
        cases hj
        exact arrives_array ha valid
      · exact arrives_nested hj
  | series valid =>
      cases hj
      refine arrives_unlabelled ?_ rfl
      split
      · rename_i ht
        exact arrives_array (hc ht) valid
      · exact arrives_scalars _
  | frame valid room =>
      cases hj
      rw [Value.writtenLabels]
      split
      · rename_i ht
        exact arrives_table hc ht valid room
      · exact iff_of_true (arrives_str _) fun x hx => absurd hx List.not_mem_nil
  | list each ih =>
      obtain ⟨js, hjs, rfl⟩ := ok_of_map hj
      exact arrives_list_iff (forall₂_of_encodeList hjs ih)
  | set each ih =>
      exact arrives_degraded_iff hj fun js hjs => arrives_list_iff (forall₂_of_encodeList hjs ih)
  | iterable ending text tag each ih =>
      cases ending with
      | none =>
          rw [encode_ended] at hj
          exact arrives_degraded_iff hj fun js hjs => arrives_list_iff (forall₂_of_encodeList hjs ih)
      | some failure =>
          obtain ⟨text, rfl⟩ := str_of_failing hj
          exact arrives_unlabelled (arrives_str text) rfl
  | mapping unmarked each ih =>
      rw [Value.writtenLabels, entryLabels_eq]
      exact arrives_degraded_iff hj fun js hjs =>
        arrives_entries_iff unmarked ((encodeEntries_eq_ok.mp hjs).imp_of_mem ih)
  | bare unmarked each ih =>
      rw [Value.writtenLabels, entryLabels_eq]
      exact arrives_degraded_iff hj fun js hjs =>
        arrives_entries_iff unmarked ((encodeEntries_eq_ok.mp hjs).imp_of_mem ih)
  | map unmarked each ih =>
      rw [Value.writtenLabels]
      exact arrives_degraded_iff hj fun js hjs => arrives_pairs_iff unmarked hjs ih
  | guarded entries key failure =>
      obtain ⟨text, rfl⟩ := str_of_degraded hj
      exact arrives_unlabelled (arrives_str text) rfl
  | sealed =>
      cases hj
  | bigint | symbol | function | foreign | error =>
      -- Everything else is written as a text.
      rw [encode_textual rfl] at hj
      obtain ⟨text, -, rfl⟩ := ok_of_map hj
      exact arrives_unlabelled (arrives_str text) rfl

/-- A function whose name is a symbol. -/
def unnamed : Value :=
  .function (.ok "() => 1") (.ok (.symbol "s")) (.ok (.num 1))

/-- Clamped bytes, an array without dimensions, something that fails while it is iterated, a `Set`
of a function without a name, and a table, all under keys that are no texts. -/
def strangeKeys : Value :=
  .map [(.symbol "s", .typed .clamped [0, 255]),
    (.null, .list [.ndarray ⟨.u8, [], [7]⟩, .num Number.nan]),
    (.num 1, .iterable [.undefined] (some (Fault.typeError "stop")) (.ok "it") (.ok "[object it]")),
    (.bigint 2, .set [unnamed]),
    (.bool true, .frame (cell (.num (-0.0))))]

theorem wellFormed_strangeKeys : strangeKeys.WellFormed := by
  have hscalar : NDArray.Valid ⟨.u8, [], [7]⟩ := ⟨by decide, by decide +kernel⟩
  refine .map ?_ ?_
  · decide +kernel
  · simp only [List.forall_mem_cons]
    refine ⟨.typed (by decide) (by decide), .list ?_, .iterable _ _ _ ?_, .set ?_,
      .frame (valid_cell _) (by decide), List.forall_mem_nil _⟩
    · exact List.forall_mem_cons.mpr
        ⟨.ndarray hscalar (by decide), List.forall_mem_singleton.mpr (.num _)⟩
    · exact List.forall_mem_singleton.mpr .undefined
    · exact List.forall_mem_singleton.mpr (.function _ _ _)

end Codec
end LineRpc
