import LineRpc.Proofs.Codec.Elements

/-!
# Labels — the row labels that reach the wire

Row labels are written only inside tables. Of a mapping those entries count that are left when all
keys were set. What becomes a text takes its labels with it, and so does what is given up as a whole
because one of its parts cannot be written.

* `Value.writtenLabels`           : the row labels in the wire value of a native value
* `mem_itemLabels`                : the labels of a list are those of its items
* `mem_labels_ofEntries`          : the labels of a mapping are those of its entries
-/

namespace LineRpc

/-- The labels in something that may not be written. -/
def keptLabels {α : Type} (written : Except Fault α) (labels : List Label) : List Label :=
  match written with
  | .ok _ => labels
  | .error _ => []

theorem keptLabels_of_ok {α : Type} {written : Except Fault α} {a : α} (h : written = .ok a)
    (labels : List Label) : keptLabels written labels = labels := by
  rw [h]
  rfl

mutual

/-- The row labels in the wire value of a native value. -/
def Value.writtenLabels (caps : Capabilities) : Value → List Label
  | .list items => itemLabels caps items
  | .set items => keptLabels (Codec.encodeList caps items) (itemLabels caps items)
  | .iterable items none _ _ => keptLabels (Codec.encodeList caps items) (itemLabels caps items)
  | .mapping entries =>
      keptLabels (Codec.encodeEntries caps entries)
        ((Mapping.ofEntries (entryLabels caps entries)).flatMap Prod.snd)
  | .bare entries =>
      keptLabels (Codec.encodeEntries caps entries)
        ((Mapping.ofEntries (entryLabels caps entries)).flatMap Prod.snd)
  | .map entries =>
      keptLabels (Codec.encodePairs caps entries)
        ((Mapping.ofEntries (pairLabels caps entries)).flatMap Prod.snd)
  | .frame f => if caps.tables then f.index.getD [] else []
  | _ => []

/-- The labels of items. -/
def itemLabels (caps : Capabilities) : List Value → List Label
  | [] => []
  | v :: vs => Value.writtenLabels caps v ++ itemLabels caps vs

/-- The labels of entries, under the keys of the entries. -/
def entryLabels (caps : Capabilities) : List (String × Value) → List (String × List Label)
  | [] => []
  | (k, v) :: es => (k, Value.writtenLabels caps v) :: entryLabels caps es

/-- The labels of entries with any keys, under the texts of the keys. -/
def pairLabels (caps : Capabilities) : List (Value × Value) → List (String × List Label)
  | [] => []
  | (k, v) :: es =>
      match k.describe with
      | .ok key => (key, Value.writtenLabels caps v) :: pairLabels caps es
      | .error _ => pairLabels caps es

end

namespace Codec

variable {caps : Capabilities} {l : Label}

theorem itemLabels_eq (vs : List Value) :
    itemLabels caps vs = vs.flatMap (Value.writtenLabels caps) := by
  induction vs with
  | nil =>
      rfl
  | cons v vs ih =>
      rw [itemLabels, ih, List.flatMap_cons]

theorem entryLabels_eq (es : List (String × Value)) :
    entryLabels caps es = Mapping.mapValues (Value.writtenLabels caps) es := by
  induction es with
  | nil =>
      rfl
  | cons e es ih =>
      rcases e with ⟨k, v⟩
      rw [entryLabels, ih, Mapping.mapValues_cons]

/-- If all keys have texts, the labels stand under them. -/
theorem pairLabels_of_ok {es : List (Value × Value)} {js : List (String × Json)}
    (h : encodePairs caps es = .ok js) :
    ∃ named : List (String × Value),
      List.Forall₂ (fun e n => e.1.describe = .ok n.1 ∧ e.2 = n.2) es named ∧
        encodeEntries caps named = .ok js ∧
        pairLabels caps es = Mapping.mapValues (Value.writtenLabels caps) named := by
  simp only [encodeEntries_eq_ok, Mapping.keyed_iff_forall₂]
  induction encodePairs_eq_ok.mp h with
  | nil =>
      exact ⟨[], .nil, .nil, rfl⟩
  | @cons e j es js hfirst hrest ih =>
      obtain ⟨named, hnamed, hjs, hlabels⟩ := ih (encodePairs_eq_ok.mpr hrest)
      obtain ⟨hkey, hvalue⟩ := hfirst
      refine ⟨(j.1, e.2) :: named, .cons ⟨hkey, rfl⟩ hnamed, .cons ⟨rfl, hvalue⟩ hjs, ?_⟩
      rw [pairLabels, hkey, hlabels]
      rfl

/-- The labels written by a list are those that its items write. -/
theorem mem_itemLabels {vs : List Value} :
    l ∈ itemLabels caps vs ↔ ∃ v ∈ vs, l ∈ v.writtenLabels caps := by
  rw [itemLabels_eq, List.mem_flatMap]

/-- The labels of a mapping are those of the entries that are left. -/
theorem mem_labels_ofEntries {es : List (String × Value)} :
    l ∈ (Mapping.ofEntries (Mapping.mapValues (Value.writtenLabels caps) es)).flatMap Prod.snd ↔
      ∃ e ∈ Mapping.ofEntries es, l ∈ e.2.writtenLabels caps := by
  rw [Mapping.ofEntries_mapValues, List.mem_flatMap]
  constructor
  · rintro ⟨e, he, hl⟩
    rcases Mapping.mem_mapValues.mp he with ⟨e', he', rfl⟩
    exact ⟨e', he', hl⟩
  · rintro ⟨e, he, hl⟩
    exact ⟨(e.1, e.2.writtenLabels caps), Mapping.mem_mapValues.mpr ⟨e, he, rfl⟩, hl⟩

end Codec
end LineRpc
