import Mathlib.Data.List.TakeWhile
import LineRpc.Envelope.Request
import LineRpc.Proofs.Codec.Payload

/-!
# Request — which lines are calls

A mapping is a call if it passes every check: no control command stands in it, it names a module and
a function by texts that are not empty, its arguments are a list if they are there at all, and its
keywords a mapping unless they say nothing. Nothing else in it counts.

* `Request.Asks`     : what the fields of a call are, as they are looked at
* `Request.Spells`   : what they are on the wire
* `classify_eq_call` : exactly these mappings are calls
* `classify_ofJson`  : exactly these values of the wire are calls
-/

namespace LineRpc

/-- A call with its parts as they are on the wire. -/
structure WireCall where
  module : String
  function : String
  items : List Json
  pairs : List (String × Json)

namespace WireCall

/-- The call that a worker takes up. -/
def call (c : WireCall) : Call where
  module := c.module
  function := c.function
  args := c.items.map Value.ofJson
  kwargs := Mapping.mapValues Value.ofJson c.pairs

/-- The values that are decoded, in the order in which they are. -/
def parts (c : WireCall) : List Json :=
  c.items ++ c.pairs.map Prod.snd

end WireCall

theorem call_eq {c : Call} {items : List Json} {pairs : List (String × Json)}
    (ha : items.map Value.ofJson = c.args) (hk : Mapping.mapValues Value.ofJson pairs = c.kwargs) :
    (WireCall.mk c.module c.function items pairs).call = c := by
  rw [WireCall.call, ha, hk]

namespace Request

/-- What the fields of a call are. -/
structure Asks (entries : List (String × Value)) (c : Call) : Prop where
  command : ∀ w : Control, Mapping.get? entries "cmd" ≠ some (.str w.word)
  module : Mapping.get? entries "m" = some (.str c.module)
  function : Mapping.get? entries "f" = some (.str c.function)
  named : c.module ≠ "" ∧ c.function ≠ ""
  positional : Mapping.get? entries "a" = none ∧ c.args = [] ∨
    Mapping.get? entries "a" = some (.list c.args)
  keywords : keywords (Mapping.get? entries "k") = .ok c.kwargs

/-- What the fields of a call are on the wire. -/
structure Spells (entries : List (String × Json)) (c : WireCall) : Prop where
  command : ∀ w : Control, Mapping.get? entries "cmd" ≠ some (.str w.word)
  module : Mapping.get? entries "m" = some (.str c.module)
  function : Mapping.get? entries "f" = some (.str c.function)
  named : c.module ≠ "" ∧ c.function ≠ ""
  positional : Mapping.get? entries "a" = none ∧ c.items = [] ∨
    Mapping.get? entries "a" = some (.arr c.items)
  keywords : (Mapping.get? entries "k" = none ∨ Mapping.get? entries "k" = some .null) ∧
      c.pairs = [] ∨
    Mapping.get? entries "k" = some (.obj c.pairs)

variable {v : Value} {entries : List (String × Value)} {c : Call}

/-! ## The checks one by one -/

/-- A request is no command exactly when its command word is none of the known. -/
theorem control?_eq_none :
    control? v = none ↔ ∀ w : Control, v.field? "cmd" ≠ some (.str w.word) := by
  rw [control?]
  split
  · rename_i hcmd
    exact iff_of_false (Option.some_ne_none _) fun h => h .ping hcmd
  · rename_i hcmd
    exact iff_of_false (Option.some_ne_none _) fun h => h .health hcmd
  · rename_i hping hhealth
    refine iff_of_true rfl ?_
    intro w
    cases w with
    | ping =>
        exact hping
    | health =>
        exact hhealth

theorem string_eq_nil {path : List Step} {o : Option Value} :
    Schema.string path o = [] ↔ ∃ s, o = some (.str s) := by
  constructor
  · intro h
    unfold Schema.string at h
    split at h
    · exact ⟨_, rfl⟩
    · cases h
  · rintro ⟨s, rfl⟩
    rfl

/-- Arguments are of any form if they are a list. -/
theorem optional_listOf_eq_nil {path : List Step} {o : Option Value} :
    Schema.optional (Schema.listOf path fun _ _ => []) o = [] ↔
      o = none ∨ ∃ items, o = some (.list items) := by
  cases o with
  | none =>
      exact iff_of_true rfl (Or.inl rfl)
  | some v =>
      rw [Schema.optional]
      cases v with
      | list items =>
          exact iff_of_true (Codec.listOf_eq_nil fun _ _ _ => rfl) (Or.inr ⟨items, rfl⟩)
      | _ =>
          refine iff_of_false (List.cons_ne_nil _ _) ?_
          rintro (h | ⟨items, h⟩) <;> cases h

/-- A request passes the check exactly when both names are texts and the arguments, if any, a
list. -/
theorem problems_eq_nil :
    problems v = [] ↔ (∃ f, v.field? "f" = some (.str f)) ∧ (∃ m, v.field? "m" = some (.str m)) ∧
      (v.field? "a" = none ∨ ∃ items, v.field? "a" = some (.list items)) := by
  rw [problems, List.append_eq_nil_iff, List.append_eq_nil_iff, string_eq_nil, string_eq_nil,
    optional_listOf_eq_nil, and_assoc]

/-- A text is missing only when it is empty. -/
theorem isMissing_str {s : String} : isMissing (some (.str s)) = false ↔ s ≠ "" := by
  simp [isMissing]

/-! ## Calls -/

/-- A mapping is a call exactly if its fields are those of the call. -/
theorem classify_eq_call : classify (.mapping entries) = .call c ↔ Asks entries c := by
  have hfield (key : String) : (Value.mapping entries).field? key = Mapping.get? entries key := rfl
  have hrecord : (!(Value.mapping entries).isRecord) = false := rfl
  constructor
  · intro h
    rw [classify, hrecord, if_neg Bool.false_ne_true] at h
    split at h
    · cases h
    rename_i hcontrol
    split at h
    · cases h
    rename_i hmissing
    split at h
    · rename_i hproblems
      split at h
      · cases h
      rename_i kwargs hkeywords
      cases h
      -- All checks are passed, and they say what the fields are.
      rcases problems_eq_nil.mp hproblems with ⟨⟨f, hf⟩, ⟨m, hm⟩, ha⟩
      rw [hm, hf, Bool.not_eq_true, Bool.or_eq_false_iff, isMissing_str, isMissing_str] at hmissing
      refine ⟨control?_eq_none.mp hcontrol, ?_, ?_, ?_, ?_, hkeywords⟩
      · rw [hm, ← hfield, hm]
        rfl
      · rw [hf, ← hfield, hf]
        rfl
      · rw [hm, hf]
        exact hmissing
      · rcases ha with ha | ⟨items, ha⟩
        · rw [ha]
          exact Or.inl ⟨ha, rfl⟩
        · rw [ha]
          exact Or.inr ha
    · cases h
  · intro h
    have hcontrol : control? (.mapping entries) = none := control?_eq_none.mpr h.command
    have hmissing :
        (isMissing (some (.str c.module)) || isMissing (some (.str c.function))) = false := by
      rw [isMissing_str.mpr h.named.1, isMissing_str.mpr h.named.2]
      rfl
    have hproblems : problems (.mapping entries) = [] := by
      refine problems_eq_nil.mpr ⟨⟨_, h.function⟩, ⟨_, h.module⟩, ?_⟩
      rcases h.positional with ⟨ha, -⟩ | ha
      · exact Or.inl ha
      · exact Or.inr ⟨_, ha⟩
    have hitems : itemsOf (Mapping.get? entries "a") = c.args := by
      rcases h.positional with ⟨ha, hnil⟩ | ha
      · rw [ha, hnil]
        rfl
      · rw [ha]
        rfl
    -- The checks are passed one after the other, in the order in which they are made.
    rw [classify, hrecord, if_neg Bool.false_ne_true, hcontrol, hproblems]
    simp only [hfield, h.module, h.function, hmissing, h.keywords, hitems]
    rfl

/-! ## Calls on the wire -/

theorem map_ofJson_str {o : Option Json} {s : String} :
    o.map Value.ofJson = some (.str s) ↔ o = some (.str s) := by
  constructor
  · intro h
    rcases Option.map_eq_some_iff.mp h with ⟨j, rfl, hj⟩
    cases j <;> cases hj
    rfl
  · rintro rfl
    rfl

theorem map_ofJson_list {o : Option Json} {vs : List Value} :
    o.map Value.ofJson = some (.list vs) ↔
      ∃ items, o = some (.arr items) ∧ items.map Value.ofJson = vs := by
  constructor
  · intro h
    rcases Option.map_eq_some_iff.mp h with ⟨j, rfl, hj⟩
    cases j <;> cases hj
    exact ⟨_, rfl, (Codec.ofJsonList_eq _).symm⟩
  · rintro ⟨items, rfl, rfl⟩
    rw [Option.map_some, Codec.ofJson_arr]

/-- Keywords are taken over from a mapping, and there are none in null or in a missing field. -/
theorem keywords_ofJson {o : Option Json} {es : List (String × Value)} :
    keywords (o.map Value.ofJson) = .ok es ↔
      (o = none ∨ o = some .null) ∧ es = [] ∨
        ∃ pairs, o = some (.obj pairs) ∧ Mapping.mapValues Value.ofJson pairs = es := by
  cases o with
  | none =>
      simp [keywords, eq_comm]
  | some j =>
      cases j with
      | null =>
          simp [keywords, Value.ofJson, eq_comm]
      | obj pairs =>
          simp [keywords, Value.ofJson, Value.isRecord, Value.basicType, Value.entries,
            Codec.ofJsonEntries_eq]
      | _ =>
          simp [keywords, Value.ofJson, Value.isRecord, Value.basicType]

/-- A document asks for a call exactly when it spells one. -/
theorem asks_mapValues {entries : List (String × Json)} :
    Asks (Mapping.mapValues Value.ofJson entries) c ↔ ∃ w : WireCall, Spells entries w ∧ w.call = c := by
  have hget (key : String) : Mapping.get? (Mapping.mapValues Value.ofJson entries) key =
      (Mapping.get? entries key).map Value.ofJson := Mapping.get?_mapValues _ _ _
  constructor
  · intro h
    have hcommand (w : Control) : Mapping.get? entries "cmd" ≠ some (.str w.word) := fun hw =>
      h.command w ((hget _).trans (map_ofJson_str.mpr hw))
    have hm := map_ofJson_str.mp ((hget _).symm.trans h.module)
    have hf := map_ofJson_str.mp ((hget _).symm.trans h.function)
    -- The items and the pairs are found in the fields, or there are none.
    obtain ⟨items, ha, hargs⟩ : ∃ items, (Mapping.get? entries "a" = none ∧ items = [] ∨
        Mapping.get? entries "a" = some (.arr items)) ∧ items.map Value.ofJson = c.args := by
      rcases h.positional with ⟨ha, hnil⟩ | ha
      · rw [hget, Option.map_eq_none_iff] at ha
        exact ⟨[], Or.inl ⟨ha, rfl⟩, hnil.symm⟩
      · rcases map_ofJson_list.mp ((hget _).symm.trans ha) with ⟨items, hitems, hargs⟩
        exact ⟨items, Or.inr hitems, hargs⟩
    have hk := h.keywords
    rw [hget] at hk
    rcases keywords_ofJson.mp hk with ⟨hnone, hnil⟩ | ⟨pairs, hpairs, hkwargs⟩
    · exact ⟨⟨c.module, c.function, items, []⟩,
        ⟨hcommand, hm, hf, h.named, ha, Or.inl ⟨hnone, rfl⟩⟩, call_eq hargs hnil.symm⟩
    · exact ⟨⟨c.module, c.function, items, pairs⟩,
        ⟨hcommand, hm, hf, h.named, ha, Or.inr hpairs⟩, call_eq hargs hkwargs⟩
  · rintro ⟨w, h, rfl⟩
    refine ⟨?_, ?_, ?_, h.named, ?_, ?_⟩
    · intro control hcontrol
      exact h.command control (map_ofJson_str.mp ((hget _).symm.trans hcontrol))
    · exact (hget _).trans (map_ofJson_str.mpr h.module)
    · exact (hget _).trans (map_ofJson_str.mpr h.function)
    · rw [hget]
      rcases h.positional with ⟨ha, hnil⟩ | ha
      · rw [ha, WireCall.call, hnil]
        exact Or.inl ⟨rfl, rfl⟩
      · exact Or.inr (map_ofJson_list.mpr ⟨_, ha, rfl⟩)
    · rw [hget]
      rcases h.keywords with ⟨hk, hnil⟩ | hk
      · rw [WireCall.call, hnil]
        exact keywords_ofJson.mpr (Or.inl ⟨hk, rfl⟩)
      · exact keywords_ofJson.mpr (Or.inr ⟨_, hk, rfl⟩)

/-- A value of the wire is a call exactly if it is a mapping that spells it. -/
theorem classify_ofJson {j : Json} :
    classify (.ofJson j) = .call c ↔
      ∃ entries, j = .obj entries ∧ ∃ w : WireCall, Spells entries w ∧ w.call = c := by
  cases j with
  | obj entries =>
      rw [Codec.ofJson_obj, classify_eq_call, asks_mapValues]
      constructor
      · intro h
        exact ⟨entries, rfl, h⟩
      · rintro ⟨entries', hj, h⟩
        cases hj
        exact h
  | _ =>
      refine iff_of_false ?_ ?_
      · intro h
        cases h
      · rintro ⟨_, h, -⟩
        cases h

end Request

/-! ## Lines -/

/-- A blank line says nothing. -/
theorem isBlankLine_of_readLine? {line : String} {j : Json} (h : readLine? line = some j) :
    Text.isBlankLine line = false := by
  by_contra hblank
  rw [Bool.not_eq_false, Text.isBlankLine, List.all_eq_true] at hblank
  have hnil : line.toList.dropWhile Text.isBlank = [] := List.dropWhile_eq_nil_iff.mpr hblank
  have hempty : Json.parse? "" = none := by
    rw [Json.parse?, String.toList_empty, Json.Token.scan?]
    rfl
  rw [readLine?, Text.trim, Text.trimChars, hnil] at h
  cases hempty.symm.trans h

end LineRpc
