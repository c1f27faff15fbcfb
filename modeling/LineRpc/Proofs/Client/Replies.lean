import LineRpc.Client
import LineRpc.Proofs.Codec.Elements
import LineRpc.Proofs.Envelope.Request
import LineRpc.Proofs.Json.Everywhere
import LineRpc.Proofs.Json.Line

/-!
# Replies — what a client makes of a line

A line comes from another process and may hold anything. It is blank, or no JSON text, or no
mapping, or a mapping with a value, with an error, or with neither; a value counts before an error.
Each kind of line is read as one kind of reply. One thing is in the way: the words of an error are
the text of whatever stands there, and a mapping with a key `toString` has no text, nor has a list
that holds one.

* `Json.Textless`         : values without a text
* `exists_toText_ofJson`  : every other value has one
* `Client.Says`           : what a line says, case by case
* `Client.read_eq_iff`    : reading gives what the line says, and nothing else
* `Client.read_classifies`: the kinds of lines and the kinds of replies
-/

namespace LineRpc

/-- A value without a text: a mapping that hides its text under a key of its own, or a list with
such a value among its items. -/
inductive Json.Textless : Json → Prop
  | obj {entries : List (String × Json)} (hidden : "toString" ∈ entries.map Prod.fst) :
      Textless (.obj entries)
  | arr {items : List Json} {j : Json} (mem : j ∈ items) (textless : Textless j) :
      Textless (.arr items)

/-! ## Texts of JSON values -/

namespace Value

/-- The text of a value as an item of a list, where nothing is empty. -/
def itemText : Value → Except Fault String
  | .undefined => .ok ""
  | .null => .ok ""
  | v => v.toText

theorem itemTexts_cons (v : Value) (vs : List Value) :
    itemTexts (v :: vs) = v.itemText.bind fun text => (itemTexts vs).map (text :: ·) := by
  cases v <;> rfl

/-- An item of an array has a text exactly when the item itself has one. -/
theorem exists_itemText {v : Value} :
    (∃ text, v.itemText = .ok text) ↔ ∃ text, v.toText = .ok text := by
  cases v with
  | undefined | null =>
      exact iff_of_true ⟨_, rfl⟩ ⟨_, rfl⟩
  | _ =>
      exact Iff.rfl

/-- A failure to put an item into words is that of the item itself. -/
theorem toText_of_itemText {v : Value} {e : Fault} (h : v.itemText = .error e) :
    v.toText = .error e := by
  cases v with
  | undefined | null =>
      cases h
  | _ =>
      exact h

/-- The items of a list have texts if and only if each of them has one outside of the list. -/
theorem exists_itemTexts {vs : List Value} :
    (∃ texts, itemTexts vs = .ok texts) ↔ ∀ v ∈ vs, ∃ text, v.toText = .ok text := by
  induction vs with
  | nil =>
      simp [itemTexts]
  | cons v vs ih =>
      rw [List.forall_mem_cons, ← ih, ← exists_itemText, itemTexts_cons]
      constructor
      · rintro ⟨texts, h⟩
        obtain ⟨text, htext, hrest⟩ := ok_of_bind h
        exact ⟨⟨text, htext⟩, exists_map_ok.mp ⟨texts, hrest⟩⟩
      · rintro ⟨⟨text, htext⟩, ⟨texts, hrest⟩⟩
        exact ⟨text :: texts, by simp [htext, hrest, Except.bind, Except.map]⟩

/-- If the texts of items fail, then that of one of them does. -/
theorem error_of_itemTexts {vs : List Value} {e : Fault} (h : itemTexts vs = .error e) :
    ∃ v ∈ vs, v.toText = .error e := by
  induction vs with
  | nil =>
      simp [itemTexts] at h
  | cons v vs ih =>
      rw [itemTexts_cons] at h
      rcases error_of_bind h with hfirst | ⟨text, -, hrest⟩
      · exact ⟨v, by simp, toText_of_itemText hfirst⟩
      · obtain ⟨u, hu, herror⟩ := ih (map_eq_error.mp hrest)
        exact ⟨u, by simp [hu], herror⟩

/-- No key of a mapping on the wire can be called, but one may hide what is inherited. -/
theorem callKey_ofJson (entries : List (String × Json)) (key : String) :
    callKey true (Mapping.mapValues Value.ofJson entries) key =
      if key = "toString" ∧ Mapping.get? entries key = none then some (.ok (.str "[object Object]"))
      else none := by
  rw [callKey, Mapping.get?_mapValues]
  cases Mapping.get? entries key with
  | none =>
      simp
  | some j =>
      cases j <;> simp [Value.ofJson]

/-- A mapping on the wire hides its text if it has a key of that name. -/
theorem mappingText_ofJson (entries : List (String × Json)) :
    (Value.mapping (Mapping.mapValues Value.ofJson entries)).mappingText =
      if Mapping.get? entries "toString" = none then .ok "[object Object]"
      else .error Fault.noPrimitive := by
  have hvalueOf : callKey true (Mapping.mapValues Value.ofJson entries) "valueOf" = none := by
    rw [callKey_ofJson, if_neg (by simp)]
  simp only [mappingText, primitive, call?, callKey_ofJson entries "toString", hvalueOf, true_and]
  by_cases hidden : Mapping.get? entries "toString" = none
  · rw [if_pos hidden, if_pos hidden]
    rfl
  · rw [if_neg hidden, if_neg hidden]
    rfl

/-- A JSON value has a text unless one is hidden in it. -/
theorem exists_toText_ofJson (j : Json) :
    (∃ text, (Value.ofJson j).toText = .ok text) ↔ ¬ j.Textless := by
  induction j with
  | null =>
      exact iff_of_true ⟨_, rfl⟩ (by rintro ⟨⟩)
  | bool b =>
      refine iff_of_true ?_ (by rintro ⟨⟩)
      cases b <;> exact ⟨_, rfl⟩
  | num x | str s =>
      exact iff_of_true ⟨_, rfl⟩ (by rintro ⟨⟩)
  | arr items ih =>
      have htexts : (∃ text, (Value.ofJson (.arr items)).toText = .ok text) ↔
          ∀ j ∈ items, ∃ text, (Value.ofJson j).toText = .ok text := by
        rw [Codec.ofJson_arr, toText, exists_map_ok, exists_itemTexts, List.forall_mem_map]
      rw [htexts]
      constructor
      · intro h textless
        cases textless with
        | arr mem textless =>
            exact (ih _ mem).mp (h _ mem) textless
      · intro h j mem
        exact (ih j mem).mpr fun textless => h (.arr mem textless)
  | obj entries ih =>
      -- What stands under the keys of a mapping does not matter, only the keys do.
      rw [Codec.ofJson_obj, toText, mappingText_ofJson]
      by_cases hidden : Mapping.get? entries "toString" = none
      · rw [if_pos hidden]
        refine iff_of_true ⟨_, rfl⟩ ?_
        rintro ⟨here⟩
        exact Mapping.not_mem_of_get?_eq_none hidden here
      · rw [if_neg hidden]
        refine iff_of_false nofun fun h => h (.obj ?_)
        by_contra hnot
        exact hidden (Mapping.get?_eq_none hnot)

/-- There is one reason why a JSON value has no text. -/
theorem noPrimitive_of_toText_ofJson {j : Json} {e : Fault}
    (h : (Value.ofJson j).toText = .error e) : e = Fault.noPrimitive := by
  induction j with
  | null | num x | str s =>
      cases h
  | bool b =>
      cases b <;> cases h
  | arr items ih =>
      rw [Codec.ofJson_arr, toText] at h
      obtain ⟨v, hv, herror⟩ := error_of_itemTexts (map_eq_error.mp h)
      obtain ⟨j, hj, rfl⟩ := List.mem_map.mp hv
      exact ih j hj herror
  | obj entries ih =>
      rw [Codec.ofJson_obj, toText, mappingText_ofJson] at h
      split at h
      · cases h
      · cases h
        rfl

/-- Asking a JSON value for its text expressly makes no difference. -/
theorem string_ofJson (j : Json) : (Value.ofJson j).string = (Value.ofJson j).toText := by
  cases j <;> rfl

end Value

/-! ## Lines -/

namespace Client

variable {caps : Capabilities} {line : String}

/-- What a line says under given capabilities, or why it cannot be said. -/
inductive Says (caps : Capabilities) (line : String) : Except Fault Reply → Prop
  | empty (blank : Text.isBlankLine line = true) : Says caps line (.ok (.invalid .emptyLine))
  | unreadable (blank : Text.isBlankLine line = false) (unread : readLine? line = none) :
      Says caps line (.ok (.invalid .decodeFailed))
  | other {j : Json} (read : readLine? line = some j) (other : ∀ entries, j ≠ .obj entries) :
      Says caps line (.ok (.invalid .invalidResponse))
  | value {entries : List (String × Json)} {j : Json} {v : Value}
      (read : readLine? line = some (.obj entries)) (ok : Mapping.get? entries "ok" = some j)
      (decoded : Codec.decodeJson caps j = .ok v) : Says caps line (.ok (.ok v))
  | refused {entries : List (String × Json)} {j : Json} {e : DecodeError}
      (read : readLine? line = some (.obj entries)) (ok : Mapping.get? entries "ok" = some j)
      (refused : Codec.decodeJson caps j = .error e) : Says caps line (.ok (.invalid .decodeFailed))
  | error {entries : List (String × Json)} {j : Json} {message : String}
      (read : readLine? line = some (.obj entries)) (ok : Mapping.get? entries "ok" = none)
      (error : Mapping.get? entries "error" = some j)
      (text : (Value.ofJson j).toText = .ok message) : Says caps line (.ok (.error message))
  | textless {entries : List (String × Json)} {j : Json}
      (read : readLine? line = some (.obj entries)) (ok : Mapping.get? entries "ok" = none)
      (error : Mapping.get? entries "error" = some j) (textless : j.Textless) :
      Says caps line (.error Fault.noPrimitive)
  | neither {entries : List (String × Json)} (read : readLine? line = some (.obj entries))
      (ok : Mapping.get? entries "ok" = none) (error : Mapping.get? entries "error" = none) :
      Says caps line (.ok (.invalid .invalidResponse))

/-- Reading finds what the line says. -/
theorem says_read (caps : Capabilities) (line : String) : Says caps line (read caps line) := by
  rw [read]
  by_cases hblank : Text.isBlankLine line = true
  · simpa [hblank] using Says.empty hblank
  have hnonblank : Text.isBlankLine line = false := by simpa using hblank
  simp only [hnonblank, Bool.false_eq_true, if_false]
  cases hread : readLine? line with
  | none =>
      exact .unreadable hnonblank hread
  | some j =>
      cases j with
      | obj entries =>
          -- A value counts before an error, whatever it is.
          cases hok : Mapping.get? entries "ok" with
          | some value =>
              cases hdecode : Codec.decodeJson caps value with
              | ok v =>
                  simpa [hok, hdecode] using Says.value hread hok hdecode
              | error e =>
                  simpa [hok, hdecode] using Says.refused hread hok hdecode
          | none =>
              cases herror : Mapping.get? entries "error" with
              | none =>
                  simpa [hok, herror] using Says.neither hread hok herror
              | some e =>
                  cases htext : (Value.ofJson e).toText with
                  | ok message =>
                      simpa [hok, herror, Value.string_ofJson, htext, Except.map] using
                        Says.error hread hok herror htext
                  | error reason =>
                      have hreason := Value.noPrimitive_of_toText_ofJson htext
                      have htextless : e.Textless := by
                        by_contra h
                        obtain ⟨text, h⟩ := (Value.exists_toText_ofJson e).mpr h
                        cases h.symm.trans htext
                      have hsays : Says caps line (.error Fault.noPrimitive) :=
                        .textless hread hok herror htextless
                      simpa [hok, herror, Value.string_ofJson, htext, hreason, Except.map] using hsays
      | _ =>
          exact .other hread (by simp)

/-- What a line says is what is read. -/
theorem read_of_says {r : Except Fault Reply} (h : Says caps line r) : read caps line = r := by
  cases h with
  | empty blank =>
      simp [read, blank]
  | unreadable blank unread =>
      simp [read, blank, unread]
  | @other j hread hother =>
      have hnonblank := isBlankLine_of_readLine? hread
      cases j with
      | obj entries =>
          exact absurd rfl (hother entries)
      | _ =>
          simp [read, hnonblank, hread]
  | value hread hok decoded =>
      simp [read, isBlankLine_of_readLine? hread, hread, hok, decoded]
  | refused hread hok refused =>
      simp [read, isBlankLine_of_readLine? hread, hread, hok, refused]
  | error hread hok herror text =>
      simp [read, isBlankLine_of_readLine? hread, hread, hok, herror, Value.string_ofJson, text,
        Except.map]
  | @textless entries j hread hok herror textless =>
      -- The text is missing, and there is one reason only why it can be.
      cases htext : (Value.ofJson j).toText with
      | ok message =>
          exact absurd textless ((Value.exists_toText_ofJson j).mp ⟨message, htext⟩)
      | error reason =>
          simp [read, isBlankLine_of_readLine? hread, hread, hok, herror, Value.string_ofJson, htext,
            Value.noPrimitive_of_toText_ofJson htext, Except.map]
  | neither hread hok herror =>
      simp [read, isBlankLine_of_readLine? hread, hread, hok, herror]

/-- What a line is read as and what it says are the same. -/
theorem read_eq_iff {r : Except Fault Reply} : read caps line = r ↔ Says caps line r := by
  constructor
  · rintro rfl
    exact says_read caps line
  · exact read_of_says

/-! ## The classes of lines -/

/-- Why a line is not decoded. -/
theorem says_decodeFailed_iff :
    Says caps line (.ok (.invalid .decodeFailed)) ↔
      (Text.isBlankLine line = false ∧ readLine? line = none) ∨
        ∃ entries j e, readLine? line = some (.obj entries) ∧
          Mapping.get? entries "ok" = some j ∧ Codec.decodeJson caps j = .error e := by
  constructor
  · intro h
    cases h with
    | unreadable blank unread =>
        exact Or.inl ⟨blank, unread⟩
    | refused hread hok refused =>
        exact Or.inr ⟨_, _, _, hread, hok, refused⟩
  · rintro (⟨blank, unread⟩ | ⟨entries, j, e, hread, hok, refused⟩)
    · exact .unreadable blank unread
    · exact .refused hread hok refused

/-- Why a line is no answer. -/
theorem says_invalidResponse_iff :
    Says caps line (.ok (.invalid .invalidResponse)) ↔
      ∃ j, readLine? line = some j ∧ ∀ entries, j = .obj entries →
        Mapping.get? entries "ok" = none ∧ Mapping.get? entries "error" = none := by
  constructor
  · intro h
    cases h with
    | other hread hother =>
        exact ⟨_, hread, fun entries hj => absurd hj (hother entries)⟩
    | neither hread hok herror =>
        refine ⟨_, hread, ?_⟩
        rintro entries ⟨⟩
        exact ⟨hok, herror⟩
  · rintro ⟨j, hread, hentries⟩
    by_cases hobj : ∃ entries, j = .obj entries
    · obtain ⟨entries, rfl⟩ := hobj
      obtain ⟨hok, herror⟩ := hentries entries rfl
      exact .neither hread hok herror
    · exact .other hread fun entries hj => hobj ⟨entries, hj⟩

/-- A line with a value says that value. -/
theorem says_value_iff {v : Value} :
    Says caps line (.ok (.ok v)) ↔
      ∃ entries j, readLine? line = some (.obj entries) ∧
        Mapping.get? entries "ok" = some j ∧ Codec.decodeJson caps j = .ok v := by
  constructor
  · intro h
    cases h with
    | value hread hok decoded =>
        exact ⟨_, _, hread, hok, decoded⟩
  · rintro ⟨entries, j, hread, hok, decoded⟩
    exact .value hread hok decoded

/-- A line with an error and no value says the words of the error. -/
theorem says_error_iff {message : String} :
    Says caps line (.ok (.error message)) ↔
      ∃ entries j, readLine? line = some (.obj entries) ∧ Mapping.get? entries "ok" = none ∧
        Mapping.get? entries "error" = some j ∧ (Value.ofJson j).toText = .ok message := by
  constructor
  · intro h
    cases h with
    | error hread hok herror text =>
        exact ⟨_, _, hread, hok, herror, text⟩
  · rintro ⟨entries, j, hread, hok, herror, text⟩
    exact .error hread hok herror text

/-- If the error has no words, neither has the line. -/
theorem says_textless_iff {e : Fault} :
    Says caps line (.error e) ↔ e = Fault.noPrimitive ∧
      ∃ entries j, readLine? line = some (.obj entries) ∧ Mapping.get? entries "ok" = none ∧
        Mapping.get? entries "error" = some j ∧ j.Textless := by
  constructor
  · intro h
    cases h with
    | textless hread hok herror textless =>
        exact ⟨rfl, _, _, hread, hok, herror, textless⟩
  · rintro ⟨rfl, entries, j, hread, hok, herror, textless⟩
    exact .textless hread hok herror textless

/-- A client finds a blank line empty; it cannot decode a line exactly if the line is no JSON text
or holds a value that is not decoded; it takes a line for no answer exactly if the line is JSON but
no mapping with a value or an error; it finds a value exactly if the line holds one that is decoded;
and it finds an error exactly if the line holds no value but an error that has a text, whose words
are that text. The one line on which it fails is a line that holds no value but an error without a
text. -/
theorem read_classifies (caps : Capabilities) (line : String) :
    (read caps line = .ok (.invalid .emptyLine) ↔ Text.isBlankLine line = true) ∧
    (read caps line = .ok (.invalid .decodeFailed) ↔
      (Text.isBlankLine line = false ∧ readLine? line = none) ∨
        ∃ entries j e, readLine? line = some (.obj entries) ∧
          Mapping.get? entries "ok" = some j ∧ Codec.decodeJson caps j = .error e) ∧
    (read caps line = .ok (.invalid .invalidResponse) ↔
      ∃ j, readLine? line = some j ∧ ∀ entries, j = .obj entries →
        Mapping.get? entries "ok" = none ∧ Mapping.get? entries "error" = none) ∧
    (∀ v, read caps line = .ok (.ok v) ↔
      ∃ entries j, readLine? line = some (.obj entries) ∧
        Mapping.get? entries "ok" = some j ∧ Codec.decodeJson caps j = .ok v) ∧
    (∀ message, read caps line = .ok (.error message) ↔
      ∃ entries j, readLine? line = some (.obj entries) ∧ Mapping.get? entries "ok" = none ∧
        Mapping.get? entries "error" = some j ∧ (Value.ofJson j).toText = .ok message) ∧
    (∀ e, read caps line = .error e ↔ e = Fault.noPrimitive ∧
      ∃ entries j, readLine? line = some (.obj entries) ∧ Mapping.get? entries "ok" = none ∧
        Mapping.get? entries "error" = some j ∧ j.Textless) ∧
    ∀ j, (∃ message, (Value.ofJson j).toText = .ok message) ↔ ¬ j.Textless := by
  simp only [read_eq_iff]
  refine ⟨?_, says_decodeFailed_iff, says_invalidResponse_iff, fun v => says_value_iff,
    fun message => says_error_iff, fun e => says_textless_iff, Value.exists_toText_ofJson⟩
  constructor
  · rintro ⟨blank⟩
    exact blank
  · exact .empty

/-- An answer whose error is a mapping with a key `toString`. -/
def hiddenError : Json :=
  .obj [("error", .obj [("toString", .null)])]

example : writeLine hiddenError = "\x7b\"error\":\x7b\"toString\":null\x7d\x7d\n" := by
  rfl

/-- It is a line with an error and no value, and the client fails on it. -/
theorem read_hiddenError :
    readLine? (writeLine hiddenError) = some hiddenError ∧
      ¬ ∃ reply, read .full (writeLine hiddenError) = .ok reply := by
  have hline : readLine? (writeLine hiddenError) = some hiddenError := by
    rw [readLine?_writeLine]
    rfl
  have hfail : read .full (writeLine hiddenError) = .error Fault.noPrimitive := by
    refine read_of_says (.textless hline rfl rfl ?_)
    exact .obj (by simp)
  refine ⟨hline, ?_⟩
  rintro ⟨reply, hreply⟩
  cases hfail.symm.trans hreply

end Client
end LineRpc
