import LineRpc.Proofs.Codec.NormalForm

/-!
# Restriction — decoding with fewer capabilities

A worker that understands less either says that a kind of values is not supported or does the same
as one that understands more: it gives the same value, or finds the same fault. It never takes a
typed value for something else, and a value that it gives holds nothing that it does not understand.

* `Refines`             : the same result, or the error that something is not supported
* `refines_decode`      : decoding with fewer capabilities refines decoding with more
* `Blames`              : what errors can be about
* `Value.Within`        : what a value holds at any depth
* `decode_restricted`   : all of this together
-/

namespace LineRpc

/-- What a value holds directly. -/
def Value.parts : Value → List Value
  | .list items => items
  | .set items => items
  | .iterable items _ _ _ => items
  | .mapping entries => entries.map Prod.snd
  | .bare entries => entries.map Prod.snd
  | .guarded entries _ _ => entries.map Prod.snd
  | .map entries => entries.map Prod.fst ++ entries.map Prod.snd
  | .series s => [.ndarray s.values]
  | .frame f => [.ndarray f.values]
  | .error _ message name => message.toOption.toList ++ (name.bind Except.toOption).toList
  | _ => []

/-- A value is another one, or stands in it at some depth. -/
inductive Value.Within (u : Value) : Value → Prop
  | self : Within u u
  | part {v w : Value} (mem : v ∈ w.parts) (within : Within u v) : Within u w

namespace Codec

variable {c c' : Capabilities} {j : Json}

/-! ## Two results -/

/-- The one result is the error that something is not supported, or it is the same as the other. -/
def Refines {α : Type} (r r' : Except DecodeError α) : Prop :=
  (∃ e, r = .error e ∧ e.errorClass = .unsupported) ∨ r = r'

section Results

variable {α β : Type} {r r' : Except DecodeError α}

theorem Refines.refl (r : Except DecodeError α) : Refines r r :=
  Or.inr rfl

/-- Steps that refine one another do so in sequence. -/
theorem Refines.bind {f f' : α → Except DecodeError β} (h : Refines r r')
    (hf : ∀ a, Refines (f a) (f' a)) : Refines (r.bind f) (r'.bind f') := by
  rcases h with ⟨e, rfl, he⟩ | rfl
  · exact Or.inl ⟨e, rfl, he⟩
  · cases r with
    | error e =>
        exact Or.inr rfl
    | ok a =>
        exact hf a

theorem Refines.map (h : Refines r r') (f : α → β) : Refines (r.map f) (r'.map f) := by
  rcases h with ⟨e, rfl, he⟩ | rfl
  · exact Or.inl ⟨e, rfl, he⟩
  · exact Or.inr rfl

end Results

/-! ## Decoding twice -/

/-- With fewer capabilities an array is decoded to the same, or not supported. -/
theorem refines_decodeArray (h : c.Included c') (payload : Value) :
    Refines (decodeArray c payload) (decodeArray c' payload) := by
  rw [decodeArray_eq, decodeArray_eq]
  cases hc : c.arrays with
  | false =>
      exact Or.inl ⟨.arraysDisabled, rfl, rfl⟩
  | true =>
      rw [h.1 hc]
      exact .refl _

/-- A table has an array in it, which is decoded with the same capabilities. -/
theorem refines_decodeTable (h : c.Included c') (payload : Value) :
    Refines (decodeTable c payload) (decodeTable c' payload) := by
  rw [decodeTable_eq, decodeTable_eq]
  cases hc : c.tables with
  | false =>
      exact Or.inl ⟨.tablesDisabled, rfl, rfl⟩
  | true =>
      rw [h.2 hc]
      refine .bind (.refl _) fun _ => ?_
      refine .bind (.refl _) fun p => ?_
      refine .bind (.refl _) fun _ => ?_
      exact .bind (refines_decodeArray h p.data) fun values => .refl _

/-- Which marker counts does not depend on the capabilities. -/
theorem refines_decodeMarked? (h : c.Included c') (es : List (String × Value)) :
    (decodeMarked? c es = none ∧ decodeMarked? c' es = none) ∨
      ∃ r r', decodeMarked? c es = some r ∧ decodeMarked? c' es = some r' ∧ Refines r r' := by
  rw [decodeMarked?, decodeMarked?]
  cases Mapping.get? es Marker.array with
  | some payload =>
      exact Or.inr ⟨_, _, rfl, rfl, (refines_decodeArray h payload).map _⟩
  | none =>
      cases Mapping.get? es Marker.table with
      | some payload =>
          exact Or.inr ⟨_, _, rfl, rfl, (refines_decodeTable h payload).map _⟩
      | none =>
          cases Mapping.get? es Marker.bytes with
          | some payload =>
              exact Or.inr ⟨_, _, rfl, rfl, .refl _⟩
          | none =>
              exact Or.inl ⟨rfl, rfl⟩

/-- Both runs go through a list in the same order, up to the first error. -/
theorem refines_decodeList {vs : List Value} (h : ∀ v ∈ vs, Refines (decode c v) (decode c' v)) :
    Refines (decodeList c vs) (decodeList c' vs) := by
  induction vs with
  | nil =>
      exact .refl _
  | cons v vs ih =>
      rcases List.forall_mem_cons.mp h with ⟨hv, hvs⟩
      rw [decodeList_cons, decodeList_cons]
      exact .bind hv fun w => .bind (ih hvs) fun ws => .refl _

/-- Entries are refined when each of their values is. -/
theorem refines_decodeEntries {es : List (String × Value)}
    (h : ∀ e ∈ es, Refines (decode c e.2) (decode c' e.2)) :
    Refines (decodeEntries c es) (decodeEntries c' es) := by
  rw [decodeEntries_eq, decodeEntries_eq]
  exact (refines_decodeList (List.forall_mem_map.mpr h)).map _

/-- Decoding with fewer capabilities refines decoding with more. -/
theorem refines_decode (h : c.Included c') (j : Json) :
    Refines (decodeJson c j) (decodeJson c' j) := by
  -- The induction is on the value; that both runs stop at the same place is in the lemmas above.
  induction j with
  | null | bool b | num x | str s =>
      exact .refl _
  | arr items ih =>
      rw [decodeJson_arr, decodeJson_arr]
      exact (refines_decodeList (List.forall_mem_map.mpr ih)).map _
  | obj entries ih =>
      rw [decodeJson_obj, decodeJson_obj, decode_mapping, decode_mapping]
      obtain ⟨hc, hc'⟩ | ⟨r, r', hc, hc', hr⟩ :=
        refines_decodeMarked? h (Mapping.mapValues Value.ofJson entries)
      · rw [hc, hc']
        refine (refines_decodeEntries ?_).map _
        intro e he
        rcases Mapping.mem_mapValues.mp he with ⟨e', he', rfl⟩
        exact ih e' he'
      · rw [hc, hc']
        exact hr

/-! ## What errors are about -/

/-- An error about a fault of the value, which is not what the value itself raised. -/
structure Faults (e : DecodeError) : Prop where
  codec : e.errorClass = .codec
  own : ∀ failure, e ≠ .unreadable failure

/-- An error of decoding is about a fault of the value, or about a capability that is missing. -/
def Blames (c : Capabilities) (e : DecodeError) : Prop :=
  Faults e ∨ e.errorClass = .unsupported ∧ (c.arrays = false ∨ c.tables = false)

variable {e : DecodeError}

theorem obstacle?_ofJson (j : Json) (keys : List String) :
    (Value.ofJson j).obstacle? keys = none := by
  cases j <;> rfl

/-- Every field of a value of the wire can be read. -/
theorem obstacle?_field (j : Json) (key : String) (keys : List String) :
    ((Schema.field? (Value.ofJson j) key).getD .undefined).obstacle? keys = none := by
  -- What was read from a line holds nothing that fails to be read.
  have hjson (o : Option Json) :
      ((o.map Value.ofJson).getD .undefined).obstacle? keys = none := by
    cases o with
    | none =>
        rfl
    | some j =>
        exact obstacle?_ofJson j keys
  cases j with
  | arr items =>
      rw [ofJson_arr, Schema.field?]
      cases Mapping.index? key with
      | none =>
          rfl
      | some i =>
          rw [Option.bind_some, List.getElem?_map]
          exact hjson _
  | obj entries =>
      have hfield : Schema.field? (Value.ofJson (.obj entries)) key =
          (Mapping.get? entries key).map Value.ofJson := by
        rw [ofJson_obj]
        exact Mapping.get?_mapValues _ _ _
      rw [hfield]
      exact hjson _
  | _ =>
      rfl

/-- A payload without an obstacle can be read. -/
theorem readable_of_obstacle? {keys : List String} {payload : Value}
    (h : payload.obstacle? keys = none) : readable keys payload = .ok () := by
  rw [readable, h]

/-- A malformed array payload is a fault of the value. -/
theorem faults_of_arrayPayload {payload : Value} (h : arrayPayload payload = .error e) :
    Faults e := by
  rw [arrayPayload] at h
  split at h
  · cases h
  · cases h
    exact ⟨rfl, fun _ h => by cases h⟩

/-- So is a malformed table payload. -/
theorem faults_of_tablePayload {payload : Value} (h : tablePayload payload = .error e) :
    Faults e := by
  rw [tablePayload] at h
  split at h
  · cases h
  · cases h
    exact ⟨rfl, fun _ h => by cases h⟩

theorem data_of_tablePayload {payload : Value} {p : TablePayload}
    (h : tablePayload payload = .ok p) :
    p.data = (Schema.field? payload "data").getD .undefined := by
  rw [tablePayload] at h
  split at h
  · cases h
    rfl
  · cases h

theorem faults_of_octets {field text : String} (h : octets field text = .error e) :
    Faults e := by
  rw [octets] at h
  split at h
  · cases h
  · cases h
    exact ⟨rfl, fun _ h => by cases h⟩

theorem faults_of_decodeBytes {payload : Value} (h : decodeBytes payload = .error e) :
    Faults e := by
  cases payload with
  | str text =>
      exact faults_of_octets (map_eq_error.mp h)
  | _ =>
      cases h
      exact ⟨rfl, fun _ h => by cases h⟩

/-- So is an array that its shape does not fit. -/
theorem faults_of_badArray {α : Type} {r : Except ArrayError α}
    (h : r.mapError .badArray = .error e) : Faults e := by
  rcases error_of_mapError h with ⟨e', rfl⟩
  exact ⟨rfl, fun _ h => by cases h⟩

/-- A refused array is blamed on the value or on a missing capability. -/
theorem blames_of_decodeArray {payload : Value} (hr : ∀ keys, payload.obstacle? keys = none)
    (h : decodeArray c payload = .error e) : Blames c e := by
  rw [decodeArray_eq] at h
  split at h
  · rw [readable_of_obstacle? (hr _)] at h
    -- Step by step: each of them either is the one that failed or leaves the error to the rest.
    rcases error_of_bind h with h | ⟨-, -, h⟩
    · cases h
    rcases error_of_bind h with h | ⟨p, -, h⟩
    · exact Or.inl (faults_of_arrayPayload h)
    rcases error_of_bind h with h | ⟨bs, -, h⟩
    · exact Or.inl (faults_of_octets h)
    · exact Or.inl (faults_of_badArray h)
  · rename_i hc
    cases h
    exact Or.inr ⟨rfl, Or.inl (Bool.not_eq_true _ ▸ hc)⟩

/-- So is a refused table. -/
theorem blames_of_decodeTable (h : decodeTable c (Value.ofJson j) = .error e) : Blames c e := by
  rw [decodeTable_eq, readable_of_obstacle? (obstacle?_ofJson j _),
    readable_of_obstacle? (obstacle?_ofJson j _)] at h
  split at h
  · rcases error_of_bind h with h | ⟨-, -, h⟩
    · cases h
    rcases error_of_bind h with h | ⟨p, hp, h⟩
    · exact Or.inl (faults_of_tablePayload h)
    rcases error_of_bind h with h | ⟨-, -, h⟩
    · cases h
    rcases error_of_bind h with h | ⟨values, -, h⟩
    · -- The array in a table is read from a field of a value of the wire.
      refine blames_of_decodeArray ?_ h
      rw [data_of_tablePayload hp]
      exact obstacle?_field j "data"
    · exact Or.inl (faults_of_badArray h)
  · rename_i hc
    cases h
    exact Or.inr ⟨rfl, Or.inr (Bool.not_eq_true _ ▸ hc)⟩

/-- Whatever is refused under a marker is blamed in the same way. -/
theorem blames_of_decodeMarked? {entries : List (String × Json)}
    (h : decodeMarked? c (Mapping.mapValues Value.ofJson entries) = some (.error e)) :
    Blames c e := by
  rw [decodeMarked?, Mapping.get?_mapValues, Mapping.get?_mapValues, Mapping.get?_mapValues] at h
  split at h
  · rename_i payload hpayload
    rcases Option.map_eq_some_iff.mp hpayload with ⟨j, -, rfl⟩
    exact blames_of_decodeArray (obstacle?_ofJson j) (map_eq_error.mp (Option.some_inj.mp h))
  split at h
  · rename_i payload hpayload
    rcases Option.map_eq_some_iff.mp hpayload with ⟨j, -, rfl⟩
    exact blames_of_decodeTable (map_eq_error.mp (Option.some_inj.mp h))
  · rcases Option.map_eq_some_iff.mp h with ⟨payload, -, hbytes⟩
    exact Or.inl (faults_of_decodeBytes hbytes)

/-- Every error of decoding a value of the wire is about a fault or about a missing capability. -/
theorem blames_of_decode (h : decodeJson c j = .error e) : Blames c e := by
  induction j with
  | null | bool b | num x | str s =>
      cases h
  | arr items ih =>
      rw [decodeJson_arr] at h
      rcases decodeList_eq_error.mp (map_eq_error.mp h) with ⟨before, v, after, hitems, -, hv⟩
      rcases List.mem_map.mp (hitems ▸ List.mem_append_cons_self) with ⟨j, hj, rfl⟩
      exact ih j hj hv
  | obj entries ih =>
      rw [decodeJson_obj, decode_mapping] at h
      split at h
      · rename_i result hmarked
        rw [h] at hmarked
        exact blames_of_decodeMarked? hmarked
      · -- Without a marker it is the error of the first entry that is not decoded.
        have hvalues := map_eq_error.mp (map_eq_error.mp h ▸ (decodeEntries_eq _).symm)
        rcases decodeList_eq_error.mp hvalues with ⟨before, v, after, hentries, -, hv⟩
        rcases List.mem_map.mp (hentries ▸ List.mem_append_cons_self) with ⟨e', he', rfl⟩
        rcases Mapping.mem_mapValues.mp he' with ⟨e'', he'', rfl⟩
        exact ih e'' he'' hv

/-- What goes wrong with a value of the wire is raised by the decoder in its own words. -/
theorem fault_of_decodeJson (h : decodeJson c j = .error e) :
    e.fault = .raised (.ofError e.errorClass e.message) := by
  cases e with
  | unreadable failure =>
      rcases blames_of_decode h with hfaults | ⟨hclass, -⟩
      · exact absurd rfl (hfaults.own failure)
      · cases hclass
  | _ =>
      rfl

/-! ## What values hold -/

/-- What a canonical value holds is canonical, the array of a table included. -/
theorem canonical_of_within {u v : Value} (h : u.Within v) (hv : v.Canonical c) :
    u.Canonical c := by
  -- From the value inwards: a part of a canonical value is canonical.
  induction h with
  | self =>
      exact hv
  | part mem within ih =>
      refine ih ?_
      cases hv with
      | null | bool | num | str | bytes | ndarray =>
          cases mem
      | frame arrays tables valid dims rows labels =>
          rcases List.mem_singleton.mp mem with rfl
          exact .ndarray arrays valid.values dims
      | list each =>
          exact each _ mem
      | mapping ordered unmarked each =>
          rcases List.mem_map.mp mem with ⟨e, he, rfl⟩
          exact each e he

/-- A decoded value holds arrays only where arrays may pass. -/
theorem arrays_of_within {a : NDArray} {v : Value} (hv : v.Canonical c)
    (h : (Value.ndarray a).Within v) : c.arrays = true := by
  cases canonical_of_within h hv with
  | ndarray arrays =>
      exact arrays

/-- A decoded value holds tables only where both may pass. -/
theorem tables_of_within {f : Frame} {v : Value} (hv : v.Canonical c)
    (h : (Value.frame f).Within v) : c.arrays = true ∧ c.tables = true := by
  cases canonical_of_within h hv with
  | frame arrays tables =>
      exact ⟨arrays, tables⟩

/-- A worker with fewer capabilities says that something is not supported, or gives the same value
or the same error as one with more. With both capabilities nothing is unsupported; without arrays no
value holds an array or a table, and without tables no value holds a table. -/
theorem decode_restricted {c c' : Capabilities} (h : c.Included c') (j : Json) :
    ((∃ e, decodeJson c j = .error e ∧ e.errorClass = .unsupported) ∨
      (∃ e, decodeJson c j = .error e ∧ decodeJson c' j = .error e ∧ e.errorClass = .codec) ∨
      ∃ v, decodeJson c j = .ok v ∧ decodeJson c' j = .ok v) ∧
    (∀ e, decodeJson .full j = .error e → e.errorClass ≠ .unsupported) ∧
    (c.arrays = false → ∀ v, decodeJson c j = .ok v → ∀ u : Value, u.Within v →
      (∀ a, u ≠ .ndarray a) ∧ ∀ f, u ≠ .frame f) ∧
    (c.tables = false → ∀ v, decodeJson c j = .ok v → ∀ u : Value, u.Within v →
      ∀ f, u ≠ .frame f) := by
  refine ⟨?_, ?_, ?_, ?_⟩
  · rcases refines_decode h j with hunsupported | hsame
    · exact Or.inl hunsupported
    -- Both results are the same, so it is enough to look at one of them.
    rw [← hsame]
    cases hd : decodeJson c j with
    | ok v =>
        exact Or.inr (Or.inr ⟨v, rfl, rfl⟩)
    | error e =>
        rcases blames_of_decode hd with hfaults | ⟨hclass, -⟩
        · exact Or.inr (Or.inl ⟨e, rfl, rfl, hfaults.codec⟩)
        · exact Or.inl ⟨e, rfl, hclass⟩
  · intro e he
    rcases blames_of_decode he with hfaults | ⟨-, hmissing | hmissing⟩
    · rw [hfaults.codec]
      decide
    · cases hmissing
    · cases hmissing
  · intro harrays v hv u hu
    have hcanonical := canonical_of_decode hv
    constructor
    · rintro a rfl
      exact Bool.false_ne_true (harrays.symm.trans (arrays_of_within hcanonical hu))
    · rintro f rfl
      exact Bool.false_ne_true (harrays.symm.trans (tables_of_within hcanonical hu).1)
  · intro htables v hv u hu
    rintro f rfl
    exact Bool.false_ne_true
      (htables.symm.trans (tables_of_within (canonical_of_decode hv) hu).2)

/-- A list of an array and a mapping of bytes, on the wire. -/
def typedItems : Json :=
  .arr [.obj [(Marker.array, .obj [("dtype", .str "u8"), ("shape", .arr [.num 1]),
      ("data", .str "Bw==")])],
    .obj [("k", .obj [(Marker.bytes, .str "Bw==")])]]

def typedItemsValue : Value :=
  .list [.ndarray ⟨.u8, [1], [7]⟩, .mapping [("k", .bytes .buffer [7])]]

/-- Without tables the list is decoded as it is with them. -/
theorem decode_restricted_sample :
    Capabilities.Included ⟨true, false⟩ .full ∧
    decodeJson ⟨true, false⟩ typedItems = .ok typedItemsValue ∧
    decodeJson .full typedItems = .ok typedItemsValue ∧
    ∀ u : Value, u.Within typedItemsValue → ∀ f, u ≠ .frame f := by
  have hincluded : Capabilities.Included ⟨true, false⟩ .full := ⟨fun _ => rfl, fun _ => rfl⟩
  have hv : decodeJson ⟨true, false⟩ typedItems = .ok typedItemsValue := by
    rfl
  obtain ⟨hsame, -, -, htables⟩ := decode_restricted hincluded typedItems
  refine ⟨hincluded, hv, ?_, htables rfl _ hv⟩
  -- Nothing went wrong with fewer capabilities, so the values are the same.
  obtain ⟨e, he, -⟩ | ⟨e, he, -⟩ | ⟨v, hv₁, hv₂⟩ := hsame
  · cases hv.symm.trans he
  · cases hv.symm.trans he
  · cases hv.symm.trans hv₁
    exact hv₂

end Codec
end LineRpc
