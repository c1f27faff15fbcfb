import LineRpc.Client
import LineRpc.Proofs.Codec.Numbers
import LineRpc.Proofs.Envelope.Request
import LineRpc.Proofs.Json.Line
import LineRpc.Worker

/-!
# Client — a call arrives as it was made, and its result comes back

A client writes a call as one line and a worker takes it apart again. If every number in the call is
one that a line says exactly, then the worker gives its callable the arguments that the client gave,
and what the callable returns reaches the client as it was.

* `Sent`                    : a value and its wire value, which a line keeps
* `classify_wireEnvelope`   : the envelope of a call is a call
* `arguments_of_call`       : what the callable is given
* `read_of_sent`            : what the client reads
-/

namespace LineRpc

open Codec

namespace Client

variable {m f : String} {args : List Value} {kwargs : List (String × Value)} {as : List Json}
  {ks : List (String × Json)}

/-- A value and its wire value, which a line keeps and which is read as the value. -/
structure Sent (v : Value) (j : Json) : Prop where
  encoded : encode .full v = .ok j
  decoded : decodeJson .full j = .ok v
  settled : j.settle = j

/-- A value that a line says exactly and the wire has a form for. -/
def Sendable (v : Value) : Prop :=
  v.Representable ∧ v.Plain

/-- Every value that may be sent is sent as some JSON. -/
theorem exists_sent {v : Value} (h : Sendable v) : ∃ j, Sent v j := by
  obtain ⟨j, hj, hd⟩ := decode_encode_plain h.1 h.2
  exact ⟨j, hj, hd, settle_encode h.1 h.2 hj⟩

/-- The call that a worker sees: its arguments still in wire form. -/
def wireCall (m f : String) (as : List Json) (ks : List (String × Json)) : Call where
  module := m
  function := f
  args := as.map Value.ofJson
  kwargs := Mapping.mapValues Value.ofJson ks

/-! ## The envelope -/

/-- The envelope of a call with its arguments in wire form. -/
def wireEnvelope (m f : String) (as : List Json) (ks : List (String × Json)) : Json :=
  .obj ([("m", .str m), ("f", .str f), ("a", .arr as)] ++
    if ks = [] then [] else [("k", .obj ks)])

/-- Keyword arguments are sent exactly when there are some. -/
theorem hasKeywords_mapping (kwargs : List (String × Value)) :
    hasKeywords (.mapping kwargs) = !kwargs.isEmpty := by
  cases kwargs <;> rfl

/-- Arguments that can be sent make up one envelope. -/
theorem envelope_of_sent (ha : List.Forall₂ Sent args as) (hk : Mapping.Keyed Sent kwargs ks)
    (ho : Mapping.Ordered kwargs) :
    envelope .full m f args (.mapping kwargs) = .ok (wireEnvelope m f as ks) := by
  have hargs : encode .full (.list args) = .ok (.arr as) :=
    encode_list_eq_ok.mpr ⟨as, ha.imp fun _ _ h => h.encoded, rfl⟩
  have hentries : encodeEntries .full kwargs = .ok ks :=
    encodeEntries_eq_ok.mpr (hk.imp fun _ _ h => h.encoded)
  have hkwargs : encode .full (.mapping kwargs) = .ok (.obj ks) := by
    rw [encode_mapping_of_ok hentries, ofEntries_encodeEntries ho hentries]
  rw [envelope, hargs, hkwargs, hasKeywords_mapping, wireEnvelope]
  -- Without keywords the envelope has no field for them.
  cases Mapping.keyed_iff_forall₂.mp hk <;> rfl

/-- An envelope of values that a line keeps is read back unchanged. -/
theorem settle_wireEnvelope (ha : List.Forall₂ Sent args as) (hk : Mapping.Keyed Sent kwargs ks)
    (ho : Mapping.Ordered kwargs) : (wireEnvelope m f as ks).settle = wireEnvelope m f as ks := by
  have hargs : (Json.arr as).settle = .arr as := by
    refine Json.settle_arr_fixed fun j hj => ?_
    obtain ⟨v, -, hv⟩ := exists_of_forall₂ ha.flip hj
    exact hv.settled
  have hkwargs : (Json.obj ks).settle = .obj ks := by
    refine Json.settle_obj_fixed (hk.ordered ho) fun e he => ?_
    obtain ⟨v, -, hv⟩ := hk.flip.exists_of_mem he
    exact hv.settled
  rw [wireEnvelope]
  -- Without keywords the envelope has three fields, with keywords four.
  split
  · refine Json.settle_obj_fixed
      (Mapping.ordered_of_keys ["m", "f", "a"] (by decide +kernel) rfl) ?_
    intro e he
    fin_cases he
    · rfl
    · rfl
    · exact hargs
  · refine Json.settle_obj_fixed
      (Mapping.ordered_of_keys ["m", "f", "a", "k"] (by decide +kernel) rfl) ?_
    intro e he
    fin_cases he
    · rfl
    · rfl
    · exact hargs
    · exact hkwargs

/-! ## Classification -/

/-- A mapping without a command, with a target, a list of arguments and a mapping of keywords, if
any, is a call. -/
theorem classify_call {items : List Value} {entries keywords : List (String × Value)}
    (hcmd : Mapping.get? entries "cmd" = none) (hm : Mapping.get? entries "m" = some (.str m))
    (hf : Mapping.get? entries "f" = some (.str f))
    (ha : Mapping.get? entries "a" = some (.list items))
    (hk : Request.keywords (Mapping.get? entries "k") = .ok keywords)
    (hm₀ : m ≠ "") (hf₀ : f ≠ "") :
    Request.classify (.mapping entries) = .call ⟨m, f, items, keywords⟩ := by
  refine Request.classify_eq_call.mpr ⟨?_, hm, hf, ⟨hm₀, hf₀⟩, Or.inr ha, hk⟩
  intro w hw
  cases hcmd.symm.trans hw

/-- The envelope of a call is a call. -/
theorem classify_wireEnvelope (hm : m ≠ "") (hf : f ≠ "") :
    Request.classify (Value.ofJson (wireEnvelope m f as ks)) = .call (wireCall m f as ks) := by
  have hargs := ofJson_arr as
  by_cases hnil : ks = []
  · subst hnil
    simp only [wireEnvelope, if_pos, List.append_nil, Value.ofJson, Value.ofJsonEntries] at hargs ⊢
    rw [hargs]
    exact classify_call rfl rfl rfl rfl rfl hm hf
  · have hkwargs := ofJson_obj ks
    simp only [wireEnvelope, if_neg hnil, List.cons_append, List.nil_append, Value.ofJson,
      Value.ofJsonEntries] at hargs hkwargs ⊢
    rw [hargs, hkwargs]
    exact classify_call rfl rfl rfl rfl rfl hm hf

/-! ## Arguments and results -/

/-- The worker decodes the positional arguments to what was passed. -/
theorem decodeList_wireCall (ha : List.Forall₂ Sent args as) :
    decodeList .full (wireCall m f as ks).args = .ok args := by
  refine decodeList_eq_ok.mpr (List.forall₂_map_left_iff.mpr ?_)
  exact (ha.imp fun _ _ h => h.decoded).flip

theorem decodeMapping_wireCall (hk : Mapping.Keyed Sent kwargs ks) (ho : Mapping.Ordered kwargs) :
    decodeMapping .full (wireCall m f as ks).kwargs = .ok kwargs := by
  have hentries : decodeEntries .full (Mapping.mapValues Value.ofJson ks) = .ok kwargs := by
    refine decodeEntries_eq_ok.mpr (Mapping.keyed_map_left.mpr ?_)
    exact (hk.imp fun _ _ h => h.decoded).flip
  exact decodeMapping_of_ordered hentries ho

/-- The callable is given the arguments of the call, and the keywords after them if there are
any. -/
theorem arguments_of_call {w : Worker} (hw : w.capabilities = .full)
    (ha : List.Forall₂ Sent args as) (hk : Mapping.Keyed Sent kwargs ks)
    (ho : Mapping.Ordered kwargs) :
    w.arguments (wireCall m f as ks) =
      .ok (if kwargs.isEmpty then args else args ++ [.mapping kwargs]) := by
  rw [Worker.arguments, hw, decodeList_wireCall ha, decodeMapping_wireCall hk ho]
  rfl

/-- A result reaches the client as it was. -/
theorem read_of_sent {r : Value} {j : Json} (h : Sent r j) :
    read .full (Response.ok j).line = .ok (.ok r) := by
  have hline : readLine? (Response.ok j).line = some (.obj [("ok", j)]) := by
    rw [Response.line, readLine?_writeLine, Response.json, Json.settle_single_fixed h.settled]
  have hget : Mapping.get? [("ok", j)] "ok" = some j := rfl
  -- The line is not blank, it is read as the answer, and the answer has a value.
  rw [read, Response.line, isBlankLine_writeLine, ← Response.line, hline]
  simp only [hget, h.decoded]
  rfl

/-- A call arrives as it was made: there is a line for it, and the line names the same function, its
arguments and keywords are decoded to what the client gave, whatever the keywords are called, and a
callable of that name is given the arguments, followed by the keywords if there are any. A result
comes back as it was. -/
theorem call_transparent (hm : m ≠ "") (hf : f ≠ "") (ha : ∀ v ∈ args, Sendable v)
    (ho : Mapping.Ordered kwargs) (hk : ∀ e ∈ kwargs, Sendable e.2) :
    (∃ line j call, request .full m f args (.mapping kwargs) = .ok line ∧
      readLine? line = some j ∧
      Request.classify (.ofJson j) = .call call ∧ call.module = m ∧ call.function = f ∧
      decodeList .full call.args = .ok args ∧ decodeMapping .full call.kwargs = .ok kwargs ∧
      ∀ (w : Worker) (g : Callable), w.capabilities = .full →
        w.registry.resolve m f = .found g →
        w.course (.ofJson j) =
          .finished (g (if kwargs.isEmpty then args else args ++ [.mapping kwargs]))) ∧
    ∀ r, Sendable r → ∃ j, encode .full r = .ok j ∧
      read .full (Response.ok j).line = .ok (.ok r) := by
  obtain ⟨as, has⟩ := exists_forall₂ fun v hv => exists_sent (ha v hv)
  obtain ⟨ks, hks⟩ := Mapping.exists_keyed Sent fun e he => exists_sent (hk e he)
  have hclass : Request.classify (.ofJson (wireEnvelope m f as ks)) = .call (wireCall m f as ks) :=
    classify_wireEnvelope hm hf
  constructor
  · refine ⟨writeLine (wireEnvelope m f as ks), wireEnvelope m f as ks, wireCall m f as ks, ?_, ?_,
      hclass, rfl, rfl, decodeList_wireCall has, decodeMapping_wireCall hks ho, ?_⟩
    · rw [request, envelope_of_sent has hks ho]
      rfl
    · rw [readLine?_writeLine, settle_wireEnvelope has hks ho]
    · intro w g hw hg
      have hargs := arguments_of_call (m := m) (f := f) hw has hks ho
      have hresolve : w.registry.resolve (wireCall m f as ks).module
          (wireCall m f as ks).function = .found g := hg
      rw [Worker.course, hclass]
      simp only [Worker.callCourse, hargs, hresolve]
  · -- The way back is the same for every result.
    intro r hr
    obtain ⟨j, hj⟩ := exists_sent hr
    exact ⟨j, hj.encoded, read_of_sent hj⟩

/-- A call with a number, a table and a keyword that is called like a marker. -/
theorem call_transparent_sample :
    ∃ line j call,
      request .full "math" "sum" [.num 1.5, .frame (cell (.str "r"))]
        (.mapping [("__bytes__", .list [.null])]) = .ok line ∧
      readLine? line = some j ∧
      Request.classify (.ofJson j) = .call call ∧
      decodeList .full call.args = .ok [.num 1.5, .frame (cell (.str "r"))] ∧
      decodeMapping .full call.kwargs = .ok [("__bytes__", .list [.null])] := by
  have hargs : ∀ v ∈ [Value.num 1.5, .frame (cell (.str "r"))], Sendable v := by
    intro v hv
    fin_cases hv
    · refine ⟨.num _, ?_⟩
      intro x hx
      fin_cases hx
      exact ⟨rfl, rfl⟩
    · refine ⟨.frame (valid_cell _) (by decide) (by decide), ?_⟩
      intro x hx
      fin_cases hx
      · exact ⟨rfl, rfl⟩
      · exact ⟨rfl, rfl⟩
  have hkwargs : ∀ e ∈ [("__bytes__", Value.list [.null])], Sendable e.2 := by
    intro e he
    fin_cases he
    refine ⟨.list ?_, ?_⟩
    · intro v hv
      fin_cases hv
      exact .null
    · intro x hx
      cases hx
  obtain ⟨⟨line, j, call, hline, hj, hclass, -, -, ha, hk, -⟩, -⟩ :=
    call_transparent (m := "math") (f := "sum") (by decide) (by decide) hargs
      (List.pairwise_singleton _ _) hkwargs
  exact ⟨line, j, call, hline, hj, hclass, ha, hk⟩

end Client
end LineRpc
