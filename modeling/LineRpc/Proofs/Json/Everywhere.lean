import LineRpc.Envelope.Request
import LineRpc.Proofs.Mapping

/-!
# Everywhere — what holds of every mapping in a value

A statement about the entries of a mapping can be asked of all mappings that a value holds, at any
depth. A value that was read from a text holds every mapping in property order: the reader sets the
keys of a mapping one after the other.

* `Json.induct`          : induction over values, with lists and mappings by what they hold
* `Json.Everywhere`      : a statement about all mappings in a value
* `Json.Ordered`         : every mapping is in property order
* `ordered_of_parse?`    : what is read from a text is in property order
-/

namespace LineRpc
namespace Json

/-- Induction over a value: a list or a mapping has the statement of all that it holds. -/
@[induction_eliminator]
theorem induct {motive : Json → Prop} (null : motive .null) (bool : ∀ b, motive (.bool b))
    (num : ∀ x, motive (.num x)) (str : ∀ s, motive (.str s))
    (arr : ∀ items, (∀ j ∈ items, motive j) → motive (.arr items))
    (obj : ∀ entries, (∀ e ∈ entries, motive e.2) → motive (.obj entries)) (j : Json) :
    motive j := by
  -- Items and entries get the statement one by one, along the lists that hold them.
  refine @Json.rec motive (fun items => ∀ j ∈ items, motive j)
    (fun entries => ∀ e ∈ entries, motive e.2) (fun e => motive e.2) null bool num str arr obj
    ?_ ?_ ?_ ?_ ?_ j
  · intro j hj
    cases hj
  · intro j items hj hitems
    exact List.forall_mem_cons.mpr ⟨hj, hitems⟩
  · intro e he
    cases he
  · intro e entries he hentries
    exact List.forall_mem_cons.mpr ⟨he, hentries⟩
  · intro k j hj
    exact hj

/-- A statement holds of the entries of every mapping in a value. -/
inductive Everywhere (P : List (String × Json) → Prop) : Json → Prop
  | null : Everywhere P .null
  | bool (b : Bool) : Everywhere P (.bool b)
  | num (x : Float) : Everywhere P (.num x)
  | str (s : String) : Everywhere P (.str s)
  | arr {items : List Json} (each : ∀ j ∈ items, Everywhere P j) : Everywhere P (.arr items)
  | obj {entries : List (String × Json)} (here : P entries)
      (each : ∀ e ∈ entries, Everywhere P e.2) : Everywhere P (.obj entries)

/-- Every mapping in a value is in property order. -/
def Ordered (j : Json) : Prop :=
  j.Everywhere Mapping.Ordered

theorem Ordered.item {items : List Json} (h : (Json.arr items).Ordered) : ∀ j ∈ items, j.Ordered := by
  cases h with
  | arr each =>
      exact each

theorem Ordered.keys {entries : List (String × Json)} (h : (Json.obj entries).Ordered) :
    Mapping.Ordered entries := by
  cases h with
  | obj here each =>
      exact here

theorem Ordered.entry {entries : List (String × Json)} (h : (Json.obj entries).Ordered) :
    ∀ e ∈ entries, e.2.Ordered := by
  cases h with
  | obj here each =>
      exact each

theorem ordered_obj_nil : (Json.obj []).Ordered :=
  .obj List.Pairwise.nil fun _ he => absurd he List.not_mem_nil

/-- Setting a key keeps all mappings in property order. -/
theorem ordered_obj_set {entries : Mapping Json} {v : Json} (h : (Json.obj entries).Ordered)
    (hv : v.Ordered) (k : String) : (Json.obj (Mapping.set entries k v)).Ordered := by
  refine .obj (Mapping.ordered_set h.keys k v) ?_
  intro e he
  rcases Mapping.mem_place he with rfl | he
  · exact hv
  · exact h.entry e he

/-! ## Reading a text -/

/-- All that an unfinished list or mapping holds so far is in property order. -/
def Frame.Ordered : Frame → Prop
  | .arr items => ∀ j ∈ items, j.Ordered
  | .obj entries _ => (Json.obj entries).Ordered

/-- All that has been read is in property order. -/
def State.Ordered : State → Prop
  | .value stack => ∀ f ∈ stack, f.Ordered
  | .item stack => ∀ f ∈ stack, f.Ordered
  | .key entries _ stack => (Json.obj entries).Ordered ∧ ∀ f ∈ stack, f.Ordered
  | .colon entries _ stack => (Json.obj entries).Ordered ∧ ∀ f ∈ stack, f.Ordered
  | .done v stack => v.Ordered ∧ ∀ f ∈ stack, f.Ordered

/-- Opening a value keeps every open object in order. -/
theorem ordered_begin? {stack : List Frame} {t : Token} {s : State} (h : begin? stack t = some s)
    (hs : ∀ f ∈ stack, f.Ordered) : s.Ordered := by
  -- A bracket opens a frame without entries, and every other value is done at once.
  cases t with
  | leftBracket =>
      cases h
      exact List.forall_mem_cons.mpr ⟨fun j hj => absurd hj List.not_mem_nil, hs⟩
  | leftBrace =>
      cases h
      exact ⟨ordered_obj_nil, hs⟩
  | null =>
      cases h
      exact ⟨.null, hs⟩
  | bool b =>
      cases h
      exact ⟨.bool b, hs⟩
  | num x =>
      cases h
      exact ⟨.num x, hs⟩
  | str text =>
      cases h
      exact ⟨.str text, hs⟩
  | _ =>
      cases h

/-- One unit keeps all that has been read in property order. -/
theorem ordered_step? {s s' : State} {t : Token} (h : step? s t = some s') (hs : s.Ordered) :
    s'.Ordered := by
  fun_cases step? s t with
  | case1 stack =>
      exact ordered_begin? h hs
  | case2 stack =>
      -- A list that is closed at once.
      cases h
      rcases List.forall_mem_cons.mp hs with ⟨-, hstack⟩
      exact ⟨.arr fun j hj => absurd hj List.not_mem_nil, hstack⟩
  | case3 stack =>
      rename_i hopen
      rw [step?] at h
      · exact ordered_begin? h hs
      · exact hopen
  | case4 entries first stack k =>
      cases h
      exact hs
  | case5 entries stack =>
      cases h
      exact hs
  | case7 entries k stack =>
      cases h
      exact List.forall_mem_cons.mpr hs
  | case9 v items stack =>
      -- A further item of a list.
      cases h
      rcases hs with ⟨hv, hstack⟩
      rcases List.forall_mem_cons.mp hstack with ⟨hitems, hstack⟩
      exact List.forall_mem_cons.mpr ⟨List.forall_mem_cons.mpr ⟨hv, hitems⟩, hstack⟩
  | case10 v items stack =>
      cases h
      rcases hs with ⟨hv, hstack⟩
      rcases List.forall_mem_cons.mp hstack with ⟨hitems, hstack⟩
      refine ⟨.arr ?_, hstack⟩
      intro j hj
      exact List.forall_mem_cons.mpr ⟨hv, hitems⟩ j (List.mem_reverse.mp hj)
  | case11 v entries k stack =>
      -- A further entry of a mapping: its key is set now, whether it was there or not.
      cases h
      rcases hs with ⟨hv, hstack⟩
      rcases List.forall_mem_cons.mp hstack with ⟨hentries, hstack⟩
      exact ⟨ordered_obj_set hentries hv k, hstack⟩
  | case12 v entries k stack =>
      cases h
      rcases hs with ⟨hv, hstack⟩
      rcases List.forall_mem_cons.mp hstack with ⟨hentries, hstack⟩
      exact ⟨ordered_obj_set hentries hv k, hstack⟩
  | case6 | case8 | case13 =>
      -- No other unit can come here.
      simp_all [step?]

/-- All units together keep all that is read in property order. -/
theorem ordered_run? {s s' : State} {ts : List Token} (h : run? s ts = some s') (hs : s.Ordered) :
    s'.Ordered := by
  induction ts generalizing s with
  | nil =>
      cases h
      exact hs
  | cons t ts ih =>
      rw [run?, List.foldlM_cons] at h
      rcases Option.bind_eq_some_iff.mp h with ⟨next, hnext, hrest⟩
      exact ih hrest (ordered_step? hnext hs)

/-- A value that is read from a text holds every mapping in property order. -/
theorem ordered_of_parse? {text : String} {j : Json} (h : parse? text = some j) : j.Ordered := by
  rcases Option.bind_eq_some_iff.mp h with ⟨ts, -, hts⟩
  rw [ofTokens?] at hts
  split at hts
  · rename_i v hrun
    cases hts
    exact (ordered_run? hrun fun f hf => absurd hf List.not_mem_nil).1
  · cases hts

end Json

/-- What was read from a line has its keys in the order of objects. -/
theorem ordered_of_readLine? {line : String} {j : Json} (h : readLine? line = some j) :
    j.Ordered :=
  Json.ordered_of_parse? h

end LineRpc
