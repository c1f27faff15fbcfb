import LineRpc.Proofs.Codec.Degraded

/-!
# Failing — values that cannot be written

Whatever fails while the parts of a value are written is caught, and the value becomes its text. So
writing fails only where nothing catches: at a value that has neither a text nor a tag, at a
function whose name has no text, and through lists, which catch nothing, up to the next value that
does. What has no end is caught nowhere.

* `Value.WellFormed`   : native values as they can come up
* `Fails`, `PartFails` : how writing a value fails
* `encode_eq_error`    : it fails in no other way
* `written_iff`        : a value that does not fail is written
-/

namespace LineRpc

/-- The octets of an element. -/
def ElementKind.itemSize : ElementKind → Nat
  | .dtype d => d.itemSize
  | .clamped => 1

/-- A native value as it can come up: arrays and tables hold what building them made sure of, memory
holds whole elements, and neither memory nor a list holds as many as `2 ^ 53`. No key of a mapping
is a marker as far as the mapping is written by its keys. -/
inductive Value.WellFormed : Value → Prop
  | undefined : WellFormed .undefined
  | null : WellFormed .null
  | bool (b : Bool) : WellFormed (.bool b)
  | num (x : Float) : WellFormed (.num x)
  | str (s : String) : WellFormed (.str s)
  | bigint (i : Int) : WellFormed (.bigint i)
  | symbol (description : String) : WellFormed (.symbol description)
  | function (text : Except Fault String) (name result : Except Fault Value) :
      WellFormed (.function text name result)
  | bytes (view : ByteView) (octets : Octets) : WellFormed (.bytes view octets)
  | typed {kind : ElementKind} {octets : Octets} (whole : octets.length % kind.itemSize = 0)
      (room : octets.length < 2 ^ 53) : WellFormed (.typed kind octets)
  | ndarray {a : NDArray} (valid : a.Valid) (fits : a.Fits) : WellFormed (.ndarray a)
  | series {s : Series} (valid : s.values.Valid) : WellFormed (.series s)
  | frame {f : Frame} (valid : f.Valid) (room : (f.index.getD []).length < 2 ^ 53) :
      WellFormed (.frame f)
  | list {items : List Value} (each : ∀ v ∈ items, WellFormed v) : WellFormed (.list items)
  | mapping {entries : List (String × Value)} (unmarked : Codec.Unmarked (entries.map Prod.fst))
      (each : ∀ e ∈ entries, WellFormed e.2) : WellFormed (.mapping entries)
  | bare {entries : List (String × Value)} (unmarked : Codec.Unmarked (entries.map Prod.fst))
      (each : ∀ e ∈ entries, WellFormed e.2) : WellFormed (.bare entries)
  | guarded (entries : List (String × Value)) (key : String) (failure : Fault) :
      WellFormed (.guarded entries key failure)
  | map {entries : List (Value × Value)}
      (unmarked : Codec.Unmarked (entries.filterMap fun e => e.1.describe.toOption))
      (each : ∀ e ∈ entries, WellFormed e.2) : WellFormed (.map entries)
  | set {items : List Value} (each : ∀ v ∈ items, WellFormed v) : WellFormed (.set items)
  | iterable {items : List Value} (ending : Option Fault) (text tag : Except Fault String)
      (each : ∀ v ∈ items, WellFormed v) : WellFormed (.iterable items ending text tag)
  | foreign (text tag : Except Fault String) : WellFormed (.foreign text tag)
  | sealed (failure : Fault) : WellFormed (.sealed failure)
  | error (cls : ErrorClass) (message : Except Fault Value) (name : Option (Except Fault Value)) :
      WellFormed (.error cls message name)

namespace Codec

/-! ## How writing fails -/

/-- Whether nothing but its text is written for a value. -/
def isTextual : Value → Bool
  | .bigint _ => true
  | .symbol _ => true
  | .function .. => true
  | .foreign .. => true
  | .error .. => true
  | _ => false

/-- Whether a value is written part by part and becomes its text when that fails. -/
def isGathered : Value → Bool
  | .mapping _ => true
  | .bare _ => true
  | .guarded .. => true
  | .map _ => true
  | .set _ => true
  | .iterable .. => true
  | _ => false

/-- The values that are written one after the other for a value that becomes its text when one of
them fails. The keys of a `Map` are written too, so it is not among these. -/
def partsOf : Value → List Value
  | .mapping entries => entries.map Prod.snd
  | .bare entries => entries.map Prod.snd
  | .set items => items
  | .iterable items .. => items
  | _ => []

/-- A value is written. -/
def Written (caps : Capabilities) (v : Value) : Prop :=
  ∃ j, encode caps v = .ok j

mutual

/-- Writing a value fails. -/
inductive Fails (caps : Capabilities) : Value → Fault → Prop
  /-- Nothing but its text can be written, and it has none. -/
  | text {v : Value} {failure : Fault} (textual : isTextual v = true)
      (failed : v.describe = .error failure) : Fails caps v failure
  | sealed (failure : Fault) : Fails caps (.sealed failure) failure
  /-- An array is written as lists, along axes of which some has no end. -/
  | axes {a : NDArray} (missing : caps.arrays = false) (endless : ¬ NDArray.Countable a.dims) :
      Fails caps (.ndarray a) .endless
  /-- A list catches nothing of what its first failing item raises. -/
  | item {before after : List Value} {v : Value} {failure : Fault}
      (written : ∀ u ∈ before, Written caps u) (failed : Fails caps v failure) :
      Fails caps (.list (before ++ v :: after)) failure
  /-- What has no end cannot be caught. -/
  | endless {v : Value} (failed : PartFails caps v .endless) : Fails caps v .endless
  /-- What is raised is caught, but then the value has neither a text nor a tag. -/
  | untold {v raised : Value} {failure : Fault} (failed : PartFails caps v (.raised raised))
      (again : v.describe = .error failure) : Fails caps v failure

/-- Writing the parts of a value that catches what they raise fails. -/
inductive PartFails (caps : Capabilities) : Value → Fault → Prop
  | part {v u : Value} {before after : List Value} {failure : Fault}
      (parts : partsOf v = before ++ u :: after) (written : ∀ u ∈ before, Written caps u)
      (failed : Fails caps u failure) : PartFails caps v failure
  /-- All items were written, and then no further one could be had. -/
  | ending {items : List Value} {failure : Fault} {text tag : Except Fault String}
      (written : ∀ u ∈ items, Written caps u) :
      PartFails caps (.iterable items (some failure) text tag) failure
  /-- A key that cannot be read. -/
  | hidden (entries : List (String × Value)) (key : String) (failure : Fault) :
      PartFails caps (.guarded entries key failure) failure
  | key {before after : List (Value × Value)} {k u : Value} {failure : Fault}
      (written : ∀ e ∈ before, (∃ key, e.1.describe = .ok key) ∧ Written caps e.2)
      (failed : k.describe = .error failure) :
      PartFails caps (.map (before ++ (k, u) :: after)) failure
  | value {before after : List (Value × Value)} {k u : Value} {key : String} {failure : Fault}
      (written : ∀ e ∈ before, (∃ key, e.1.describe = .ok key) ∧ Written caps e.2)
      (named : k.describe = .ok key) (failed : Fails caps u failure) :
      PartFails caps (.map (before ++ (k, u) :: after)) failure

end

variable {caps : Capabilities} {v : Value} {failure : Fault}

/-! ## Values that catch -/

/-- Falling back on a text fails when the writing never ends, or when the text is not to be had
either. -/
theorem degrade_eq_error {written : Except Fault Json} :
    degrade v written = .error failure ↔
      written = .error .endless ∧ failure = .endless ∨
        ∃ x, written = .error (.raised x) ∧ v.describe = .error failure := by
  rcases written with (x | _) | j
  · have htext : v.describe.map Json.str = .error failure ↔ v.describe = .error failure := by
      cases v.describe <;> simp [Except.map]
    simp [degrade, htext]
  · simp [degrade, eq_comm]
  · simp [degrade]

/-- No value is both written as a text and gathered from parts. -/
theorem not_gathered (h : isTextual v = true) : isGathered v = false := by
  cases v <;> first | rfl | cases h

theorem partsOf_of_not_gathered (h : isGathered v = false) : partsOf v = [] := by
  cases v <;> first | rfl | cases h

/-- Only what is gathered has a part that fails. -/
theorem gathered_of_partFails (h : PartFails caps v failure) : isGathered v = true := by
  cases h with
  | part parts =>
      by_contra hv
      rw [partsOf_of_not_gathered (Bool.not_eq_true _ ▸ hv)] at parts
      cases List.append_ne_nil_of_right_ne_nil _ (List.cons_ne_nil _ _) parts.symm
  | _ =>
      rfl

/-- A gathered value fails through a part: for good if the part never ends, else as its own text
does. -/
theorem fails_gathered_iff (hv : isGathered v = true) :
    Fails caps v failure ↔ PartFails caps v .endless ∧ failure = .endless ∨
      ∃ x, PartFails caps v (.raised x) ∧ v.describe = .error failure := by
  constructor
  · intro h
    cases h with
    | text textual =>
        cases (not_gathered textual).symm.trans hv
    | sealed | axes | item =>
        cases hv
    | endless failed =>
        exact .inl ⟨failed, rfl⟩
    | untold failed again =>
        exact .inr ⟨_, failed, again⟩
  · rintro (⟨failed, rfl⟩ | ⟨x, failed, again⟩)
    · exact .endless failed
    · exact .untold failed again

/-- A value that catches fails with its parts, if they have no end or it has no text either. -/
theorem degrade_fails_iff (hv : isGathered v = true) {α : Type} {parts : Except Fault α}
    {write : α → Json}
    (hparts : ∀ f, parts = .error f ↔ PartFails caps v f) :
    degrade v (parts.map write) = .error failure ↔ Fails caps v failure := by
  simp only [degrade_eq_error, map_eq_error, fails_gathered_iff hv, hparts]

/-! ## Parts one after the other -/

/-- A list fails at its first item that does; those before it are written. -/
theorem encodeList_eq_error {items : List Value} :
    encodeList caps items = .error failure ↔ ∃ before v after, items = before ++ v :: after ∧
      (∀ u ∈ before, Written caps u) ∧ encode caps v = .error failure := by
  rw [encodeList_eq, mapM_eq_error]
  rfl

/-- The values of entries are encoded as a list of them is. -/
theorem encodeList_values (entries : List (String × Value)) :
    encodeList caps (entries.map Prod.snd) = (encodeEntries caps entries).map (List.map Prod.snd) := by
  induction entries with
  | nil =>
      rfl
  | cons e entries ih =>
      rcases e with ⟨k, v⟩
      rw [List.map_cons, encodeList, encodeEntries, ih]
      cases encode caps v with
      | error f =>
          rfl
      | ok j =>
          cases encodeEntries caps entries <;> rfl

/-- An entry with any key fails with its key first. -/
theorem pair_eq_error {k : Value} :
    (k.describe.bind fun key => (encode caps v).map (key, ·)) = .error failure ↔
      k.describe = .error failure ∨ (∃ key, k.describe = .ok key) ∧ encode caps v = .error failure := by
  cases k.describe with
  | error f =>
      simp [Except.bind]
  | ok key =>
      simp [Except.bind, map_eq_error]

theorem exists_pair_eq_ok {e : Value × Value} :
    (∃ p, (e.1.describe.bind fun key => (encode caps e.2).map (key, ·)) = .ok p) ↔
      (∃ key, e.1.describe = .ok key) ∧ Written caps e.2 := by
  simp only [bind_pair_eq_ok, Prod.exists, Written, exists_and_left, exists_and_right]

/-- A map fails at its first entry that does, by its key or by its value. -/
theorem encodePairs_eq_error {entries : List (Value × Value)} :
    encodePairs caps entries = .error failure ↔ ∃ before k v after,
      entries = before ++ (k, v) :: after ∧
        (∀ e ∈ before, (∃ key, e.1.describe = .ok key) ∧ Written caps e.2) ∧
          (k.describe = .error failure ∨
            (∃ key, k.describe = .ok key) ∧ encode caps v = .error failure) := by
  rw [encodePairs_eq, mapM_eq_error]
  simp only [exists_pair_eq_ok]
  simp only [Prod.exists, pair_eq_error]

/-! ## Parts -/

/-- The parts fail as the first of them does. -/
theorem parts_error_iff {items : List Value}
    (h : ∀ u ∈ items, ∀ f, encode caps u = .error f ↔ Fails caps u f) :
    encodeList caps items = .error failure ↔ ∃ before u after, items = before ++ u :: after ∧
      (∀ u ∈ before, Written caps u) ∧ Fails caps u failure := by
  rw [encodeList_eq_error]
  constructor
  · rintro ⟨before, u, after, rfl, written, failed⟩
    exact ⟨before, u, after, rfl, written, (h u (by simp) failure).mp failed⟩
  · rintro ⟨before, u, after, rfl, written, failed⟩
    exact ⟨before, u, after, rfl, written, (h u (by simp) failure).mpr failed⟩

/-- A list fails exactly as `Fails` says, if its items do. -/
theorem list_error_iff {items : List Value}
    (h : ∀ u ∈ items, ∀ f, encode caps u = .error f ↔ Fails caps u f) :
    encode caps (.list items) = .error failure ↔ Fails caps (.list items) failure := by
  rw [encode, map_eq_error, parts_error_iff h]
  constructor
  · rintro ⟨before, u, after, rfl, written, failed⟩
    exact .item written failed
  · intro hfails
    cases hfails with
    | text textual =>
        cases textual
    | item written failed =>
        exact ⟨_, _, _, rfl, written, failed⟩
    | endless failed | untold failed =>
        -- A list is none of the values that catch.
        cases gathered_of_partFails failed

/-- Of a mapping and of a `Set` nothing fails but what is written one after the other. -/
theorem partFails_iff
    (hv : (∃ es, v = .mapping es) ∨ (∃ es, v = .bare es) ∨ ∃ items, v = .set items) :
    PartFails caps v failure ↔ ∃ before u after, partsOf v = before ++ u :: after ∧
      (∀ u ∈ before, Written caps u) ∧ Fails caps u failure := by
  constructor
  · intro h
    rcases hv with ⟨es, rfl⟩ | ⟨es, rfl⟩ | ⟨items, rfl⟩ <;> cases h with
    | part parts written failed =>
        exact ⟨_, _, _, parts, written, failed⟩
  · rintro ⟨before, u, after, parts, written, failed⟩
    exact .part parts written failed

theorem set_error_iff {items : List Value}
    (h : ∀ u ∈ items, ∀ f, encode caps u = .error f ↔ Fails caps u f) :
    encode caps (.set items) = .error failure ↔ Fails caps (.set items) failure := by
  refine degrade_fails_iff rfl ?_
  intro f
  rw [parts_error_iff h, partFails_iff (.inr (.inr ⟨items, rfl⟩))]
  rfl

/-- Entries fail with the first of their values that fails. -/
theorem entries_error_iff {entries : List (String × Value)}
    (h : ∀ e ∈ entries, ∀ f, encode caps e.2 = .error f ↔ Fails caps e.2 f) :
    encodeEntries caps entries = .error failure ↔
      ∃ before u after, entries.map Prod.snd = before ++ u :: after ∧
        (∀ u ∈ before, Written caps u) ∧ Fails caps u failure := by
  rw [← parts_error_iff (List.forall_mem_map.mpr h), encodeList_values, map_eq_error]

/-- A plain object fails exactly as `Fails` says, if its members do. -/
theorem mapping_error_iff {entries : List (String × Value)}
    (h : ∀ e ∈ entries, ∀ f, encode caps e.2 = .error f ↔ Fails caps e.2 f) :
    encode caps (.mapping entries) = .error failure ↔ Fails caps (.mapping entries) failure := by
  refine degrade_fails_iff rfl ?_
  intro f
  rw [entries_error_iff h, partFails_iff (.inl ⟨entries, rfl⟩)]
  rfl

theorem bare_error_iff {entries : List (String × Value)}
    (h : ∀ e ∈ entries, ∀ f, encode caps e.2 = .error f ↔ Fails caps e.2 f) :
    encode caps (.bare entries) = .error failure ↔ Fails caps (.bare entries) failure := by
  refine degrade_fails_iff rfl ?_
  intro f
  rw [entries_error_iff h, partFails_iff (.inr (.inl ⟨entries, rfl⟩))]
  rfl

theorem map_error_iff {entries : List (Value × Value)}
    (h : ∀ e ∈ entries, ∀ f, encode caps e.2 = .error f ↔ Fails caps e.2 f) :
    encode caps (.map entries) = .error failure ↔ Fails caps (.map entries) failure := by
  refine degrade_fails_iff rfl ?_
  intro f
  rw [encodePairs_eq_error]
  constructor
  · rintro ⟨before, k, u, after, rfl, written, failed | ⟨⟨key, named⟩, failed⟩⟩
    · exact .key written failed
    · exact .value written named ((h (k, u) (by simp) f).mp failed)
  · intro hfails
    cases hfails with
    | part parts =>
        cases List.append_ne_nil_of_right_ne_nil _ (List.cons_ne_nil _ _) parts.symm
    | key written failed =>
        exact ⟨_, _, _, _, rfl, written, .inl failed⟩
    | value written named failed =>
        exact ⟨_, _, _, _, rfl, written, .inr ⟨⟨_, named⟩,
          (h _ (List.mem_append_right _ List.mem_cons_self) f).mpr failed⟩⟩

theorem iterable_error_iff {items : List Value} {ending : Option Fault}
    {text tag : Except Fault String} (h : ∀ u ∈ items, ∀ f, encode caps u = .error f ↔ Fails caps u f) :
    encode caps (.iterable items ending text tag) = .error failure ↔
      Fails caps (.iterable items ending text tag) failure := by
  -- What ends the items is reached when all of them were written.
  have hencode : encode caps (.iterable items ending text tag) =
      degrade (.iterable items ending text tag)
        (((encodeList caps items).bind fun js => match ending with
          | none => .ok js
          | some f => .error f).map Json.arr) := by
    rw [encode]
    cases encodeList caps items <;> cases ending <;> rfl
  rw [hencode]
  refine degrade_fails_iff rfl ?_
  intro f
  constructor
  · intro hparts
    rcases error_of_bind hparts with hitems | ⟨js, hjs, hending⟩
    · obtain ⟨before, u, after, parts, written, failed⟩ := (parts_error_iff h).mp hitems
      exact .part parts written failed
    · cases ending with
      | none =>
          cases hending
      | some f =>
          cases hending
          exact .ending (exists_mapM.mp ⟨js, encodeList_eq items ▸ hjs⟩)
  · intro hfails
    cases hfails with
    | part parts written failed =>
        rw [(parts_error_iff h).mpr ⟨_, _, _, parts, written, failed⟩]
        rfl
    | ending written =>
        obtain ⟨js, hjs⟩ := exists_mapM.mpr written
        rw [encodeList_eq, hjs]
        rfl

theorem guarded_error_iff {entries : List (String × Value)} {key : String} {f : Fault} :
    encode caps (.guarded entries key f) = .error failure ↔
      Fails caps (.guarded entries key f) failure := by
  change degrade _ (Except.map Json.str (.error f)) = .error failure ↔ _
  refine degrade_fails_iff rfl ?_
  intro f'
  constructor
  · intro h
    cases h
    exact .hidden entries key f
  · intro hfails
    cases hfails with
    | part parts =>
        cases List.append_ne_nil_of_right_ne_nil _ (List.cons_ne_nil _ _) parts.symm
    | hidden =>
        rfl

theorem sealed_error_iff {f : Fault} :
    encode caps (.sealed f) = .error failure ↔ Fails caps (.sealed f) failure := by
  constructor
  · intro h
    cases h
    exact .sealed _
  · intro hfails
    cases hfails with
    | text textual =>
        cases textual
    | sealed =>
        rfl
    | endless failed | untold failed =>
        cases gathered_of_partFails failed

/-! ## All values -/

/-- A textual value is written as its description. -/
theorem encode_textual (hv : isTextual v = true) : encode caps v = v.describe.map .str := by
  cases v <;> first | rfl | cases hv

theorem text_error_iff (hv : isTextual v = true) :
    encode caps v = .error failure ↔ Fails caps v failure := by
  rw [encode_textual hv, map_eq_error]
  constructor
  · exact .text hv
  · intro h
    cases h with
    | text textual failed =>
        exact failed
    | sealed | axes | item =>
        cases hv
    | endless failed | untold failed =>
        cases (not_gathered hv).symm.trans (gathered_of_partFails failed)

/-- Without arrays an array is not written just if its axes cannot be counted. -/
theorem encode_ndarray_eq_error {a : NDArray} (harrays : caps.arrays = false) (valid : a.Valid)
    (fits : a.Fits) :
    encode caps (.ndarray a) = .error failure ↔
      failure = .endless ∧ ¬ NDArray.Countable a.dims := by
  rw [encode_ndarray harrays, ← NDArray.toNested?_eq_none valid]
  cases hrank : a.rank with
  | zero =>
      rw [nestedJson, map_eq_error, NDArray.text?, Failure.ofOption_eq_error, Option.map_eq_none_iff]
  | succ depth =>
      rw [nestedJson_eq valid fits hrank, map_eq_error, Failure.ofOption_eq_error]

/-- A well-formed array fails only by counting without end. -/
theorem array_error_iff {a : NDArray} (valid : a.Valid) (fits : a.Fits) :
    encode caps (.ndarray a) = .error failure ↔ Fails caps (.ndarray a) failure := by
  constructor
  · intro h
    cases harrays : caps.arrays with
    | true =>
        rw [encode, if_pos harrays] at h
        cases h
    | false =>
        obtain ⟨rfl, hcount⟩ := (encode_ndarray_eq_error harrays valid fits).mp h
        exact .axes harrays hcount
  · intro hfails
    cases hfails with
    | text textual =>
        cases textual
    | axes missing endless =>
        exact (encode_ndarray_eq_error missing valid fits).mpr ⟨rfl, endless⟩
    | endless failed | untold failed =>
        cases gathered_of_partFails failed

/-- Writing fails in no other way. -/
theorem encode_eq_error (h : v.WellFormed) (failure : Fault) :
    encode caps v = .error failure ↔ Fails caps v failure := by
  induction h generalizing failure with
  | ndarray valid fits =>
      exact array_error_iff valid fits
  | list each ih =>
      exact list_error_iff ih
  | mapping unmarked each ih =>
      exact mapping_error_iff ih
  | bare unmarked each ih =>
      exact bare_error_iff ih
  | map unmarked each ih =>
      exact map_error_iff ih
  | set each ih =>
      exact set_error_iff ih
  | iterable ending text tag each ih =>
      exact iterable_error_iff ih
  | guarded entries key f =>
      exact guarded_error_iff
  | sealed f =>
      exact sealed_error_iff
  | bigint | symbol | function | foreign | error =>
      exact text_error_iff rfl
  | _ =>
      -- Everything else is written.
      refine iff_of_false (fun h => by cases h) ?_
      intro hfails
      cases hfails with
      | text textual =>
          cases textual
      | endless failed | untold failed =>
          cases gathered_of_partFails failed

/-- The name of a function may be a symbol, which has no text here: a list of that function is not
written, and a `Set` of it becomes its text. -/
example (text : Except Fault String) (result : Except Fault Value) :
    encode caps (.list [.function text (.ok (.symbol "s")) result]) = .error Fault.symbolText ∧
      encode caps (.set [.function text (.ok (.symbol "s")) result]) = .ok (.str "[object Set]") :=
  ⟨rfl, rfl⟩

/-- A value is written unless it fails. -/
theorem written_iff (h : v.WellFormed) : Written caps v ↔ ∀ failure, ¬ Fails caps v failure := by
  simp only [← encode_eq_error h, Written]
  cases encode caps v with
  | error f =>
      simp
  | ok j =>
      simp

end Codec
end LineRpc
