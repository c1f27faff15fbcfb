import LineRpc.Library.Arrays
import LineRpc.Proofs.Library.Columns
import LineRpc.Proofs.Value.Sound

/-!
# Results — what the functions of arrays and tables give

A function of arrays or of tables that is given sound values and returns one returns a sound one.
Its arrays are built, one way or another, and so are its series and its tables.

* `sound_of_arrays` : the functions of arrays
* `sound_of_tables` : the functions of tables
-/

namespace LineRpc

open Value (Sound)

variable {args : List Value} {v : Value}

/-! ## Arguments and answers -/

namespace Args

/-- An argument that is left out is sound as well. -/
theorem sound_nth (h : ∀ a ∈ args, a.Sound) (i : Nat) : (nth args i).Sound := by
  rw [nth, List.getD_eq_getElem?_getD]
  cases hi : args[i]? with
  | none =>
      simp
  | some a =>
      simpa using h a (List.mem_of_getElem? hi)

/-- The array of a sound argument, which may be that of a series. -/
theorem valid_of_array {function : String} {a : NDArray} (hv : v.Sound)
    (h : array function v = .ok a) : a.Valid := by
  cases v with
  | ndarray b =>
      cases h
      simpa using hv
  | series s =>
      cases h
      exact (Value.sound_series.mp hv).values
  | _ =>
      cases h

/-- A sound argument that is a table is a valid one. -/
theorem valid_of_frame {function : String} {f : Frame} (hv : v.Sound)
    (h : frame function v = .ok f) : f.Valid := by
  cases v with
  | frame g =>
      cases h
      simpa using hv
  | _ =>
      cases h

/-- An element is sound as an answer. -/
theorem sound_answerScalar (x : Scalar) : (answerScalar x).Sound := by
  cases x with
  | num x =>
      simp [answerScalar]
  | int i =>
      simp only [answerScalar]
      split <;> simp

mutual

theorem sound_answerNested : (n : Nested) → (answerNested n).Sound
  | .leaf x => by
      simpa [answerNested] using sound_answerScalar x
  | .node ns => by
      simpa [answerNested] using sound_answerNestedList ns

theorem sound_answerNestedList : (ns : List Nested) → ∀ v ∈ answerNestedList ns, v.Sound
  | [] => by
      simp [answerNestedList]
  | n :: ns => by
      simpa [answerNestedList] using And.intro (sound_answerNested n) (sound_answerNestedList ns)

end

theorem ok_of_ofAttempt {α : Type} {r : Except (Failure ArrayError) α} {a : α}
    (h : ofAttempt r = .ok a) : r = .ok a := by
  rcases r with (e | _) | b
  · cases h
  · cases h
  · cases h
    rfl

/-- A function that reads its one argument and answers with a sound value. -/
theorem sound_of_reader {α : Type} {function : String} {read : Value → Except CallError α}
    {answer : α → Value} (hanswer : ∀ a, (answer a).Sound)
    (h : ((arity function args 1 1).bind fun _ =>
      (read (nth args 0)).bind fun a => .ok (answer a)) = .ok v) : v.Sound := by
  obtain ⟨_, -, h⟩ := ok_of_bind h
  obtain ⟨a, -, h⟩ := ok_of_bind h
  cases h
  exact hanswer a

end Args

/-! ## Functions of arrays -/

namespace Arrays

theorem sound_array (h : array args = .ok v) : v.Sound := by
  obtain ⟨_, -, h⟩ := ok_of_bind h
  obtain ⟨n, -, h⟩ := ok_of_bind h
  obtain ⟨d, -, h⟩ := ok_of_bind h
  obtain ⟨a, ha, h⟩ := ok_of_bind h
  cases h
  exact Value.sound_ndarray.mpr (NDArray.valid_of_fromNested (ok_of_mapError ha))

theorem sound_zeros (h : zeros args = .ok v) : v.Sound := by
  obtain ⟨_, -, h⟩ := ok_of_bind h
  obtain ⟨shape, -, h⟩ := ok_of_bind h
  obtain ⟨d, -, h⟩ := ok_of_bind h
  obtain ⟨a, ha, h⟩ := ok_of_bind h
  cases h
  exact Value.sound_ndarray.mpr (NDArray.valid_of_zeros (ok_of_mapError ha))

theorem sound_arange (h : arange args = .ok v) : v.Sound := by
  obtain ⟨_, -, h⟩ := ok_of_bind h
  obtain ⟨stop, -, h⟩ := ok_of_bind h
  obtain ⟨d, -, h⟩ := ok_of_bind h
  obtain ⟨a, ha, h⟩ := ok_of_bind h
  cases h
  exact Value.sound_ndarray.mpr (NDArray.valid_of_ofScalars (ok_of_mapError ha))

variable (hargs : ∀ a ∈ args, a.Sound)
include hargs

theorem sound_reshape (h : reshape args = .ok v) : v.Sound := by
  obtain ⟨_, -, h⟩ := ok_of_bind h
  obtain ⟨a, ha, h⟩ := ok_of_bind h
  obtain ⟨shape, -, h⟩ := ok_of_bind h
  obtain ⟨b, hb, h⟩ := ok_of_bind h
  cases h
  have hvalid : a.Valid := Args.valid_of_array (Args.sound_nth hargs 0) ha
  exact Value.sound_ndarray.mpr (NDArray.valid_of_reshape hvalid (ok_of_mapError hb))

theorem sound_transpose (h : transpose args = .ok v) : v.Sound := by
  obtain ⟨_, -, h⟩ := ok_of_bind h
  obtain ⟨a, ha, h⟩ := ok_of_bind h
  obtain ⟨b, hb, h⟩ := ok_of_bind h
  cases h
  have hvalid : a.Valid := Args.valid_of_array (Args.sound_nth hargs 0) ha
  exact Value.sound_ndarray.mpr (NDArray.valid_of_transpose hvalid (Args.ok_of_ofAttempt hb))

omit hargs

theorem sound_sum (h : sum args = .ok v) : v.Sound := by
  refine Args.sound_of_reader ?_ h
  intro a
  exact Args.sound_answerScalar _

theorem sound_shape (h : shape args = .ok v) : v.Sound := by
  refine Args.sound_of_reader ?_ h
  intro a
  simp

theorem sound_dtype (h : dtype args = .ok v) : v.Sound := by
  refine Args.sound_of_reader ?_ h
  intro a
  simp

theorem sound_tolist (h : tolist args = .ok v) : v.Sound := by
  obtain ⟨_, -, h⟩ := ok_of_bind h
  obtain ⟨a, -, h⟩ := ok_of_bind h
  obtain ⟨n, -, h⟩ := ok_of_bind h
  cases h
  exact Args.sound_answerNested n

/-- Every function of arrays gives sound values for sound ones. -/
theorem sound_of_arrays (hargs : ∀ a ∈ args, a.Sound) {name : String} {f : Builtin}
    (hf : (name, f) ∈ functions) (h : f args = .ok v) : v.Sound := by
  simp only [functions, List.mem_cons, Prod.mk.injEq, List.not_mem_nil, or_false] at hf
  rcases hf with ⟨-, rfl⟩ | ⟨-, rfl⟩ | ⟨-, rfl⟩ | ⟨-, rfl⟩ | ⟨-, rfl⟩ | ⟨-, rfl⟩ | ⟨-, rfl⟩ |
    ⟨-, rfl⟩ | ⟨-, rfl⟩
  · exact sound_array h
  · exact sound_zeros h
  · exact sound_arange h
  · exact sound_reshape hargs h
  · exact sound_transpose hargs h
  · exact sound_sum h
  · exact sound_shape h
  · exact sound_dtype h
  · exact sound_tolist h

end Arrays

/-! ## Functions of tables -/

namespace Tables

theorem sound_fromColumns (h : fromColumns args = .ok v) : v.Sound := by
  rw [fromColumns_eq] at h
  obtain ⟨_, -, h⟩ := ok_of_bind h
  split at h
  · obtain ⟨data, -, h⟩ := ok_of_bind h
    split at h
    · cases h
    · obtain ⟨d, -, h⟩ := ok_of_bind h
      obtain ⟨f, hf, rfl⟩ := ok_of_map h
      exact Value.sound_frame.mpr (valid_of_ofNumbers (ok_of_mapError hf))
  · cases h

theorem sound_columns (h : columns args = .ok v) : v.Sound := by
  refine Args.sound_of_reader ?_ h
  intro f
  simp

theorem sound_shape (h : shape args = .ok v) : v.Sound := by
  refine Args.sound_of_reader ?_ h
  intro f
  simp [Value.ofNat]

/-- Rows are mappings of answers. -/
theorem sound_records (h : records args = .ok v) : v.Sound := by
  refine Args.sound_of_reader ?_ h
  intro f
  simp only [Value.sound_list, List.forall_mem_map, Value.sound_mapping]
  intro r _ e _
  exact Args.sound_answerScalar e.2

theorem sound_column (h : column args = .ok v) : v.Sound := by
  obtain ⟨_, -, h⟩ := ok_of_bind h
  obtain ⟨f, hf, h⟩ := ok_of_bind h
  obtain ⟨name, -, h⟩ := ok_of_bind h
  obtain ⟨s, hs, h⟩ := ok_of_bind h
  cases h
  exact Value.sound_series.mpr (Frame.valid_of_column (ok_of_mapError hs))

variable (hargs : ∀ a ∈ args, a.Sound)
include hargs

/-- Other labels are checked like the first ones. -/
theorem sound_setIndex (h : setIndex args = .ok v) : v.Sound := by
  obtain ⟨_, -, h⟩ := ok_of_bind h
  obtain ⟨f, hf, h⟩ := ok_of_bind h
  obtain ⟨labels, -, h⟩ := ok_of_bind h
  obtain ⟨g, hg, h⟩ := ok_of_bind h
  cases h
  have hvalid : f.Valid := Args.valid_of_frame (Args.sound_nth hargs 0) hf
  exact Value.sound_frame.mpr (Frame.valid_of_make hvalid.values (ok_of_mapError hg)).1

/-- Every function of tables gives sound values for sound ones. -/
theorem sound_of_tables {name : String} {f : Builtin} (hf : (name, f) ∈ functions)
    (h : f args = .ok v) : v.Sound := by
  simp only [functions, List.mem_cons, Prod.mk.injEq, List.not_mem_nil, or_false] at hf
  rcases hf with ⟨-, rfl⟩ | ⟨-, rfl⟩ | ⟨-, rfl⟩ | ⟨-, rfl⟩ | ⟨-, rfl⟩ | ⟨-, rfl⟩
  · exact sound_fromColumns h
  · exact sound_columns h
  · exact sound_column h
  · exact sound_shape h
  · exact sound_records h
  · exact sound_setIndex hargs h

end Tables
end LineRpc
