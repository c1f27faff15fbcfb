import LineRpc.Proofs.Codec.Restriction
import LineRpc.Proofs.Frame

/-!
# Sound — what values hold is as it is built

A value is sound if every array, series and table in it, at any depth, is as building makes it.
Whether a value is sound is seen from itself and from its parts, so lists and mappings of sound
values are sound. Whatever is decoded is sound.

* `Value.Sound`      : every array, series and table in a value is as it is built
* `Value.Exact`      : each of them that can be counted agrees with its shape and its labels
* `sound_iff`        : soundness from the parts
* `sound_of_decode`  : what is decoded is sound
* `Value.Sound.exact`: what is sound agrees
-/

namespace LineRpc
namespace Value

variable {u v w : Value}

/-- A value is as building makes it, not looking at its parts. -/
def Built : Value → Prop
  | .ndarray a => a.Valid
  | .series s => s.Valid
  | .frame f => f.Valid
  | _ => True

/-- Every array, series and table in a value, at any depth, is as it is built. -/
def Sound (v : Value) : Prop :=
  ∀ u : Value, u.Within v → u.Built

/-- Every array, series and table in a value, at any depth, agrees with its shape, its columns and
its labels, as far as these can be counted. -/
structure Exact (v : Value) : Prop where
  arrays : ∀ a, (Value.ndarray a).Within v → a.Fits → a.Exact
  series : ∀ s, (Value.series s).Within v → s.Fits → s.Exact
  tables : ∀ f, (Value.frame f).Within v → f.Fits → f.Exact

/-- In a sound value every array is exact. -/
theorem Sound.exact (h : v.Sound) : v.Exact where
  arrays := by
    intro a ha hf
    have ha : a.Valid := h _ ha
    exact ha.exact hf
  series := by
    intro s hs hf
    have hs : s.Valid := h _ hs
    exact hs.exact hf
  tables := by
    intro f hfv hf
    have hfv : f.Valid := h _ hfv
    exact hfv.exact hf

/-! ## Values and their parts -/

/-- A value is sound if it is as it is built and its parts are sound. -/
theorem sound_iff : v.Sound ↔ v.Built ∧ ∀ p ∈ v.parts, p.Sound := by
  constructor
  · intro h
    refine ⟨h v .self, ?_⟩
    intro p hp u hu
    exact h u (.part hp hu)
  · rintro ⟨hv, hparts⟩ u hu
    cases hu with
    | self =>
        exact hv
    | part mem within =>
        exact hparts _ mem u within

/-- The parts of a sound value are sound. -/
theorem Sound.part (h : v.Sound) {p : Value} (hp : p ∈ v.parts) : p.Sound :=
  (sound_iff.mp h).2 p hp

/-- Without parts it is enough that the value itself is built well. -/
theorem sound_of_leaf (hparts : v.parts = []) : v.Sound ↔ v.Built := by
  simp [sound_iff (v := v), hparts]

@[simp]
theorem sound_ndarray {a : NDArray} : (Value.ndarray a).Sound ↔ a.Valid :=
  sound_of_leaf rfl

/-- A series holds the array of its values, which are as they are built if the series is. -/
@[simp]
theorem sound_series {s : Series} : (Value.series s).Sound ↔ s.Valid := by
  constructor
  · intro h
    exact h _ .self
  · intro h
    simpa [sound_iff (v := .series s), Built, parts] using ⟨h, h.values⟩

@[simp]
theorem sound_frame {f : Frame} : (Value.frame f).Sound ↔ f.Valid := by
  constructor
  · intro h
    exact h _ .self
  · intro h
    simpa [sound_iff (v := .frame f), Built, parts] using ⟨h, h.values⟩

@[simp]
theorem sound_list {items : List Value} : (Value.list items).Sound ↔ ∀ v ∈ items, v.Sound := by
  simp [sound_iff (v := .list items), Built, parts]

@[simp]
theorem sound_mapping {entries : List (String × Value)} :
    (Value.mapping entries).Sound ↔ ∀ e ∈ entries, e.2.Sound := by
  simp only [sound_iff (v := .mapping entries), Built, parts, List.forall_mem_map, true_and]

@[simp]
theorem sound_undefined : Value.undefined.Sound :=
  (sound_of_leaf rfl).mpr trivial

@[simp]
theorem sound_num (x : Float) : (Value.num x).Sound :=
  (sound_of_leaf rfl).mpr trivial

@[simp]
theorem sound_str (s : String) : (Value.str s).Sound :=
  (sound_of_leaf rfl).mpr trivial

@[simp]
theorem sound_ofScalar (x : Scalar) : (Value.ofScalar x).Sound := by
  cases x with
  | num x =>
      exact sound_num x
  | int i =>
      exact (sound_of_leaf rfl).mpr trivial

/-! ## What is decoded -/

/-- A decoded value is built well. -/
theorem built_of_canonical {c : Capabilities} (h : v.Canonical c) : v.Built := by
  cases h with
  | ndarray _ valid _ =>
      exact valid
  | frame _ _ valid _ _ _ =>
      exact valid
  | _ =>
      trivial

/-- What is decoded from the wire is sound. -/
theorem sound_of_decode {c : Capabilities} {j : Json} (h : Codec.decodeJson c j = .ok v) :
    v.Sound := by
  intro u hu
  exact built_of_canonical (Codec.canonical_of_within hu (Codec.canonical_of_decode h))

end Value
end LineRpc
