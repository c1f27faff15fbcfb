import LineRpc.NDArray.Nested
import LineRpc.Proofs.NDArray.Exact

/-!
# Nested — a rectangular nesting fills its shape

The shape of a nesting is read along the first items. Flattening checks that all other lists are as
long, and then gives just as many elements as the shape has places. So an array of a nesting fails
because the nesting is not rectangular or an element cannot be stored, never because of the shape.

* `Nested.induct`          : induction over nestings, with lists by what they hold
* `length_flatten`         : as many elements as the shape has places
* `error_of_flatten`       : what can be wrong with a nesting
* `isMisfit_of_fromNested` : why a nesting is no array
-/

namespace LineRpc

/-- The errors of the checks that building arrays, series and tables makes: parts that do not fit
together. -/
def ArrayError.isMisfit : ArrayError → Bool
  | .invalidDimension .. => true
  | .sizeMismatch .. => true
  | .seriesRank _ => true
  | .labelCount .. => true
  | .columnCount .. => true
  | _ => false

namespace Nested

/-- The lists at every depth can be counted, each by itself and all together. -/
structure Counted (n : Nested) : Prop where
  each : ∀ d ∈ n.shape, d < 2 ^ 53
  together : ∀ k, NDArray.volume (n.shape.take k) < 2 ^ 53

/-- Induction over a nesting: a list has the statement of all its items. -/
@[induction_eliminator]
theorem induct {motive : Nested → Prop} (leaf : ∀ x, motive (.leaf x))
    (node : ∀ items, (∀ n ∈ items, motive n) → motive (.node items)) (n : Nested) : motive n := by
  refine @Nested.rec motive (fun items => ∀ n ∈ items, motive n) leaf node ?_ ?_ n
  · intro n hn
    cases hn
  · intro n items hn hitems
    exact List.forall_mem_cons.mpr ⟨hn, hitems⟩

/-! ## Flattening -/

variable {depth : Nat} {shape : List Nat} {n : Nested}

/-- The items of a nesting are flattened one after the other. -/
theorem flattenAll_eq (ns : List Nested) :
    flattenAll depth shape ns = (ns.mapM (flatten depth shape)).map List.flatten := by
  induction ns with
  | nil =>
      rfl
  | cons n ns ih =>
      rw [flattenAll, ih, List.mapM_cons]
      cases flatten depth shape n with
      | error e =>
          rfl
      | ok xs =>
          cases ns.mapM (flatten depth shape) <;> rfl

/-- A list of the right length gives the elements of its items, one item after the other. -/
theorem flatten_node {d : Nat} (ns : List Nested) :
    flatten depth (d :: shape) (.node ns) =
      if ns.length = d then (ns.mapM (flatten (depth + 1) shape)).map List.flatten
      else .error (.ragged depth) := by
  rw [flatten, flattenAll_eq]

/-- A nesting that fits its shape has as many elements as the shape. -/
theorem length_flatten {xs : List Scalar} (h : flatten depth shape n = .ok xs) :
    xs.length = NDArray.volume shape := by
  induction n generalizing depth shape xs with
  | leaf x =>
      cases shape <;> cases h
      rfl
  | node ns ih =>
      cases shape with
      | nil =>
          cases h
      | cons d shape =>
          rw [flatten_node] at h
          split at h
          · rename_i hlength
            obtain ⟨groups, hgroups, rfl⟩ := ok_of_map h
            -- All items have the shape of the rest, so the lengths multiply.
            have heach : ∀ g ∈ groups, g.length = NDArray.volume shape := by
              intro g hg
              obtain ⟨n, hn, hflatten⟩ := exists_of_mem_mapM hgroups hg
              exact ih n hn hflatten
            have hsum : (groups.map List.length).sum = groups.length * NDArray.volume shape := by
              simp [List.map_congr_left heach]
            rw [List.length_flatten, hsum, length_of_mapM hgroups, hlength, NDArray.volume]
          · cases h

/-- Flattening finds no other fault than lists that are too deep or not equally long. -/
theorem error_of_flatten {e : ArrayError} (h : flatten depth shape n = .error e) :
    e = .tooDeep ∨ ∃ k, e = .ragged k := by
  induction n generalizing depth shape with
  | leaf x =>
      cases shape <;> cases h
      exact .inr ⟨depth, rfl⟩
  | node ns ih =>
      -- A list below the depth of the shape is too deep, and one of another length is ragged.
      cases shape with
      | nil =>
          cases h
          exact .inl rfl
      | cons d shape =>
          rw [flatten_node] at h
          split at h
          · obtain ⟨n, hn, hflatten⟩ := exists_of_mapM_error (map_eq_error.mp h)
            exact ih n hn hflatten
          · cases h
            exact .inr ⟨depth, rfl⟩

end Nested

namespace NDArray

theorem isMisfit_of_ofScalars {xs : List Scalar} {d : Dtype} {s : Option (List Float)}
    (hc : checkShape (s.getD [Float.ofNat xs.length]) xs.length = .ok ()) {e : ArrayError}
    (h : ofScalars xs d s = .error e) : e.isMisfit = false := by
  obtain ⟨x, rfl⟩ := error_of_ofScalars hc h
  rfl

/-- A nesting is no array because of what is in it, not because of its shape. -/
theorem isMisfit_of_fromNested {n : Nested} (hn : n.Counted) {d : Dtype} {e : ArrayError}
    (h : fromNested n d = .error e) : e.isMisfit = false := by
  rcases error_of_bind h with hflatten | ⟨xs, hxs, hscalars⟩
  · obtain rfl | ⟨k, rfl⟩ := Nested.error_of_flatten hflatten
    · rfl
    · rfl
  · have hshape := checkShape_map_ofNat hn.each hn.together
    refine isMisfit_of_ofScalars ?_ hscalars
    simpa only [Option.getD_some, Nested.length_flatten hxs] using hshape

end NDArray
end LineRpc
