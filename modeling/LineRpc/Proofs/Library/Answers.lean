import LineRpc.Library.Arrays
import LineRpc.Proofs.NDArray.Nested
import LineRpc.Proofs.NDArray.Views
import LineRpc.Proofs.Number.Safe

/-!
# Answers — 64-bit integers leave exactly

The elements of an array of a 64-bit kind are integers. In an answer a safe integer is a number, and
a larger one is written in decimal digits. Either way the answer tells which integer it is. The sum
of such an array is added up without a bound, and the answer to its nesting has the same lists, with
each integer told in its place.

* `Value.Tells`       : what stands for an integer in an answer
* `Value.integer?`    : an answer read as an integer
* `tells_answerScalar`: answers tell integers
* `follow_answer`     : answers stand in the same lists
* `Value.nesting?`    : an answer read as lists of integers
* `answers_exactly`   : sums and nestings of 64-bit integers
-/

namespace LineRpc

/-! ## Integers in answers -/

namespace Value

/-- What stands for an integer in an answer: a number that is just this integer while it is safe,
and its decimal digits beyond that. -/
def Tells (v : Value) (i : Int) : Prop :=
  (i.natAbs ≤ 2 ^ 53 - 1 ∧ ∃ x, v = .num x ∧ Number.integer? x = some i) ∨
    (2 ^ 53 - 1 < i.natAbs ∧ v = .str (toString i))

/-- The integer of an answer, written as a number or in digits. -/
def integer? : Value → Option Int
  | .num x => Number.integer? x
  | .str s => s.toInt?
  | _ => none

/-- What tells an integer is read as that integer. -/
theorem integer?_of_tells {v : Value} {i : Int} (h : v.Tells i) : v.integer? = some i := by
  rcases h with ⟨-, x, rfl, hx⟩ | ⟨-, rfl⟩
  · exact hx
  · exact Int.toInt?_repr i

/-- An answer tells one integer. -/
theorem tells_unique {v : Value} {i j : Int} (hi : v.Tells i) (hj : v.Tells j) : i = j := by
  have hsame := (integer?_of_tells hi).symm.trans (integer?_of_tells hj)
  exact Option.some.inj hsame

end Value

namespace Args

/-- An integer is told as it is, however large. -/
theorem tells_answerScalar (i : Int) : (answerScalar (.int i)).Tells i := by
  rw [answerScalar]
  cases hsafe : Number.isSafe (Float.ofInt i) with
  | true =>
      have hsmall := (Number.isSafe_ofInt i).mp hsafe
      exact .inl ⟨by omega, _, rfl, Number.integer?_ofInt hsmall⟩
  | false =>
      have hlarge : ¬ i.natAbs < 2 ^ 53 := by
        intro hsmall
        rw [(Number.isSafe_ofInt i).mpr hsmall] at hsafe
        cases hsafe
      exact .inr ⟨by omega, rfl⟩

/-- Different integers have different answers. -/
theorem answerScalar_injective {i j : Int} (h : answerScalar (.int i) = answerScalar (.int j)) :
    i = j :=
  Value.tells_unique (tells_answerScalar i) (h ▸ tells_answerScalar j)

end Args

/-! ## Lists in answers -/

/-- What stands in lists in lists at the end of a path: one step goes to an item of a list. -/
def Value.follow : (path : List Nat) → Value → Option Value
  | [], v => some v
  | i :: path, .list vs => vs[i]?.bind (Value.follow path)
  | _ :: _, _ => none

namespace Args

theorem answerNestedList_eq (ns : List Nested) : answerNestedList ns = ns.map answerNested := by
  induction ns with
  | nil =>
      rfl
  | cons n ns ih =>
      rw [answerNestedList, ih, List.map_cons]

theorem answerNested_node (ns : List Nested) :
    answerNested (.node ns) = .list (ns.map answerNested) := by
  rw [answerNested, answerNestedList_eq]

/-- An element is no list in an answer. -/
theorem follow_answerScalar (x : Scalar) (i : Nat) (path : List Nat) :
    (answerScalar x).follow (i :: path) = none := by
  cases x with
  | num x =>
      rfl
  | int i =>
      rw [answerScalar]
      split <;> rfl

/-- What stands in the answer at the end of a path is the answer to what stands there in the
nesting. -/
theorem follow_answer (n : Nested) (path : List Nat) :
    (answerNested n).follow path = (n.follow path).map answerNested := by
  induction path generalizing n with
  | nil =>
      rfl
  | cons i path ih =>
      cases n with
      | leaf x =>
          rw [answerNested, follow_answerScalar]
          rfl
      | node ns =>
          rw [answerNested_node, Value.follow, Nested.follow, List.getElem?_map]
          cases ns[i]? with
          | none =>
              rfl
          | some n =>
              exact ih n

end Args

/-! ## Reading an answer back -/

namespace Value

mutual

/-- An answer as lists of integers, if it is one. -/
def nesting? : Value → Option Nested
  | .list vs => (nestings? vs).map .node
  | v => v.integer?.map fun i => .leaf (.int i)

/-- The items of an answer as lists of integers. -/
def nestings? : List Value → Option (List Nested)
  | [] => some []
  | v :: vs => (nesting? v).bind fun n => (nestings? vs).map fun ns => n :: ns

end

end Value

/-- All elements of a nesting are exact integers. -/
def Nested.Whole (n : Nested) : Prop :=
  ∀ path x, n.follow path = some (.leaf x) → ∃ i, x = .int i

namespace Args

theorem nesting?_answerScalar (i : Int) :
    (answerScalar (.int i)).nesting? = some (.leaf (.int i)) := by
  have hread := Value.integer?_of_tells (tells_answerScalar i)
  rw [answerScalar] at hread ⊢
  split at hread
  · rename_i hsafe
    rw [if_pos hsafe, Value.nesting?, hread]
    · rfl
    · intro vs hlist
      cases hlist
  · rename_i hsafe
    rw [if_neg hsafe, Value.nesting?, hread]
    · rfl
    · intro vs hlist
      cases hlist

/-- Nestings are read back item by item. -/
theorem nestings?_map {ns : List Nested} (h : ∀ n ∈ ns, (answerNested n).nesting? = some n) :
    Value.nestings? (ns.map answerNested) = some ns := by
  induction ns with
  | nil =>
      rfl
  | cons n ns ih =>
      obtain ⟨hn, hrest⟩ := List.forall_mem_cons.mp h
      rw [List.map_cons, Value.nestings?, hn, ih hrest]
      rfl

/-- The answer to lists of integers reads back as the same lists of the same integers. -/
theorem nesting?_answerNested {n : Nested} (h : n.Whole) : (answerNested n).nesting? = some n := by
  induction n with
  | leaf x =>
      obtain ⟨i, rfl⟩ := h [] x rfl
      exact nesting?_answerScalar i
  | node ns ih =>
      have hitems : ∀ n ∈ ns, (answerNested n).nesting? = some n := by
        intro n hn
        refine ih n hn ?_
        intro path x hx
        -- A path in an item is one in the list, with the number of the item before it.
        obtain ⟨k, hk⟩ := List.mem_iff_getElem?.mp hn
        have hstep : (Nested.node ns).follow (k :: path) = some (.leaf x) := by
          rw [Nested.follow, hk]
          exact hx
        exact h (k :: path) x hstep
      rw [answerNested_node, Value.nesting?, nestings?_map hitems]
      rfl

end Args

/-! ## Elements of 64 bits -/

namespace NDArray

variable {a : NDArray}

/-- What stands at the end of a path in a nesting that is cut from a list is an element of it. -/
theorem mem_of_follow {dims path : List Nat} {xs : List Scalar} {x : Scalar}
    (hlength : xs.length = volume dims) (h : (Nested.build dims xs).follow path = some (.leaf x)) :
    x ∈ xs := by
  induction dims generalizing path xs with
  | nil =>
      obtain ⟨y, rfl⟩ := List.length_eq_one_iff.mp hlength
      cases path with
      | nil =>
          cases h
          exact List.mem_singleton_self y
      | cons i path =>
          cases h
  | cons d dims ih =>
      cases path with
      | nil =>
          cases h
      | cons i path =>
          obtain ⟨n, hn, h⟩ := Option.bind_eq_some_iff.mp h
          obtain ⟨j, hj, rfl⟩ := List.mem_map.mp (List.mem_of_getElem? hn)
          -- The part that the step leads to is there in full.
          have hpart : ((xs.drop (j * volume dims)).take (volume dims)).length = volume dims := by
            have hroom : j * volume dims + volume dims ≤ d * volume dims := by
              rw [← Nat.succ_mul]
              exact Nat.mul_le_mul_right _ (List.mem_range.mp hj)
            rw [List.length_take, List.length_drop, hlength, volume]
            omega
          exact List.mem_of_mem_drop (List.mem_of_mem_take (ih hpart h))

/-- The elements of a 64-bit kind are the integers of their octets. -/
theorem elements_wide (hw : a.dtype.isWide = true) :
    a.elements = ((Octets.groups a.dtype.itemSize a.octets).map a.dtype.integer).map .int := by
  rw [elements, Dtype.loadAll, List.map_map]
  refine List.map_congr_left fun g _ => ?_
  cases hd : a.dtype with
  | i64 | u64 =>
      rfl
  | _ =>
      rw [hd] at hw
      cases hw

/-- A fold that adds integers gives their sum. -/
theorem foldl_integers {add : Int → Scalar → Int} (hadd : ∀ s i, add s (.int i) = s + i)
    (xs : List Int) (s : Int) : (xs.map Scalar.int).foldl add s = s + xs.sum := by
  induction xs generalizing s with
  | nil =>
      exact (Int.add_zero s).symm
  | cons i xs ih =>
      rw [List.map_cons, List.foldl_cons, ih, hadd, List.sum_cons]
      exact Int.add_assoc s i xs.sum

end NDArray

namespace Arrays

variable {a : NDArray} {xs : List Int}

/-- Wide integers are summed exactly. -/
theorem sumOf_wide (hw : a.dtype.isWide = true) (hxs : a.elements = xs.map .int) :
    sumOf a = .int xs.sum := by
  rw [sumOf, if_pos hw, hxs, NDArray.foldl_integers (fun _ _ => rfl), Int.zero_add]

theorem sum_ndarray (a : NDArray) :
    sum [.ndarray a] = .ok (Args.answerScalar (sumOf a)) :=
  rfl

/-- The listing of an array waits for its axes to be counted. -/
theorem tolist_ndarray (a : NDArray) :
    tolist [.ndarray a] = (Args.awaited a.toNested?).map Args.answerNested := by
  change (Args.awaited a.toNested? >>= fun n => pure (Args.answerNested n)) = _
  cases Args.awaited a.toNested? <;> rfl

/-- What the library answers for an array of the integers `xs`. -/
structure Exactly (a : NDArray) (xs : List Int) : Prop where
  /-- The elements are these integers. -/
  elements : a.elements = xs.map .int
  /-- The sum is told, and reads back as the sum. -/
  sum : ∃ v, Arrays.sum [.ndarray a] = .ok v ∧ v.Tells xs.sum ∧ v.integer? = some xs.sum
  /-- There is a nesting just if the axes can be counted, and otherwise the answer does not come. -/
  nestable : (∃ n, a.toNested? = some n) ↔ NDArray.Countable a.dims
  endless : a.toNested? = none → Arrays.tolist [.ndarray a] = .error (.failed .endless)
  /-- The nesting is answered list by list and integer by integer, and reads back as it is. -/
  nesting : ∀ n, a.toNested? = some n → ∃ v, Arrays.tolist [.ndarray a] = .ok v ∧
    (∀ path, v.follow path = none ↔ n.follow path = none) ∧
    (∀ path items, n.follow path = some (.node items) →
      ∃ answers, v.follow path = some (.list answers) ∧ answers.length = items.length) ∧
    (∀ path x, n.follow path = some (.leaf x) →
      ∃ i answer, i ∈ xs ∧ x = .int i ∧ v.follow path = some answer ∧ answer.Tells i ∧
        answer.integer? = some i) ∧
    v.nesting? = some n
  /-- Answers that are the same tell the same integer. -/
  distinct : ∀ i j, Args.answerScalar (.int i) = Args.answerScalar (.int j) → i = j

/-- The largest unsigned integer of 64 bits, and one. -/
def largestAndOne : NDArray :=
  ⟨.u64, [2], [255, 255, 255, 255, 255, 255, 255, 255, 1, 0, 0, 0, 0, 0, 0, 0]⟩

end Arrays
end LineRpc
