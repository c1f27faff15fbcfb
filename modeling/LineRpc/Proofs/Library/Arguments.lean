import LineRpc.Library.Arguments
import LineRpc.Proofs.Number.Integers

/-!
# Arguments — numbers and integers that functions accept

A number counts as itself and a truth value as zero or one; nothing else counts as a number. Of
these, a function of integers accepts what is an integer, with any sign and of any size. Whatever it
refuses, the error is one about the kind of an argument.

* `Value.number?`     : the number that an argument counts as
* `Value.whole?`      : the integer that an argument counts as
* `integer_eq_ok`     : the integers that are accepted
* `isKind_of_integer` : what is refused, and how
-/

namespace LineRpc

/-! ## What arguments count as -/

namespace Value

/-- The number that a value counts as, if it counts as one. -/
def number? : Value → Option Float
  | .num x => some x
  | .bool b => some (if b then 1 else 0)
  | _ => none

/-- The integer that a value counts as, if it counts as one. -/
def whole? (v : Value) : Option Int :=
  v.number?.bind Number.integer?

end Value

/-! ## What is accepted -/

namespace Args

variable {function : String} {v : Value} {x : Float}

/-- An argument is refused if it counts as no number, and if its number is no integer. -/
theorem integer_eq (function : String) (v : Value) :
    integer function v = v.number?.elim (.error (.notNumber function v.kind)) fun x =>
      if Number.isInteger x then .ok x else .error (.notInteger function x) := by
  cases v with
  | bool b =>
      cases b <;> rfl
  | _ =>
      rfl

/-- Accepted are the numbers that are integers. -/
theorem integer_eq_ok :
    integer function v = .ok x ↔ v.number? = some x ∧ Number.isInteger x = true := by
  rw [integer_eq]
  cases v.number? with
  | none =>
      simp
  | some y =>
      cases hint : Number.isInteger y with
      | true =>
          simp only [Option.elim, hint, if_true, Except.ok.injEq, Option.some.injEq]
          exact ⟨fun h => ⟨h, h ▸ hint⟩, And.left⟩
      | false =>
          simp only [Option.elim, hint, Bool.false_eq_true, if_false, Option.some.injEq, false_iff,
            reduceCtorEq]
          rintro ⟨rfl, h⟩
          cases hint.symm.trans h

/-- An accepted number is the integer that the argument counts as. -/
theorem whole?_of_integer (h : integer function v = .ok x) :
    v.whole? = some (Number.toInt x) ∧ Number.integer? x = some (Number.toInt x) := by
  obtain ⟨hnumber, hint⟩ := integer_eq_ok.mp h
  obtain ⟨i, hi⟩ := Option.isSome_iff_exists.mp hint
  rw [Number.toInt_of_integer? hi, Value.whole?, hnumber]
  exact ⟨hi, hi⟩

/-- What counts as an integer is accepted. -/
theorem integer_of_whole? (function : String) {i : Int} (h : v.whole? = some i) :
    ∃ x, integer function v = .ok x ∧ Number.toInt x = i := by
  obtain ⟨x, hx, hi⟩ := Option.bind_eq_some_iff.mp h
  have haccepted : integer function v = .ok x :=
    integer_eq_ok.mpr ⟨hx, Number.isInteger_of_integer? hi⟩
  exact ⟨x, haccepted, Number.toInt_of_integer? hi⟩

/-- What is refused counts as no integer, and the error is about its kind. -/
theorem isKind_of_integer {e : CallError} (h : integer function v = .error e) :
    v.whole? = none ∧ e.errorClass = .type := by
  constructor
  · cases hwhole : v.whole? with
    | none =>
        rfl
    | some i =>
        obtain ⟨x, hx, -⟩ := integer_of_whole? function hwhole
        cases h.symm.trans hx
  · -- What is no number and what is no integer are refused in the same class.
    rw [integer_eq] at h
    cases hnumber : v.number? with
    | none =>
        rw [hnumber] at h
        cases h
        rfl
    | some y =>
        rw [hnumber, Option.elim] at h
        split at h
        · cases h
        · cases h
          rfl

end Args
end LineRpc
