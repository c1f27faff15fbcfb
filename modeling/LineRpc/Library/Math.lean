import LineRpc.Library.Arguments
import LineRpc.Number.Exponential
import LineRpc.Number.Tangent

/-!
# Math — functions of numbers

All functions work on 64-bit numbers. Logarithms and the square root refuse arguments outside their
domain.

- `Math.factorial?` : the product up to a number, counted in numbers
- `Math.gcd`        : the greatest common divisor
- `Math.hypot`      : the length of a vector, without overflow on the way
- `Math.functions`  : the module `math`
-/

namespace LineRpc
namespace Math

/-! ## Single operations -/

/-- The integer part, cut toward zero. -/
def trunc (x : Float) : Float :=
  if x < 0 then x.ceil else x.floor

/-- The sum of the squares of numbers that have been divided by the largest, with the lost low
places carried along. -/
def scaledSquares (largest : Float) : (sum lost : Float) → List Float → Float
  | sum, _, [] => sum
  | sum, lost, x :: xs =>
      let n := x / largest
      let term := n * n - lost
      let next := sum + term
      scaledSquares largest next ((next - sum) - term) xs

/-- The length of a vector. An infinite part counts before a part that is no number. -/
def hypot (xs : List Float) : Float :=
  let sizes := xs.map Float.abs
  let largest := sizes.foldl (fun m x => if m < x then x else m) 0
  if sizes.any Float.isInf then Number.infinity
  else if sizes.any Float.isNaN then Number.nan
  else if largest == 0 then 0
  else (scaledSquares largest 0 0 sizes).sqrt * largest

/-- Multiply `product` by `i`, `i + 1`, … up to `n`, where the counter is a number too. Nothing
comes out if `fuel` steps do not take the counter past `n`. -/
def countUp (n : Float) : (fuel : Nat) → (i product : Float) → Option Float
  | 0, _, _ => none
  | fuel + 1, i, product =>
      if i ≤ n then countUp n fuel (i + 1) (product * i) else some product

/-- The product of the integers from `1` to `n`; nothing if the counter never gets past `n`. -/
def factorial? (n : Float) : Option Float :=
  countUp n (Number.toNat n + 1) 2 1

/-- The greatest common divisor of two natural numbers, by repeated division. -/
def euclid (a b : Nat) : Nat :=
  if _h : b = 0 then a else euclid b (a % b)
termination_by b
decreasing_by
  exact Nat.mod_lt a (Nat.pos_of_ne_zero _h)

/-- The greatest common divisor of numbers that are integers, of either sign. -/
def gcdOf (xs : List Float) : Nat :=
  xs.foldl (fun g x => euclid g (Number.toInt x).natAbs) 0

/-! ## The module -/

def unary (name : String) (f : Float → Except CallError Float) : String × Builtin :=
  (name, fun args => do
    Args.arity name args 1 1
    let x ← Args.number name (Args.nth args 0)
    let y ← f x
    pure (.num y))

/-- A function that is defined on part of the numbers only. -/
def domain (ok : Bool) : Except CallError Unit :=
  if ok then .ok () else .error .mathDomain

/-- The logarithm, natural or to a base. -/
def log : Builtin := fun args => do
  Args.arity "log" args 1 2
  let x ← Args.number "log" (Args.nth args 0)
  domain (x > 0)
  if args.length = 1 then
    pure (.num (Number.log x))
  else
    let base ← Args.number "log" (Args.nth args 1)
    domain (base > 0 && base != 1)
    pure (.num (Number.log x / Number.log base))

/-- The sum of a list, added from the left. -/
def fsum : Builtin := fun args => do
  Args.arity "fsum" args 1 1
  match Args.nth args 0 with
  | .list items => do
      let xs ← items.mapM (Args.number "fsum")
      pure (.num (xs.foldl (· + ·) 0))
  | _ => throw .notSummable

/-- The product of the integers up to a number. From `2 ^ 53` on the counter stands still and the
call never ends. -/
def factorial : Builtin := fun args => do
  Args.arity "factorial" args 1 1
  let n ← Args.integer "factorial" (Args.nth args 0)
  if n < 0 then throw .negativeFactorial
  let p ← Args.awaited (factorial? n)
  pure (.num p)

def gcd : Builtin := fun args => do
  let xs ← args.mapM (Args.integer "gcd")
  pure (.num (Float.ofNat (gcdOf xs)))

def functions : List (String × Builtin) :=
  [ unary "sqrt" fun x => do
      domain (x ≥ 0)
      pure x.sqrt,
    unary "exp" fun x => pure (Number.exp x),
    unary "fabs" fun x => pure x.abs,
    unary "floor" fun x => pure x.floor,
    unary "ceil" fun x => pure x.ceil,
    unary "trunc" fun x => pure (trunc x),
    unary "sin" fun x => pure x.sin,
    unary "cos" fun x => pure x.cos,
    unary "tan" fun x => pure (Number.tan x),
    unary "log2" fun x => do
      domain (x > 0)
      pure (Number.log2 x),
    unary "log10" fun x => do
      domain (x > 0)
      pure (Number.log10 x),
    ("log", log),
    ("pow", fun args => do
      Args.arity "pow" args 2 2
      let x ← Args.number "pow" (Args.nth args 0)
      let y ← Args.number "pow" (Args.nth args 1)
      pure (.num (Number.pow x y))),
    ("hypot", fun args => do
      let xs ← args.mapM (Args.number "hypot")
      pure (.num (hypot xs))),
    ("fsum", fsum),
    ("factorial", factorial),
    ("gcd", gcd) ]

end Math
end LineRpc
