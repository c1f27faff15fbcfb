import LineRpc.Number.Logarithm

/-!
# Tangent — the tangent by a fixed polynomial

An angle is reduced by quarters of the circle, exactly, to an angle between minus and plus an
eighth; its tangent is a polynomial, and after an odd number of quarters the negative reciprocal of
one.

- `Number.circle`  : the number of the circle, times a power of two
- `Number.quarter` : an angle less quarters of the circle
- `Number.tan`     : the tangent
-/

namespace LineRpc
namespace Number

/-! ## The number of the circle -/

/-- How many binary places the number of the circle has here. -/
def circlePlaces : Nat :=
  1280

/-- Add up the series for the angle whose tangent is one over an integer: `term` is the next power,
`k` the next odd number. -/
def angleSeries (square : Nat) : (steps : Nat) → (term k : Nat) → Int
  | 0, _, _ => 0
  | steps + 1, term, k => (term / k : Nat) - angleSeries square steps (term / square) (k + 2)

/-- The angle whose tangent is one over an integer, times a power of two. -/
def angleOf (n : Nat) : Int :=
  let one := Nat.shiftLeft 1 (circlePlaces + 32)
  angleSeries (n * n) (circlePlaces + 32) (one / n) 1

/-- The number of the circle times `2 ^ (circlePlaces + 32)`. -/
def circle : Nat :=
  (4 * (4 * angleOf 5 - angleOf 239)).toNat

/-! ## Reducing an angle -/

/-- An angle less some quarters of the circle: whether their number is odd, and the rest in two
parts. -/
structure Quarter where
  odd : Bool
  high : Float
  low : Float

/-- The nearest number to an integer times `2 ^ -places`. -/
def ofPlaces (places : Nat) (i : Int) : Float :=
  (Float.ofInt i).scaleB (-(places : Int))

/-- How many binary places the rest of an angle keeps. -/
def restPlaces : Nat :=
  256

/-- An angle less quarters of the circle. -/
def quarter (x : Float) : Quarter :=
  match scaled? x with
  | none => ⟨false, x, 0⟩
  | some ⟨m, e⟩ =>
      -- twice the angle and the number of the circle, with as many binary places
      let places := circlePlaces + 32
      let scale := places + 1 + e
      let angle : Int :=
        if 0 ≤ scale then m * Nat.shiftLeft 1 scale.toNat
        else m / Nat.shiftLeft 1 (-scale).toNat
      let n := (angle + circle / 2) / circle
      let rest := (angle - n * circle) / Nat.shiftLeft 1 (places + 1 - restPlaces)
      let high := ofPlaces restPlaces rest
      let back := match scaled? high with
        | some ⟨m, e⟩ => m * Nat.shiftLeft 1 (restPlaces + e).toNat
        | none => 0
      ⟨n % 2 != 0, high, ofPlaces restPlaces (rest - back)⟩

/-! ## The tangent -/

def tanFirst : Float :=
  3.33333333333334091986e-01

def tanEven : List Float :=
  [1.33333333333201242699e-01, 2.18694882948595424599e-02, 3.59207910759131235356e-03,
    5.88041240820264096874e-04, 7.81794442939557092300e-05, -1.85586374855275456654e-05]

def tanOdd : List Float :=
  [5.39682539762260521377e-02, 8.86323982359930005737e-03, 1.45620945432529025516e-03,
    2.46463134818469906812e-04, 7.14072491382608190305e-05, 2.59073051863633712884e-05]

/-- The negative reciprocal of `x + r`, where `w` is their sum. -/
def negativeReciprocal (x r w : Float) : Float :=
  let z := coarse w
  let v := r - (z - x)
  let a := -1 / w
  let t := coarse a
  let s := 1 + t * z
  t + a * (s + t * v)

/-- The tangent of a reduced angle, or its negative reciprocal. -/
def tanReduced (q : Quarter) : Float :=
  let large := 0x3FE59428 ≤ upper q.high
  let flip := large && q.high < 0
  let high := if flip then -q.high else q.high
  let low := if flip then -q.low else q.low
  let x :=
    if large then (7.85398163397448278999e-01 - high) + (3.06161699786838301793e-17 - low) else high
  let y : Float := if large then 0 else low
  let z := x * x
  let w := z * z
  let s := z * x
  let r := y + z * (s * (horner tanEven w + z * horner tanOdd w) + y) + tanFirst * s
  let sum := x + r
  if large then
    let v : Float := if q.odd then -1 else 1
    let t := v - 2 * (x - (sum * sum / (sum + v) - r))
    if q.high < 0 then -t else t
  else if q.odd then negativeReciprocal x r sum
  else sum

def tan (x : Float) : Float :=
  if !x.isFinite then nan
  else if upper x < 0x3E300000 then x
  else if upper x ≤ 0x3FE921FB then tanReduced ⟨false, x, 0⟩
  else
    let q := quarter x
    if upper q.high < 0x3E300000 then
      if q.odd then negativeReciprocal q.high q.low (q.high + q.low) else q.high
    else tanReduced q

end Number
end LineRpc
