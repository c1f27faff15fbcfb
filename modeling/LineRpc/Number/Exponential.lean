import LineRpc.Number.Logarithm

/-!
# Exponential — powers

The power of `e` to a number is a power of two and the power of `e` to a number near zero, and the
latter is a quotient of polynomials with fixed coefficients. The power of any base is the one
nearest to the exact power, as far as the machine gives it.

- `Number.exp` : the power of `e`
- `Number.pow` : the power of any base
-/

namespace LineRpc
namespace Number

def expTerms : List Float :=
  [1.66666666666666019037e-01, -2.77777777770155933842e-03, 6.61375632143793436117e-05,
    -1.65339022054652515390e-06, 4.13813679705723846039e-08]

/-- A small number less its even part. -/
def oddPart (x : Float) : Float :=
  let t := x * x
  x - t * horner expTerms t

/-! ## The power of e -/

/-- An argument as `k * ln 2 + (high - low)`, with a small difference of the last two. -/
structure Reduced where
  k : Int
  high : Float
  low : Float

/-- Reduce an argument that is not small. -/
def reduceExp (x : Float) : Reduced :=
  let down := hasSign x
  if upper x < 0x3FF0A2B2 then
    if down then ⟨-1, x + ln2Upper, -ln2Lower⟩ else ⟨1, x - ln2Upper, ln2Lower⟩
  else
    let k := truncate (1.44269504088896338700e+00 * x + if down then -0.5 else 0.5)
    let t := Float.ofInt k
    ⟨k, x - t * ln2Upper, t * ln2Lower⟩

/-- The power of `e`. -/
def exp (x : Float) : Float :=
  if x.isNaN then nan
  else if x > 7.09782712893383973096e+02 then infinity
  else if x < -7.45133219101941108420e+02 then 0
  else if upper x < 0x3E300000 then 1 + x
  else if upper x ≤ 0x3FD62E42 then
    let c := oddPart x
    1 - ((x * c) / (c - 2) - x)
  else if x == 1 then 2.718281828459045
  else
    let r := reduceExp x
    let y := r.high - r.low
    let c := oddPart y
    (1 - ((r.low - (y * c) / (2 - c)) - r.high)).scaleB r.k

/-! ## The power of any base -/

/-- The power of a number. An exponent that is no number gives none, and neither does an infinite
exponent of one of either sign. -/
def pow (x y : Float) : Float :=
  if y.isNaN || (x.abs == 1 && y.isInf) then nan else x.pow y

end Number
end LineRpc
