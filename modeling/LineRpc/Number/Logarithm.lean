import LineRpc.Number.Exact

/-!
# Logarithm — logarithms by a fixed polynomial

The logarithm of a number is that of a power of two and that of a factor near one, and the latter is
a polynomial in `s = f / (2 + f)`, where `1 + f` is the factor. The steps are fixed, so every
machine gives the same bits.

- `Number.upper`, `Number.lower`, `Number.coarse` : the halves of the bits of a number
- `Number.horner`                                 : a polynomial
- `Number.log`, `Number.log2`, `Number.log10`     : logarithms
-/

namespace LineRpc
namespace Number

/-! ## Halves of a number -/

/-- The values of thirty-two bits. -/
def halfRange : Nat :=
  0x100000000

/-- The upper half of the bits of a number, without its sign. It grows with the size of the number.
-/
def upper (x : Float) : Nat :=
  x.toBits.toNat / halfRange % 0x80000000

def lower (x : Float) : Nat :=
  x.toBits.toNat % halfRange

/-- Whether a number has a negative sign, zero included. -/
def hasSign (x : Float) : Bool :=
  0x80000000 ≤ x.toBits.toNat / halfRange

/-- The number with given halves, not negative. -/
def ofHalves (upper lower : Nat) : Float :=
  Float.ofBits (UInt64.ofNat (upper * halfRange + lower))

/-- A number without the lower half of its bits. -/
def coarse (x : Float) : Float :=
  Float.ofBits (x.toBits &&& 0xFFFFFFFF00000000)

def oneUpper : Nat :=
  0x3FF00000

/-- The part of the upper half that holds the exponent, in units of the exponent. -/
def exponentUnit : Nat :=
  0x100000

/-- The polynomial with given coefficients, the constant one first. -/
def horner (coefficients : List Float) (x : Float) : Float :=
  coefficients.foldr (fun c rest => c + x * rest) 0

/-! ## Factors near one -/

/-- A positive number as `factor * 2 ^ exponent`, with a factor between about 0.7 and 1.4. The
`fraction` is that of the upper half of the number. -/
structure Split where
  factor : Float
  exponent : Int
  fraction : Nat

/-- Split a positive number that is normal, and has been multiplied by two `shift` times. -/
def splitNormal (x : Float) (shift : Int) : Split :=
  let fraction := upper x % exponentUnit
  let carry := (fraction + 0x95F64) / exponentUnit
  { factor := ofHalves (fraction + (oneUpper - carry * exponentUnit)) (lower x)
    exponent := (upper x / exponentUnit : Nat) - 1023 + carry - shift
    fraction := fraction }

/-- Split a positive number. -/
def split (x : Float) : Split :=
  if upper x < exponentUnit then splitNormal (x * 1.80143985094819840000e+16) 54
  else splitNormal x 0

def evenTerms : List Float :=
  [3.999999999940941908e-01, 2.222219843214978396e-01, 1.531383769920937332e-01]

def oddTerms : List Float :=
  [6.666666666666735130e-01, 2.857142874366239149e-01, 1.818357216161805012e-01,
    1.479819860511658591e-01]

/-- The remainder of the series of the logarithm, as a function of `s`. -/
def remainder (s : Float) : Float :=
  let z := s * s
  let w := z * z
  z * horner oddTerms w + w * horner evenTerms w

def ln2Upper : Float :=
  6.93147180369123816490e-01

def ln2Lower : Float :=
  1.90821492927058770002e-10

/-- The natural logarithm of a positive finite number. -/
def logSplit (p : Split) : Float :=
  let f := p.factor - 1
  let k := Float.ofInt p.exponent
  if (p.fraction + 2) % exponentUnit < 3 then
    if f == 0 then k * ln2Upper + k * ln2Lower
    else
      let r := f * f * (0.5 - 0.33333333333333333 * f)
      if p.exponent = 0 then f - r else k * ln2Upper - ((r - k * ln2Lower) - f)
  else
    let s := f / (2 + f)
    let r := remainder s
    if 0x6147A ≤ p.fraction ∧ p.fraction ≤ 0x6B851 then
      let half := 0.5 * f * f
      if p.exponent = 0 then f - (half - s * (half + r))
      else k * ln2Upper - ((half - (s * (half + r) + k * ln2Lower)) - f)
    else if p.exponent = 0 then f - s * (f - r)
    else k * ln2Upper - ((s * (f - r) - k * ln2Lower) - f)

/-! ## Logarithms -/

/-- A logarithm, given what it is for positive finite numbers. -/
def logWith (f : Float → Float) (x : Float) : Float :=
  if x.isNaN || x < 0 then nan
  else if x == 0 then -infinity
  else if x.isInf then infinity
  else f x

def log (x : Float) : Float :=
  logWith (fun x => logSplit (split x)) x

def log2 (x : Float) : Float :=
  logWith (fun x =>
    let p := split x
    let f := p.factor - 1
    let half := 0.5 * f * f
    let s := f / (2 + f)
    let r := s * (half + remainder s)
    let high := coarse (f - half)
    let low := (f - high) - half + r
    let scaledHigh := high * 1.44269504072144627571e+00
    let scaledLow := (low + high) * 1.67517131648865118353e-10 + low * 1.44269504072144627571e+00
    let k := Float.ofInt p.exponent
    let whole := k + scaledHigh
    (scaledLow + ((k - whole) + scaledHigh)) + whole) x

/-- A positive number as `factor * 2 ^ exponent` with an exponent that is cut toward zero, so that
the factor is at least one half and below two. -/
def splitToZero (x : Float) : Float × Int :=
  let tiny := upper x < exponentUnit
  let y := if tiny then x * 1.80143985094819840000e+16 else x
  let e : Int := (upper y / exponentUnit : Nat) - 1023 - if tiny then 54 else 0
  let down := if e < 0 then 1 else 0
  (ofHalves (upper y % exponentUnit + (oneUpper - down * exponentUnit)) (lower y), e + down)

def log10 (x : Float) : Float :=
  logWith (fun x =>
    if x == 1 then 0
    else
      let (factor, e) := splitToZero x
      let k := Float.ofInt e
      let z := k * 3.69423907715893078616e-13 + 4.34294481903251816668e-01 * log factor
      z + k * 3.01029995663611771306e-01) x

end Number
end LineRpc
