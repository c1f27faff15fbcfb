/-!
# Shortest — the fewest decimal digits that read back

A positive number `m * 2 ^ e` is the nearest one of its format to every real in an interval around
it. The decimal written for it is the one with the fewest digits in that interval, and of several
the nearest; of two equally near the even one.

Everything is decided in natural numbers: the interval is measured in quarters of the last place.

- `Decimal`    : digits times a power of ten
- `hit?`       : the decimal of the interval on one grid of powers of ten
- `shortest`   : the decimal with the fewest digits
-/

namespace LineRpc
namespace Number

/-- The number `digits * 10 ^ exponent`. -/
structure Decimal where
  digits : Nat
  exponent : Int
  deriving Repr, DecidableEq

def digitCount (n : Nat) : Nat :=
  (Nat.toDigits 10 n).length

/-- The exponent of the leading decimal digit of `m * 2 ^ e`, for a positive `m`. -/
def leading (m : Nat) (e : Int) : Int :=
  let num := m * Nat.pow 2 e.toNat
  let den := Nat.pow 2 (-e).toNat
  -- The difference of the lengths is right or one too high.
  let guess : Int := digitCount num - digitCount den
  if den * Nat.pow 10 guess.toNat ≤ num * Nat.pow 10 (-guess).toNat then guess else guess - 1

/-- The distance to the next smaller number, in quarters of the last place: half as far below the
least mantissa of a binade. -/
def gapBelow (m : Nat) (e : Int) : Nat :=
  if m = Nat.pow 2 52 ∧ -1074 < e then 1 else 2

/-- The digits on the grid of `10 ^ k` that read back as `m * 2 ^ e`: the nearer one of the two
neighbours of the number that lie in its interval. -/
def hit? (m : Nat) (e k : Int) : Option Nat :=
  -- Quarters of the last place and steps of the grid are brought to one measure.
  let scale := Nat.pow 2 (e - 2).toNat * Nat.pow 10 (-k).toNat
  let unit := Nat.pow 2 (2 - e).toNat * Nat.pow 10 k.toNat
  let value := 4 * m * scale
  let low := (4 * m - gapBelow m e) * scale
  let high := (4 * m + 2) * scale
  -- Reading rounds to even, so an even mantissa takes in the ends of its interval.
  let inside (d : Nat) : Bool :=
    if m % 2 = 0 then low ≤ d * unit && d * unit ≤ high else low < d * unit && d * unit < high
  let below := value / unit
  match inside below, inside (below + 1) with
  | true, true =>
      match compare (2 * value) ((2 * below + 1) * unit) with
      | .lt => some below
      | .gt => some (below + 1)
      | .eq => some (if below % 2 = 0 then below else below + 1)
  | true, false => some below
  | false, true => some (below + 1)
  | false, false => none

/-- Drop the zeros at the end of the digits, as many as `fuel` allows. -/
def Decimal.strip : (fuel : Nat) → Decimal → Decimal
  | 0, d => d
  | fuel + 1, d =>
      if d.digits ≠ 0 ∧ d.digits % 10 = 0 then
        Decimal.strip fuel ⟨d.digits / 10, d.exponent + 1⟩
      else
        d

/-- The most digits that a 64-bit number ever needs. -/
def maxDigits : Nat :=
  17

/-- The shortest decimal that reads back as `m * 2 ^ e`, for a positive `m`. -/
def shortest (m : Nat) (e : Int) : Decimal :=
  let top := leading m e
  -- The coarsest grid with a hit gives the fewest digits.
  let found := (List.range maxDigits).findSome? fun (i : Nat) =>
    (hit? m e (top - i)).map (Decimal.mk · (top - i))
  match found with
  | some d => d.strip maxDigits
  | none => ⟨m * Nat.pow 2 e.toNat / Nat.pow 2 (-e).toNat, 0⟩

end Number
end LineRpc
