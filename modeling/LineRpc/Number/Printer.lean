import LineRpc.Number.Exact
import LineRpc.Number.Shortest

/-!
# Printer — the text of a number

A number is written with the fewest digits that read back. The point stays inside or beside the
digits as long as it is at most `21` places from their start; otherwise an exponent is written.

- `Layout`  : the decisions of the format
- `render`  : the text of a number
-/

namespace LineRpc
namespace Number

/-- The decisions of a number format. `maxPoint` is the furthest place of the point, counted from
the first digit, that is written without an exponent; a point before the digits may have fewer than
`maxZeros` zeros after it. -/
structure Layout where
  maxPoint : Int
  maxZeros : Int
  deriving Repr

/-- Up to twenty-one digits before the point, fewer than seven places after it. -/
def standard : Layout where
  maxPoint := 21
  maxZeros := 6

/-- Write a decimal: digits with the point at its place, or one digit before the point and an
exponent that always has a sign. -/
def Layout.write (f : Layout) (d : Decimal) : String :=
  let digits := Nat.toDigits 10 d.digits
  let count : Int := digits.length
  let point := count + d.exponent
  let zeros (n : Int) : List Char := List.replicate n.toNat '0'
  if count ≤ point ∧ point ≤ f.maxPoint then
    String.ofList (digits ++ zeros (point - count))
  else if 0 < point ∧ point ≤ f.maxPoint then
    String.ofList (digits.take point.toNat ++ '.' :: digits.drop point.toNat)
  else if -f.maxZeros < point ∧ point ≤ 0 then
    String.ofList ('0' :: '.' :: zeros (-point) ++ digits)
  else
    let exponent := point - 1
    let tail := digits.drop 1
    let fraction := if tail.isEmpty then [] else '.' :: tail
    let sign := if exponent < 0 then '-' else '+'
    String.ofList (digits.take 1 ++ fraction ++ 'e' :: sign :: Nat.toDigits 10 exponent.natAbs)

/-- The text of a number. Both zeros are written `0`. -/
def render (x : Float) : String :=
  match scaled? x with
  | some ⟨m, e⟩ =>
      if m = 0 then "0"
      else if m < 0 then "-" ++ standard.write (shortest m.natAbs e)
      else standard.write (shortest m.natAbs e)
  | none =>
      if x.isNaN then "NaN" else if x < 0 then "-Infinity" else "Infinity"

end Number
end LineRpc
