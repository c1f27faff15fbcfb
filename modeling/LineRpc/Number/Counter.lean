import LineRpc.Number.Exact

/-!
# Counter — counting in numbers

The counter of a loop is a 64-bit number. Counting on by one is exact up to `2 ^ 53`; there the
counter stands still, and a loop that has farther to go never ends.

- `Number.countFrom` : count on from a number
- `Number.below?`    : how far a counter comes that starts at zero
-/

namespace LineRpc
namespace Number

/-- Count on from `i` while the counter is below `n`, after `seen` numbers. Nothing comes out if
`fuel` steps do not take the counter to `n`. -/
def countFrom (n : Float) : (fuel : Nat) → (i : Float) → (seen : Nat) → Option Nat
  | 0, _, _ => none
  | fuel + 1, i, seen => if i < n then countFrom n fuel (i + 1) (seen + 1) else some seen

/-- How many numbers a counter from zero on runs through before it reaches `n`; nothing if it never
does. -/
def below? (n : Float) : Option Nat :=
  countFrom n (toNat n + 1) 0 0

end Number
end LineRpc
