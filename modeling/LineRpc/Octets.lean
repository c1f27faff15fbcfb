/-!
# Octets — bytes in memory order

Elements of arrays lie in memory with the least significant octet first.

- `Octets.ofNat` / `Octets.toNat` : a natural number as so many octets, and back
- `Octets.groups`                 : octets cut into groups of one size
- `Octets.ofHex?` / `Octets.toHex`: octets as hexadecimal digits
-/

namespace LineRpc

abbrev Octets :=
  List UInt8

namespace Octets

/-! ## Natural numbers -/

/-- The lowest `count` octets of a natural number, the lowest first. -/
def ofNat : (count n : Nat) → Octets
  | 0, _ => []
  | count + 1, n => UInt8.ofNat (n % 256) :: ofNat count (n / 256)

/-- The natural number whose octets these are, the lowest first. -/
def toNat : Octets → Nat
  | [] => 0
  | b :: bs => b.toNat + 256 * toNat bs

@[simp]
theorem length_ofNat (count n : Nat) : (ofNat count n).length = count := by
  induction count generalizing n with
  | zero => rfl
  | succ count ih => simp [ofNat, ih]

/-! ## Groups -/

/-- The octets in groups of `size`; what is left at the end makes a shorter group. -/
def groups (size : Nat) (bs : Octets) : List Octets :=
  if _h : size = 0 ∨ bs = [] then []
  else bs.take size :: groups size (bs.drop size)
termination_by bs.length
decreasing_by
  have : bs.length ≠ 0 := fun h₀ => _h (Or.inr (List.eq_nil_of_length_eq_zero h₀))
  simp only [List.length_drop]
  omega

/-! ## Hexadecimal digits -/

def hexValue? (c : Char) : Option Nat :=
  let n := c.toNat
  if 0x30 ≤ n ∧ n ≤ 0x39 then some (n - 0x30)
  else if 0x41 ≤ n ∧ n ≤ 0x46 then some (n - 0x37)
  else if 0x61 ≤ n ∧ n ≤ 0x66 then some (n - 0x57)
  else none

def ofHex? : List Char → Option Octets
  | [] => some []
  | a :: b :: cs => do
      let a ← hexValue? a
      let b ← hexValue? b
      let bs ← ofHex? cs
      pure (UInt8.ofNat (16 * a + b) :: bs)
  | _ => none

/-- Write two digits an octet, in lower case. -/
def toHex (bs : Octets) : String :=
  String.ofList (bs.flatMap fun b => [Nat.digitChar (b.toNat / 16), Nat.digitChar (b.toNat % 16)])

end Octets
end LineRpc
