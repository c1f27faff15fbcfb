import LineRpc.Octets

/-!
# Base64 — octets as text, strictly

Three octets are written as four characters of the standard alphabet. A last group of one or two
octets is filled up with `=`. Reading takes exactly such texts: no white space, no missing filling,
no other alphabet. The bits of the last character that no octet uses may be anything.

- `Base64.encode`  : the text of octets
- `Base64.decode?` : the octets of a text
-/

namespace LineRpc
namespace Base64

/-- The character of a number below `64`. -/
def digit (n : Nat) : Char :=
  if n < 26 then Char.ofNat ('A'.toNat + n)
  else if n < 52 then Char.ofNat ('a'.toNat + (n - 26))
  else if n < 62 then Char.ofNat ('0'.toNat + (n - 52))
  else if n = 62 then '+'
  else '/'

def value? (c : Char) : Option Nat :=
  let n := c.toNat
  if 0x41 ≤ n ∧ n ≤ 0x5A then some (n - 0x41)
  else if 0x61 ≤ n ∧ n ≤ 0x7A then some (n - 0x61 + 26)
  else if 0x30 ≤ n ∧ n ≤ 0x39 then some (n - 0x30 + 52)
  else if c = '+' then some 62
  else if c = '/' then some 63
  else none

/-- Write octets, three at a time. -/
def encodeChars : Octets → List Char
  | [] => []
  | [a] => [digit (a.toNat / 4), digit (a.toNat % 4 * 16), '=', '=']
  | [a, b] =>
      [digit (a.toNat / 4), digit (a.toNat % 4 * 16 + b.toNat / 16), digit (b.toNat % 16 * 4), '=']
  | a :: b :: c :: rest =>
      digit (a.toNat / 4) :: digit (a.toNat % 4 * 16 + b.toNat / 16) ::
        digit (b.toNat % 16 * 4 + c.toNat / 64) :: digit (c.toNat % 64) :: encodeChars rest

def encode (bs : Octets) : String :=
  String.ofList (encodeChars bs)

/-- The first octet of a group, from its first two characters. -/
def first (p q : Nat) : UInt8 :=
  UInt8.ofNat (p * 4 + q / 16)

/-- The second octet of a group, from its second and third characters. -/
def second (q r : Nat) : UInt8 :=
  UInt8.ofNat (q % 16 * 16 + r / 4)

/-- The third octet of a group, from its last two characters. -/
def third (r s : Nat) : UInt8 :=
  UInt8.ofNat (r % 4 * 64 + s)

/-- Read characters, four at a time. -/
def decodeChars? : List Char → Option Octets
  | [] => some []
  -- The last bits of `b` belong to no octet and are not looked at.
  | [a, b, '=', '='] => do
      let p ← value? a
      let q ← value? b
      pure [first p q]
  | [a, b, c, '='] => do
      let p ← value? a
      let q ← value? b
      let r ← value? c
      pure [first p q, second q r]
  | a :: b :: c :: d :: rest => do
      let p ← value? a
      let q ← value? b
      let r ← value? c
      let s ← value? d
      let bs ← decodeChars? rest
      pure (first p q :: second q r :: third r s :: bs)
  | _ => none

/-- The octets of a text, if it is written strictly. -/
def decode? (text : String) : Option Octets :=
  decodeChars? text.toList

end Base64
end LineRpc
