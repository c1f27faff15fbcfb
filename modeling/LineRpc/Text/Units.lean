/-!
# Units — sixteen-bit code units of a text

Lengths reported by the worker count code units of sixteen bits, and names are sorted by them. A
character outside the basic plane takes two units, so it sorts before the characters from U+E000 on.

- `charUnits`    : the one or two units of a character
- `unitLength`   : the number of units of a text
- `takeUnits`    : the beginning of a text
- `unitLe`       : the order of texts by their units
-/

namespace LineRpc
namespace Text

/-- The code units of one character: itself, or a high and a low surrogate. -/
def charUnits (c : Char) : List Nat :=
  let n := c.toNat
  if n < 0x10000 then [n] else [0xD800 + (n - 0x10000) / 0x400, 0xDC00 + (n - 0x10000) % 0x400]

def units (s : String) : List Nat :=
  s.toList.flatMap charUnits

def unitLength (s : String) : Nat :=
  (units s).length

/-- The characters that have room in a number of code units. -/
def takeFitting : Nat → List Char → List Char
  | _, [] => []
  | room, c :: cs =>
      let size := (charUnits c).length
      if room < size then [] else c :: takeFitting (room - size) cs

/-- The longest beginning of a text with at most `n` code units. -/
def takeUnits (n : Nat) (s : String) : String :=
  String.ofList (takeFitting n s.toList)

/-- Lists of code units in order: the first difference decides, and a beginning comes before the
whole. -/
def unitsLe : List Nat → List Nat → Bool
  | [], _ => true
  | _ :: _, [] => false
  | m :: ms, n :: ns => if m < n then true else if n < m then false else unitsLe ms ns

/-- Texts in the order of their code units. -/
def unitLe (a b : String) : Bool :=
  unitsLe (units a) (units b)

def sortNames (names : List String) : List String :=
  names.mergeSort unitLe

end Text
end LineRpc
