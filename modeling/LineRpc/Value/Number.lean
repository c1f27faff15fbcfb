import LineRpc.Json.Token
import LineRpc.Text.Blank
import LineRpc.Value.Text

/-!
# Number — the number of a value

A text stands for a number if it is one in decimal or in one of three other bases, with blanks
around it or not. A text of blanks stands for zero, and any other text for no number. A value that
is neither a number nor a truth value is asked for its text first.

- `Number.ofText`  : the number of a text
- `Value.toNumber` : the number of a value
-/

namespace LineRpc
namespace Number

/-! ## Texts -/

/-- The value of a digit, letters standing for ten and more. -/
def digit? (base : Nat) (c : Char) : Option Nat :=
  let value :=
    if c.isDigit then c.toNat - '0'.toNat
    else if c.isLower then c.toNat - 'a'.toNat + 10
    else if c.isUpper then c.toNat - 'A'.toNat + 10
    else base
  if value < base then some value else none

/-- The integer of one digit or more in a base. -/
def natural? (base : Nat) (cs : List Char) : Option Nat :=
  if cs.isEmpty then none
  else (cs.mapM (digit? base)).map fun ds => ds.foldl (fun acc d => acc * base + d) 0

/-- Read a decimal without its sign: digits before or after a point or both, then an exponent, which
may be missing. -/
def decimal? (cs : List Char) : Option Float :=
  let whole := cs.takeWhile Char.isDigit
  let (fraction, rest) : List Char × List Char :=
    match cs.dropWhile Char.isDigit with
    | '.' :: ds => (ds.takeWhile Char.isDigit, ds.dropWhile Char.isDigit)
    | ds => ([], ds)
  let digits := Json.Token.decimal (whole ++ fraction)
  let places : Int := fraction.length
  if whole.isEmpty && fraction.isEmpty then none
  else
    match rest with
    | [] => some (Json.Token.nearest digits (-places))
    | c :: ds =>
        if c = 'e' ∨ c = 'E' then
          (Json.Token.exponent? ds).map fun e => Json.Token.nearest digits (e - places)
        else none

/-- Read a decimal or the word for infinity, without a sign. -/
def magnitude? (cs : List Char) : Option Float :=
  if cs = "Infinity".toList then some infinity else decimal? cs

def ofChars? : List Char → Option Float
  | [] => some 0
  | '0' :: 'x' :: cs => (natural? 16 cs).map Float.ofNat
  | '0' :: 'X' :: cs => (natural? 16 cs).map Float.ofNat
  | '0' :: 'o' :: cs => (natural? 8 cs).map Float.ofNat
  | '0' :: 'O' :: cs => (natural? 8 cs).map Float.ofNat
  | '0' :: 'b' :: cs => (natural? 2 cs).map Float.ofNat
  | '0' :: 'B' :: cs => (natural? 2 cs).map Float.ofNat
  | '-' :: cs => (magnitude? cs).map (-·)
  | '+' :: cs => magnitude? cs
  | cs => magnitude? cs

def ofText (s : String) : Float :=
  (ofChars? (Text.trimChars s.toList)).getD nan

end Number

namespace Value

/-! ## Values -/

/-- The number of a simple value; no other has one here. -/
def basicNumber : Value → Except Fault Float
  | .undefined => .ok Number.nan
  | .null => .ok 0
  | .bool b => .ok (if b then 1 else 0)
  | .num x => .ok x
  | .str s => .ok (Number.ofText s)
  | .bigint i => .ok (Scalar.int i).toNumber
  | .symbol _ => .error Fault.symbolNumber
  | _ => .error Fault.noPrimitive

/-- The number of a mapping: the same keys are asked as for its text, the other one first. -/
def mappingNumber (v : Value) : Except Fault Float :=
  primitive v.call? ["valueOf", "toString"] >>= basicNumber

def toNumber : Value → Except Fault Float
  | .mapping es => mappingNumber (.mapping es)
  | .bare es => mappingNumber (.bare es)
  | .guarded es key failure => mappingNumber (.guarded es key failure)
  | v => if v.isPrimitive then v.basicNumber else v.toText.map Number.ofText

end Value
end LineRpc
