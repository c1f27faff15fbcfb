/-!
# Exact — the numbers behind floating-point values

Every number of the protocol is a `Float`. Shapes, indices and integer elements ask for the exact
number behind one, which is an integer times a power of two.

- `Scaled`          : an integer times a power of two
- `scaled?`         : the exact value of a finite number
- `integer?`        : the exact integer, for a number that is one
- `truncate`        : the integer part, with `0` for what is not finite
- `toBits32` / `ofBits32` : the 32-bit form of a number and back
-/

namespace LineRpc
namespace Number

open Float.Model

/-- The number `mantissa * 2 ^ exponent`. -/
structure Scaled where
  mantissa : Int
  exponent : Int
  deriving Repr, DecidableEq

/-- The exact value of a number, if it is finite. -/
def scaled? (x : Float) : Option Scaled :=
  match x.toModel.unpack with
  | .zero _ => some ⟨0, 0⟩
  | .finite sign m e _ => some ⟨sign.apply m, e⟩
  | .infinity _ => none
  | .notANumber => none

/-- The exact integer that a number is, if it is one. -/
def integer? (x : Float) : Option Int :=
  match scaled? x with
  | none => none
  | some ⟨m, e⟩ =>
      let scale : Nat := Nat.pow 2 e.natAbs
      if 0 ≤ e then some (m * scale)
      else if m % scale = 0 then some (m / scale)
      else none

def isInteger (x : Float) : Bool :=
  (integer? x).isSome

/-- The integer that a number is, and `0` for any other number. -/
def toInt (x : Float) : Int :=
  (integer? x).getD 0

/-- The natural number that a number is, and `0` for any other number. -/
def toNat (x : Float) : Nat :=
  (toInt x).toNat

/-- The integer part of a number, cut toward zero; `0` for infinities and for no number at all. -/
def truncate (x : Float) : Int :=
  match scaled? x with
  | none => 0
  | some ⟨m, e⟩ =>
      let scale : Nat := Nat.pow 2 e.natAbs
      if 0 ≤ e then m * scale else m.tdiv scale

/-- The negative zero, which is an integer and no less than zero. -/
def isNegativeZero (x : Float) : Bool :=
  match x.toModel.unpack with
  | .zero .negative => true
  | _ => false

/-- Largest integer such that it and all below it are exact. -/
def maxSafe : Int :=
  9007199254740991

/-- Whether a number is an integer no larger in size than `maxSafe`. -/
def isSafe (x : Float) : Bool :=
  match integer? x with
  | some i => i.natAbs ≤ maxSafe.toNat
  | none => false

def infinity : Float :=
  Float.ofBits 0x7FF0000000000000

/-- The value of no number. -/
def nan : Float :=
  Float.ofBits 0x7FF8000000000000

/-! ## The 32-bit form -/

/-- Round a number to a format, nearest first and to the even one of two. -/
def reround (format : Format) : UnpackedFloat → UnpackedFloat
  | .finite sign m e _ => UnpackedFloat.round format sign m e
  | other => other

/-- The 32-bit form of a number, rounded to the nearest with ties to even. -/
def toBits32 (x : Float) : UInt32 :=
  UInt32.ofBitVec (UnpackedFloat.pack Format.binary32 (reround Format.binary32 x.toModel.unpack))

/-- The number that a 32-bit form stands for; it is always exact. -/
def ofBits32 (b : UInt32) : Float :=
  Float.ofModel
    (Float.Model.pack (reround Format.binary64 (UnpackedFloat.unpack Format.binary32 b.toBitVec)))

end Number
end LineRpc
