import LineRpc.NDArray.Error
import LineRpc.Octets

/-!
# Dtype — kinds of numeric elements

There are ten kinds of elements. An element of a 64-bit integer kind is an exact integer, an element
of any other kind is a number. Storing into an integer kind keeps the integer part modulo the width.

- `Dtype`        : the kinds, with their tags and sizes
- `Scalar`       : what an element is when it is read
- `Dtype.load`   : read one element
- `Dtype.store`  : the octets of one element
-/

namespace LineRpc

inductive Dtype
  | f64
  | f32
  | i64
  | i32
  | i16
  | i8
  | u64
  | u32
  | u16
  | u8
  deriving DecidableEq, Repr

/-- One element as it is read: a number, or the exact integer of a 64-bit integer kind. -/
inductive Scalar
  | num (x : Float)
  | int (i : Int)
  deriving DecidableEq

namespace Scalar

/-- The nearest number. -/
def toNumber : Scalar → Float
  | .num x => x
  | .int i => Float.ofInt i

def text : Scalar → String
  | .num x => Number.render x
  | .int i => toString i

end Scalar

namespace Dtype

def all : List Dtype :=
  [.f64, .f32, .i64, .i32, .i16, .i8, .u64, .u32, .u16, .u8]

def tag : Dtype → String
  | .f64 => "f64"
  | .f32 => "f32"
  | .i64 => "i64"
  | .i32 => "i32"
  | .i16 => "i16"
  | .i8 => "i8"
  | .u64 => "u64"
  | .u32 => "u32"
  | .u16 => "u16"
  | .u8 => "u8"

def ofTag? (tag : String) : Option Dtype :=
  all.find? fun d => d.tag = tag

/-- The kind that a tag on the wire stands for: `f64` if there is none. -/
def ofTag (tag : String) : Dtype :=
  (ofTag? tag).getD .f64

def itemSize : Dtype → Nat
  | .f64 | .i64 | .u64 => 8
  | .f32 | .i32 | .u32 => 4
  | .i16 | .u16 => 2
  | .i8 | .u8 => 1

theorem itemSize_pos (d : Dtype) : 0 < d.itemSize := by
  cases d <;> decide

def viewName : Dtype → String
  | .f64 => "Float64Array"
  | .f32 => "Float32Array"
  | .i64 => "BigInt64Array"
  | .i32 => "Int32Array"
  | .i16 => "Int16Array"
  | .i8 => "Int8Array"
  | .u64 => "BigUint64Array"
  | .u32 => "Uint32Array"
  | .u16 => "Uint16Array"
  | .u8 => "Uint8Array"

/-- Whether elements are exact 64-bit integers. -/
def isWide : Dtype → Bool
  | .i64 | .u64 => true
  | _ => false

def isSigned : Dtype → Bool
  | .i64 | .i32 | .i16 | .i8 => true
  | _ => false

/-- The number of values of an integer kind. -/
def modulus (d : Dtype) : Nat :=
  Nat.pow 256 d.itemSize

/-- The integer that the octets of an integer kind stand for. -/
def integer (d : Dtype) (bs : Octets) : Int :=
  if d.isSigned then Int.bmod (Octets.toNat bs) d.modulus else Octets.toNat bs

def load (d : Dtype) (bs : Octets) : Scalar :=
  match d with
  | .f64 => .num (Float.ofBits (UInt64.ofNat (Octets.toNat bs)))
  | .f32 => .num (Number.ofBits32 (UInt32.ofNat (Octets.toNat bs)))
  | .i64 | .u64 => .int (d.integer bs)
  | _ => .num (Float.ofInt (d.integer bs))

/-- The octets of an integer, kept modulo the width. -/
def wrap (d : Dtype) (i : Int) : Octets :=
  Octets.ofNat d.itemSize (i % d.modulus).toNat

/-- The octets of one element. A 64-bit integer kind takes integers only; every other kind takes the
nearest number, and an integer kind the integer part of that. -/
def store (d : Dtype) (x : Scalar) : Except ArrayError Octets :=
  match d with
  | .f64 => .ok (Octets.ofNat 8 x.toNumber.toBits.toNat)
  | .f32 => .ok (Octets.ofNat 4 (Number.toBits32 x.toNumber).toNat)
  | .i64 | .u64 =>
      -- A number is taken only if it is a whole one.
      match x with
      | .int i => .ok (d.wrap i)
      | .num n =>
          match Number.integer? n with
          | some i => .ok (d.wrap i)
          | none => .error (.notInteger n)
  | _ => .ok (d.wrap (Number.truncate x.toNumber))

/-- The octets of many elements, up to the first that cannot be stored. -/
def storeAll (d : Dtype) (xs : List Scalar) : Except ArrayError Octets := do
  let groups ← xs.mapM d.store
  pure groups.flatten

def loadAll (d : Dtype) (bs : Octets) : List Scalar :=
  (Octets.groups d.itemSize bs).map d.load

/-! ## Room for elements -/

/-- The most octets for which memory is found. -/
def maxOctets : Float :=
  Float.ofNat 8589934592

/-- The number of elements in room that is asked for by a number. A length that is no number gives
no elements; a broken one may give room in whole octets that does not hold whole elements. -/
def allocate (d : Dtype) (length : Float) : Except ArrayError Nat :=
  -- A length that is no number passes all comparisons and is cut to zero.
  let octets := length * Float.ofNat d.itemSize
  let room := (Number.truncate octets).toNat
  if octets ≤ -1 ∨ octets > Float.ofInt Number.maxSafe then .error .invalidLength
  else if octets > maxOctets then .error .outOfMemory
  else if room % d.itemSize ≠ 0 then .error (.partialRoom d.viewName d.itemSize)
  else .ok (room / d.itemSize)

/-- Fill room for `size` elements with as many values. -/
def fill (d : Dtype) (size : Nat) (xs : List Scalar) : Except ArrayError Octets :=
  if xs.length ≠ size then .error (.fillMismatch size xs.length) else d.storeAll xs

end Dtype
end LineRpc
