import LineRpc.Dtype
import LineRpc.Failure
import LineRpc.Number.Counter

/-!
# NDArray — numeric arrays of any number of dimensions

An array is a kind of element, a shape, and the octets of its elements in row-major order. A shape
is a list of numbers, as it came: a dimension may be written as negative zero.

- `NDArray.checkShape` : a shape that holds so many elements
- `NDArray.ofOctets`   : an array over octets, if the shape holds them
- `NDArray.fromBytes`  : an array from octets of unknown origin
- `NDArray.ofScalars`  : an array of given elements
- `NDArray.element`    : the element at an index
- `NDArray.items`      : the items along the first axis
- `NDArray.transpose`  : rows and columns exchanged
-/

namespace LineRpc

/-- An array: the kind of its elements, its shape, and its elements in memory order. -/
structure NDArray where
  dtype : Dtype
  shape : List Float
  octets : Octets
  deriving DecidableEq

namespace NDArray

/-! ## Shapes -/

/-- A dimension must be a natural number. -/
def isDimension (d : Float) : Bool :=
  Number.isInteger d && !(d < 0)

/-- The product of the dimensions, multiplied from the left as numbers. -/
def product (shape : List Float) : Float :=
  shape.foldl (· * ·) 1

/-- Accept a shape for a number of elements: every dimension a natural number, and their product
the number of elements. -/
def checkShape (shape : List Float) (size : Nat) : Except ArrayError Unit :=
  match shape.find? fun d => !isDimension d with
  | some d => .error (.invalidDimension d shape)
  | none =>
      -- The product is one of numbers: it may be infinite on the way, and then no zero mends it.
      if product shape == Float.ofNat size then .ok () else .error (.sizeMismatch size shape)

/-! ## Building -/

/-- The array over octets with a shape, if the shape holds the elements. -/
def ofOctets (dtype : Dtype) (octets : Octets) (shape : List Float) : Except ArrayError NDArray := do
  checkShape shape (octets.length / dtype.itemSize)
  pure ⟨dtype, shape, octets⟩

/-- The array over octets of unknown origin. Without a shape, or with an empty one, it has one
dimension. -/
def fromBytes (dtype : Dtype) (octets : Octets) (shape : List Float) :
    Except ArrayError NDArray :=
  if octets.length % dtype.itemSize ≠ 0 then
    .error (.partialElement octets.length dtype.itemSize)
  else
    ofOctets dtype octets
      (if shape.isEmpty then [Float.ofNat (octets.length / dtype.itemSize)] else shape)

/-- The array of given elements. Without a shape it has one dimension. -/
def ofScalars (xs : List Scalar) (dtype : Dtype) (shape : Option (List Float)) :
    Except ArrayError NDArray := do
  let octets ← dtype.storeAll xs
  ofOctets dtype octets (shape.getD [Float.ofNat xs.length])

def zeros (dtype : Dtype) (shape : List Float) : Except ArrayError NDArray := do
  let size ← dtype.allocate (product shape)
  ofOctets dtype (List.replicate (size * dtype.itemSize) 0) shape

/-! ## Reading -/

def rank (a : NDArray) : Nat :=
  a.shape.length

def size (a : NDArray) : Nat :=
  a.octets.length / a.dtype.itemSize

def dims (a : NDArray) : List Nat :=
  a.shape.map Number.toNat

/-- The length of the first axis; an array without axes has none. -/
def rows (a : NDArray) : Float :=
  a.shape.headD 0

def elements (a : NDArray) : List Scalar :=
  a.dtype.loadAll a.octets

/-- The row-major offset of an index, if each part of it is a place of its axis. -/
def offset (acc axis : Nat) : (shape index : List Float) → Except ArrayError Nat
  | d :: shape, i :: index =>
      if Number.isInteger i && !(i < 0) && i < d then
        offset (acc * Number.toNat d + Number.toNat i) (axis + 1) shape index
      else
        .error (.outOfBounds i axis d)
  | _, _ => .ok acc

def element (a : NDArray) (index : List Float) : Except ArrayError Scalar :=
  if index.length ≠ a.rank then .error (.indexCount a.rank index.length)
  else do
    let i ← offset 0 0 a.shape index
    pure (a.elements.getD i (.num Number.nan))

def reshape (a : NDArray) (shape : List Float) : Except ArrayError NDArray :=
  ofOctets a.dtype a.octets shape

/-! ## Items along the first axis -/

/-- An item along the first axis: an element, or an array of one dimension less. -/
inductive Item
  | scalar (x : Scalar)
  | array (a : NDArray)
  deriving DecidableEq

/-- The number of places in a box with the given sides. -/
def volume : List Nat → Nat
  | [] => 1
  | d :: dims => d * volume dims

/-- The number of elements of one item along the first axis. -/
def stride (a : NDArray) : Nat :=
  volume (a.dims.drop 1)

/-- The `i`-th part of an array of two dimensions or more. -/
def part (a : NDArray) (i : Nat) : Except ArrayError NDArray :=
  let width := a.stride * a.dtype.itemSize
  ofOctets a.dtype ((a.octets.drop (i * width)).take width) (a.shape.drop 1)

/-- The items along the first axis; no end if the axis is longer than can be counted. -/
def items (a : NDArray) : Except (Failure ArrayError) (List Item) :=
  match a.shape with
  | [] => .error (.raised .noAxis)
  | [_] => .ok (a.elements.map .scalar)
  | d :: _ => do
      let n ← Failure.ofOption (Number.below? d)
      Failure.ofExcept ((List.range n).mapM fun i => (a.part i).map .array)

/-! ## Rows and columns -/

/-- The elements column by column; nothing comes out if a side that is run along is longer than can
be counted. -/
def columns? (a : NDArray) (rows cols : Float) : Option (List Scalar) := do
  let xs := a.elements.toArray
  let n ← Number.below? cols
  -- Without columns the rows are not counted.
  let columns ← (List.range n).mapM fun j => do
    let m ← Number.below? rows
    pure ((List.range m).map fun i => xs.getD (i * Number.toNat cols + j) (.num Number.nan))
  pure columns.flatten

/-- The array with rows and columns exchanged: its elements are read column by column and stored
again. An array that has not two dimensions stays as it is. -/
def transpose (a : NDArray) : Except (Failure ArrayError) NDArray :=
  match a.shape with
  | [rows, cols] => do
      let xs ← Failure.ofOption (a.columns? rows cols)
      Failure.ofExcept (ofScalars xs a.dtype (some [cols, rows]))
  | _ => .ok a

end NDArray
end LineRpc
