import LineRpc.Library.Arguments

/-!
# Arrays — functions of arrays

- `Arrays.functions` : the module `ndarray`, for workers with arrays
-/

namespace LineRpc
namespace Arrays

/-- The sum of all elements: exact for 64-bit integers, else added from the left. -/
def sumOf (a : NDArray) : Scalar :=
  if a.dtype.isWide then
    .int (a.elements.foldl (fun s x => match x with
      | .int i => s + i
      | .num _ => s) 0)
  else
    .num (a.elements.foldl (fun s x => s + x.toNumber) 0)

def array : Builtin := fun args => do
  Args.arity "array" args 1 2
  let n ← Args.nested "array" (Args.nth args 0)
  let d ← Args.dtype "array" (Args.nth args 1) .f64
  let a ← Args.ofArray (NDArray.fromNested n d)
  pure (.ndarray a)

def zeros : Builtin := fun args => do
  Args.arity "zeros" args 1 2
  let shape ← Args.shape "zeros" (Args.nth args 0)
  let d ← Args.dtype "zeros" (Args.nth args 1) .f64
  let a ← Args.ofArray (NDArray.zeros d shape)
  pure (.ndarray a)

def arange : Builtin := fun args => do
  Args.arity "arange" args 1 2
  let stop ← Args.integer "arange" (Args.nth args 0)
  let d ← Args.dtype "arange" (Args.nth args 1) .i64
  let xs := (List.range (Number.toNat stop)).map fun i => Scalar.num (Float.ofNat i)
  let a ← Args.ofArray (NDArray.ofScalars xs d none)
  pure (.ndarray a)

def reshape : Builtin := fun args => do
  Args.arity "reshape" args 2 2
  let a ← Args.array "reshape" (Args.nth args 0)
  let shape ← Args.shape "reshape" (Args.nth args 1)
  let b ← Args.ofArray (a.reshape shape)
  pure (.ndarray b)

def transpose : Builtin := fun args => do
  Args.arity "transpose" args 1 1
  let a ← Args.array "transpose" (Args.nth args 0)
  let b ← Args.ofAttempt a.transpose
  pure (.ndarray b)

def sum : Builtin := fun args => do
  Args.arity "sum" args 1 1
  let a ← Args.array "sum" (Args.nth args 0)
  pure (Args.answerScalar (sumOf a))

def shape : Builtin := fun args => do
  Args.arity "shape" args 1 1
  let a ← Args.array "shape" (Args.nth args 0)
  pure (.list (a.shape.map .num))

def dtype : Builtin := fun args => do
  Args.arity "dtype" args 1 1
  let a ← Args.array "dtype" (Args.nth args 0)
  pure (.str a.dtype.tag)

def tolist : Builtin := fun args => do
  Args.arity "tolist" args 1 1
  let a ← Args.array "tolist" (Args.nth args 0)
  let n ← Args.awaited a.toNested?
  pure (Args.answerNested n)

def functions : List (String × Builtin) :=
  [("array", array), ("zeros", zeros), ("arange", arange), ("reshape", reshape),
    ("transpose", transpose), ("sum", sum), ("shape", shape), ("dtype", dtype),
    ("tolist", tolist)]

end Arrays
end LineRpc
