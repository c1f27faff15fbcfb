import LineRpc.NDArray.Basic

/-!
# Nested — arrays as lists of lists

An array can be written as lists in lists down to its elements, and lists that are equally long at
every depth can be made an array.

- `Nested`             : elements, or lists of them
- `NDArray.fromNested` : the array of a nesting, if it is rectangular
- `NDArray.toNested?`  : the nesting of an array
- `NDArray.text?`      : an array in words
-/

namespace LineRpc

inductive Nested
  | leaf (x : Scalar)
  | node (items : List Nested)

namespace Nested

/-- The shape along the first items at every depth. -/
def shape : Nested → List Nat
  | .leaf _ => []
  | .node [] => [0]
  | .node (n :: ns) => (ns.length + 1) :: shape n

mutual

/-- The elements in order, if the nesting has exactly the given shape below `depth`. -/
def flatten (depth : Nat) : (shape : List Nat) → Nested → Except ArrayError (List Scalar)
  | [], .leaf x => .ok [x]
  | [], .node _ => .error .tooDeep
  | _ :: _, .leaf _ => .error (.ragged depth)
  | d :: shape, .node ns =>
      if ns.length = d then flattenAll (depth + 1) shape ns else .error (.ragged depth)

def flattenAll (depth : Nat) (shape : List Nat) : List Nested → Except ArrayError (List Scalar)
  | [] => .ok []
  | n :: ns => do
      let xs ← flatten depth shape n
      let ys ← flattenAll depth shape ns
      pure (xs ++ ys)

end

/-- Cut a row-major list of elements into lists as long as the axes of a shape; nothing comes out if
an axis is longer than can be counted. -/
def build? : (shape : List Float) → List Scalar → Option Nested
  | [], xs => some (.leaf (xs.headD (.num Number.nan)))
  | d :: shape, xs => do
      let n ← Number.below? d
      let stride := NDArray.volume (shape.map Number.toNat)
      let items ← (List.range n).mapM fun i => build? shape ((xs.drop (i * stride)).take stride)
      pure (.node items)

mutual

def text : Nested → String
  | .leaf x => x.text
  | .node ns => "[" ++ ", ".intercalate (texts ns) ++ "]"

def texts : List Nested → List String
  | [] => []
  | n :: ns => text n :: texts ns

end

end Nested

namespace NDArray

/-- The array of a nesting whose lists are equally long at every depth. -/
def fromNested (n : Nested) (dtype : Dtype) : Except ArrayError NDArray := do
  let shape := n.shape
  let xs ← n.flatten 0 shape
  ofScalars xs dtype (some (shape.map Float.ofNat))

/-- The elements of an array in lists, one depth a dimension. -/
def toNested? (a : NDArray) : Option Nested :=
  Nested.build? a.shape a.elements

def text? (a : NDArray) : Option String :=
  a.toNested?.map fun n => s!"array({n.text}, dtype={a.dtype.tag})"

end NDArray
end LineRpc
