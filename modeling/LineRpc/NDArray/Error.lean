import LineRpc.Number.Printer

/-!
# Error — what can be wrong with arrays and tables

Each way in which an array, a series or a table cannot be built or read is one constructor; its
words are in `ArrayError.message`.
-/

namespace LineRpc

/-- A shape as it is written in messages: a shape of one dimension has a comma after it. -/
def shapeText (shape : List Float) : String :=
  match shape with
  | [d] => s!"({Number.render d},)"
  | ds => "(" ++ ", ".intercalate (ds.map Number.render) ++ ")"

/-- Why an array, a series or a table cannot be built or read. -/
inductive ArrayError
  /-- Octets that do not make whole elements. -/
  | partialElement (octets itemSize : Nat)
  /-- A dimension that is no natural number. -/
  | invalidDimension (dimension : Float) (shape : List Float)
  /-- A shape that does not hold the elements. -/
  | sizeMismatch (size : Nat) (shape : List Float)
  /-- A number of values other than the number of elements. -/
  | fillMismatch (size given : Nat)
  /-- A number that a 64-bit integer element cannot hold. -/
  | notInteger (x : Float)
  /-- A negative or unthinkable length. -/
  | invalidLength
  /-- Room that does not hold whole elements. -/
  | partialRoom (view : String) (itemSize : Nat)
  /-- A length for which there is no memory. -/
  | outOfMemory
  /-- A list where its siblings are numbers. -/
  | tooDeep
  /-- A list whose length differs from its siblings, or a number where they are lists. -/
  | ragged (depth : Nat)
  /-- Too few or too many indices. -/
  | indexCount (expected given : Nat)
  /-- An index that is no place of its axis. -/
  | outOfBounds (index : Float) (axis : Nat) (dimension : Float)
  /-- An array without axes has no items. -/
  | noAxis
  /-- A series needs exactly one axis. -/
  | seriesRank (rank : Nat)
  /-- A number of labels other than the number of rows. -/
  | labelCount (rows : Float) (given : Nat)
  /-- Columns that do not fit the values. -/
  | columnCount (shape : List Float) (columns : Nat)
  /-- A column that is not there. -/
  | noColumn (name : String)
  deriving DecidableEq

namespace ArrayError

/-- Whether the kind of a value is at fault, rather than its range. -/
def isKind : ArrayError → Bool
  | .noAxis => true
  | _ => false

def message : ArrayError → String
  | .partialElement octets itemSize =>
      s!"buffer size {octets} must be a multiple of element size {itemSize}"
  | .invalidDimension d shape =>
      s!"invalid dimension {Number.render d} in shape {shapeText shape}"
  | .sizeMismatch size shape => s!"cannot reshape array of size {size} into shape {shapeText shape}"
  | .fillMismatch size given => s!"cannot fill {size} elements from {given} values"
  | .notInteger x =>
      s!"{Number.render x} is not an integer and cannot be stored in a 64-bit integer array"
  | .invalidLength => "Invalid array buffer length"
  | .partialRoom view itemSize => s!"byte length of {view} should be a multiple of {itemSize}"
  | .outOfMemory => "Array buffer allocation failed"
  | .tooDeep => "inhomogeneous nesting depth"
  | .ragged depth => s!"inhomogeneous shape at depth {depth}"
  | .indexCount expected given => s!"expected {expected} indices, got {given}"
  | .outOfBounds index axis d =>
      s!"index {Number.render index} is out of bounds for axis {axis} with size {Number.render d}"
  | .noAxis => "iteration over a 0-d array"
  | .seriesRank rank => s!"series values must be 1-D, got {rank}-D"
  | .labelCount rows given =>
      s!"Length mismatch: expected {Number.render rows} index labels, got {given}"
  | .columnCount shape columns =>
      let dims := ", ".intercalate (shape.map Number.render)
      s!"Shape of passed values is ({dims}), columns imply {columns} columns"
  | .noColumn name => s!"no column named '{name}'"

end ArrayError
end LineRpc
