import LineRpc.Mapping
import LineRpc.NDArray.Basic

/-!
# Frame — labelled columns

A series is one column with an optional name and optional row labels. A frame is an array of rows
and columns with column names and optional row labels; without columns its values may have any
number of dimensions.

- `Series.make`    : a series, if its parts fit
- `Frame.make`     : a frame, if its parts fit
- `Frame.column`   : the first column of a name
- `Frame.records`  : one mapping a row
-/

namespace LineRpc

inductive Label
  | str (s : String)
  | num (x : Float)
  deriving DecidableEq

structure Series where
  values : NDArray
  name : Option String
  index : Option (List Label)
  deriving DecidableEq

/-- A table: the names of its columns, its values, and the labels of its rows. -/
structure Frame where
  columns : List String
  values : NDArray
  index : Option (List Label)
  deriving DecidableEq

/-- Labels must be as many as there are rows. -/
def checkLabels (rows : Float) : Option (List Label) → Except ArrayError Unit
  | none => .ok ()
  | some labels =>
      if Float.ofNat labels.length == rows then .ok () else .error (.labelCount rows labels.length)

namespace Series

/-- A series over an array of one dimension. -/
def make (values : NDArray) (name : Option String) (index : Option (List Label)) :
    Except ArrayError Series := do
  if values.rank ≠ 1 then throw (.seriesRank values.rank)
  checkLabels (Float.ofNat values.size) index
  pure ⟨values, name, index⟩

def length (s : Series) : Nat :=
  s.values.size

end Series

namespace Frame

/-- Columns fit values of two dimensions with as many columns; no columns fit anything. -/
def columnsFit (columns : List String) (values : NDArray) : Bool :=
  match columns, values.shape with
  | [], _ => true
  | _, [_, c] => c == Float.ofNat columns.length
  | _, _ => false

/-- A frame, if columns and labels fit the values. -/
def make (columns : List String) (values : NDArray) (index : Option (List Label)) :
    Except ArrayError Frame := do
  if !columnsFit columns values then throw (.columnCount values.shape columns.length)
  checkLabels values.rows index
  pure ⟨columns, values, index⟩

def rows (f : Frame) : Float :=
  f.values.rows

/-- The places of the elements of a column. -/
def columnPlaces (f : Frame) (j : Nat) : List Nat :=
  (List.range (Number.toNat f.rows)).map fun i => i * f.columns.length + j

/-- The first column of a name, with the labels of the rows: its elements are stored again. -/
def column (f : Frame) (name : String) : Except ArrayError Series :=
  match f.columns.idxOf? name with
  | none => .error (.noColumn name)
  | some j => do
      let xs := f.values.elements.toArray
      let picked := (f.columnPlaces j).map fun p => xs.getD p (.num Number.nan)
      let values ← NDArray.ofScalars picked f.values.dtype none
      Series.make values (some name) f.index

/-- One row as a mapping. Of columns with one name the last one counts; the reserved key is left
out. -/
def record (columns : List String) (row : List Scalar) : Mapping Scalar :=
  Mapping.ofEntries ((columns.zip row).filter fun e => e.1 ≠ Mapping.reservedKey)

def records (f : Frame) : List (Mapping Scalar) :=
  let width := f.columns.length
  let xs := f.values.elements
  (List.range (Number.toNat f.rows)).map fun i =>
    record f.columns ((xs.drop (i * width)).take width)

def text (f : Frame) : String :=
  let names := ", ".intercalate f.columns
  s!"DataFrame({Number.render f.rows}x{f.columns.length}, columns=[{names}])"

end Frame
end LineRpc
