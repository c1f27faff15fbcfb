import LineRpc.Library.Arguments

/-!
# Tables — functions of frames

- `Tables.functions` : the module `frame`, for workers with tables
-/

namespace LineRpc
namespace Tables

/-- The columns that a value shows, in the order of its keys, as far as they can be read. -/
def shownColumns (source : Value) : List (String × Except Fault Value) :=
  let readable := source.entries.map fun (name, v) => (name, .ok v)
  match source.unreadable? with
  | none => readable
  | some (key, failure) => Mapping.set readable key (.error failure)

def columnNumbers (name : String) : Except Fault Value → Except CallError (List Float)
  | .error failure => .error (.failed failure)
  | .ok (.list items) => items.mapM (Args.number "from_columns")
  | .ok v => .error (.columnNotList name v.kind)

/-- The elements of columns of one length, row by row. -/
def interleave (rows : Nat) (columns : List (List Float)) : List Float :=
  (List.range rows).flatMap fun i => columns.map fun column => column.getD i Number.nan

def fromColumns : Builtin := fun args => do
  Args.arity "from_columns" args 1 2
  let source := Args.nth args 0
  if !Args.isMapping source then throw (.notMapping "from_columns" source.kind)
  let entries := source.entries
  let data ← (shownColumns source).mapM fun (name, v) => columnNumbers name v
  let rows := (data.headD []).length
  if data.any fun column => column.length ≠ rows then throw .raggedColumns
  let d ← Args.dtype "from_columns" (Args.nth args 1) .f64
  let shape := [Float.ofNat rows, Float.ofNat entries.length]
  let values ←
    Args.ofArray (NDArray.ofScalars ((interleave rows data).map .num) d (some shape))
  let f ← Args.ofArray (Frame.make (entries.map Prod.fst) values none)
  pure (.frame f)

def columns : Builtin := fun args => do
  Args.arity "columns" args 1 1
  let f ← Args.frame "columns" (Args.nth args 0)
  pure (.list (f.columns.map .str))

def column : Builtin := fun args => do
  Args.arity "column" args 2 2
  let f ← Args.frame "column" (Args.nth args 0)
  let name ← Args.string "column" (Args.nth args 1)
  let s ← Args.ofArray (f.column name)
  pure (.series s)

def shape : Builtin := fun args => do
  Args.arity "shape" args 1 1
  let f ← Args.frame "shape" (Args.nth args 0)
  pure (.list [.num f.rows, .ofNat f.columns.length])

def records : Builtin := fun args => do
  Args.arity "records" args 1 1
  let f ← Args.frame "records" (Args.nth args 0)
  pure (.list (f.records.map fun r => .mapping (r.map fun (k, x) => (k, Args.answerScalar x))))

def setIndex : Builtin := fun args => do
  Args.arity "set_index" args 2 2
  let f ← Args.frame "set_index" (Args.nth args 0)
  let labels ← Args.labels "set_index" (Args.nth args 1)
  let g ← Args.ofArray (Frame.make f.columns f.values (some labels))
  pure (.frame g)

def functions : List (String × Builtin) :=
  [("from_columns", fromColumns), ("columns", columns), ("column", column), ("shape", shape),
    ("records", records), ("set_index", setIndex)]

end Tables
end LineRpc
