import LineRpc.Library.Arguments
import LineRpc.Text.Units

/-!
# General — functions to try a worker with

- `General.functions` : the module `builtins`
-/

namespace LineRpc
namespace General

/-- Give back what came: one argument as it is, any other number of them as a list. -/
def echo : Builtin
  | [v] => .ok v
  | args => .ok (.list args)

/-- The length of a value, if it has one. -/
def lengthOf : Value → Except CallError Float
  | .str s => .ok (Float.ofNat (Text.unitLength s))
  | .list items => .ok (Float.ofNat items.length)
  | .bytes .buffer bs => .ok (Float.ofNat bs.length)
  | .bytes .octets bs => .ok (Float.ofNat bs.length)
  | .ndarray a => if a.rank = 0 then .error .unsized else .ok a.rows
  | .frame f => .ok f.rows
  | .series s => .ok (Float.ofNat s.length)
  | v =>
      if Args.isMapping v then .ok (Float.ofNat v.ownKeys.length) else .error (.noLength v.kind)

def len : Builtin := fun args => do
  Args.arity "len" args 1 1
  let n ← lengthOf (Args.nth args 0)
  pure (.num n)

def type : Builtin := fun args => do
  Args.arity "type" args 1 1
  pure (.str (Args.nth args 0).kind)

/-- Answer null, after a while. -/
def sleep : Builtin := fun args => do
  Args.arity "sleep" args 1 1
  let ms ← Args.number "sleep" (Args.nth args 0)
  if ms < 0 then throw .negativeSleep
  pure .null

def fail : Builtin
  | [] => .error (.requested "failure requested")
  | v :: _ =>
      match v.string with
      | .ok message => .error (.requested message)
      | .error failure => .error (.failed failure)

def functions : List (String × Builtin) :=
  [("echo", echo), ("len", len), ("type", type), ("sleep", sleep), ("fail", fail)]

end General
end LineRpc
