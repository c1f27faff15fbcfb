import LineRpc.Module
import LineRpc.Notation.Reader

/-!
# Module — module files written as JSON

A module file is a JSON mapping with named members, a default export and, if it is not to load at
all, a failure. A member that is a mapping with the key `fn` is a function of one of a few kinds;
any other is the JSON value itself.

- `Notation.method`    : the function that a notation stands for
- `Notation.source`    : a module file
-/

namespace LineRpc
namespace Notation

/-- The field of what a function is called on. -/
def fieldOf (self : Value) (key : String) : Value :=
  (self.field? key).getD .undefined

/-- The function of a kind, with the value and the key that some kinds need. -/
def methodOf (kind : String) (value : Value) (key : String) : Method := fun self args =>
  match kind with
  | "argc" => .returned (.ofNat args.length)
  | "args" => .returned (.list args)
  | "last" => .returned (args.getLast?.getD .undefined)
  | "const" => .returned value
  | "throw" => .threw value
  | "later" => .returned (args.head?.getD .undefined)
  | "reject" => .threw value
  | "this" => .returned (fieldOf self key)
  | _ => .returned .undefined

def textField (j : Json) (key : String) : String :=
  match j.get? key with
  | some (.str s) => s
  | _ => ""

def method (j : Json) : Except ReadError Method := do
  let value ← match j.get? "value" with
    | some v => read v
    | none => .ok .undefined
  pure (methodOf (textField j "fn") value (textField j "key"))

/-- A member: a function, or the JSON value itself. -/
def member (j : Json) : Except ReadError Member :=
  match j.get? "fn" with
  | some _ => (method j).map .method
  | none => .ok (.value (.ofJson j))

def namedItems : Option Json → List (String × Json)
  | some (.arr items) => items.filterMap fun
      | .arr [.str name, j] => some (name, j)
      | _ => none
  | _ => []

def members (j : Option Json) : Except ReadError (List (String × Member)) :=
  (namedItems j).mapM fun (name, j) => (member j).map (name, ·)

def defaultExport (j : Json) : Except ReadError DefaultExport :=
  match j.get? "members" with
  | some ms => (members (some ms)).map .object
  | none => (member j).map .single

def source (j : Json) : Except ReadError ModuleSource := do
  let named ← members (j.get? "named")
  let fallback ← (j.get? "default").mapM defaultExport
  let failure := match j.get? "throws" with
    | some (.str message) => some message
    | _ => none
  pure ⟨⟨named, fallback⟩, failure⟩

/-- What a function that was looked up in a registry is called on: what the look-up found. -/
def lookedUp : Value :=
  .mapping [("kind", .str "found"), ("fn", .namedFunction "")]

/-- Functions by name, called on what a look-up finds. -/
def callables (j : Option Json) : Except ReadError (List (String × Callable)) :=
  (namedItems j).mapM fun (name, j) => (method j).map fun f => (name, f lookedUp)

end Notation
end LineRpc
