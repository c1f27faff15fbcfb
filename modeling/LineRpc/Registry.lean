import LineRpc.Callable
import LineRpc.Text.Collation
import LineRpc.Text.Units

/-!
# Registry — callables by module and name

Modules are registered under names, some of them more than once: a later registration adds to an
earlier one of the same name and replaces what has the same name in both.

- `Registry.register` : add functions to a module
- `Registry.resolve`  : look up a function
- `Registry.listing`  : the names of all modules and functions
-/

namespace LineRpc

/-- Named entries, each name once, in the order of their first registration. -/
abbrev Table (α : Type) :=
  List (String × α)

namespace Table

variable {α : Type}

/-- Set the entry of a name, in its old place if it has one. -/
def put : Table α → String → α → Table α
  | [], name, a => [(name, a)]
  | (n, b) :: t, name, a => if n = name then (name, a) :: t else (n, b) :: put t name a

def putAll (t : Table α) (entries : List (String × α)) : Table α :=
  entries.foldl (fun t e => put t e.1 e.2) t

end Table

structure Registry where
  modules : Table (Table Callable)

inductive Resolution
  | noModule
  | noFunction
  | found (f : Callable)

structure Listing where
  module : String
  functions : List String
  deriving DecidableEq, Repr

namespace Registry

def empty : Registry where
  modules := []

def register (r : Registry) (name : String) (functions : List (String × Callable)) : Registry where
  modules :=
    -- Functions that were registered before stay unless they are named again.
    let existing := (r.modules.lookup name).getD []
    Table.put r.modules name (Table.putAll existing functions)

def has (r : Registry) (name : String) : Bool :=
  (r.modules.lookup name).isSome

def resolve (r : Registry) (module function : String) : Resolution :=
  match r.modules.lookup module with
  | none => .noModule
  | some functions =>
      match functions.lookup function with
      | none => .noFunction
      | some f => .found f

/-- The names of all modules and functions: functions by code unit, modules as a reader expects. -/
def listing (r : Registry) : List Listing :=
  (r.modules.map fun (name, functions) =>
    Listing.mk name (Text.sortNames (functions.map Prod.fst))).mergeSort
      fun a b => Collation.le a.module b.module

end Registry
end LineRpc
