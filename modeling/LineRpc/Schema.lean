import LineRpc.Json.Printer
import LineRpc.Value.Basic

/-!
# Schema — checking the form of untrusted values

Requests, marker payloads and settings files arrive as any value at all. A check gives the list of
problems, each with the path to the offending part, what is expected there and what stands there.

- `Problem`        : one thing that is wrong
- `Problem.summary`: all problems in words, one a line
- `Schema.*`       : checks of single fields
-/

namespace LineRpc

/-- One step of a path: into a mapping, or into a list. -/
inductive Step
  | key (name : String)
  | item (index : Nat)
  deriving DecidableEq, Repr

structure Problem where
  path : List Step
  expected : String
  actual : String
  deriving DecidableEq, Repr

namespace Problem

/-- Letters, digits, the underscore and the dollar sign, but no digit first. -/
def isIdentifier (s : String) : Bool :=
  let plain (c : Char) : Bool := c.isAlpha || c == '_' || c == '$'
  match s.toList with
  | [] => false
  | c :: cs => plain c && cs.all fun d => plain d || d.isDigit

/-- A step in words; an identifier that is not first has a point in front. -/
def stepText (first : Bool) : Step → String
  | .item i => s!"[{i}]"
  | .key k =>
      if isIdentifier k then (if first then k else "." ++ k) else "[" ++ Json.quote k ++ "]"

def pathText : List Step → String
  | [] => ""
  | s :: rest => stepText true s ++ String.join (rest.map (stepText false))

/-- A problem in words; what stands there is left out if there is no word for it. -/
def text (p : Problem) : String :=
  let lead := if p.path.isEmpty then "" else pathText p.path ++ " "
  let tail := if p.actual.isEmpty then "" else s!" (was {p.actual})"
  lead ++ s!"must be {p.expected}" ++ tail

/-- Problems in words, one a line. -/
def summary (ps : List Problem) : String :=
  "\n".intercalate (ps.map text)

end Problem

namespace Schema

/-! ## What stands where something else was expected -/

/-- The domain of a value, with an article where it takes one. -/
def broadDomain : Value → String
  | .undefined => "undefined"
  | .null => "null"
  | .bool _ => "boolean"
  | .num _ => "a number"
  | .str _ => "a string"
  | .bigint _ => "a bigint"
  | .symbol _ => "a symbol"
  | _ => "an object"

/-- Whether a value is of the number type without being a number. -/
def isNaN : Value → Bool
  | .num x => x.isNaN
  | _ => false

/-- The domain of a value; what is of the number type without being a number has its own word. -/
def domain (v : Value) : String :=
  if isNaN v then "NaN" else broadDomain v

/-- The domain of a field; a field that is not there is missing. -/
def domain? : Option Value → String
  | none => "missing"
  | some v => domain v

/-- The class of a field if it has one, or else its domain without an article. -/
def class? : Option Value → String
  | none => "missing"
  | some .null => "null"
  | some (.function ..) => "object"
  | some v => v.builtinClass?.getD v.basicType

/-! ## Objects and fields -/

/-- Whether a value is an object, a list included. -/
def isObject : Value → Bool
  | .null => false
  | v => v.basicType = "object" || v.basicType = "function"

/-- The field of an object. A list has its items under their numbers. -/
def field? : Value → String → Option Value
  | .list items, key => (Mapping.index? key).bind fun i => items[i]?
  | v, key => v.field? key

/-- Whether an object has a field, readable or not. -/
def has (v : Value) (key : String) : Bool :=
  (field? v key).isSome || (v.unreadable?.map Prod.fst) == some key

/-- A value must be an object before its fields are looked at. -/
def object (path : List Step) (v : Value) (fields : List Problem) : List Problem :=
  if isObject v then fields else [⟨path, "an object", domain v⟩]

def string (path : List Step) : Option Value → List Problem
  | some (.str _) => []
  | v => [⟨path, "a string", domain? v⟩]

/-- A field may be missing. -/
def optional (check : Option Value → List Problem) : Option Value → List Problem
  | none => []
  | some v => check (some v)

def listOf (path : List Step) (check : List Step → Value → List Problem) :
    Option Value → List Problem
  | some (.list items) => items.zipIdx.flatMap fun (v, i) => check (path ++ [.item i]) v
  | v => [⟨path, "an array", class? v⟩]

def number (path : List Step) (v : Value) : List Problem :=
  match v with
  | .num x => if x.isNaN then [⟨path, "a number", domain v⟩] else []
  | _ => [⟨path, "a number", domain v⟩]

def label (path : List Step) (v : Value) : List Problem :=
  match v with
  | .str _ => []
  | .num _ => number path v
  | _ => [⟨path, "a number or a string", broadDomain v⟩]

def present (path : List Step) (there : Bool) : List Problem :=
  if there then [] else [⟨path, "present", "missing"⟩]

def labelsOrNull (path : List Step) : Option Value → List Problem
  | some .null => []
  | some (.list items) => listOf path label (some (.list items))
  | some v =>
      if isObject v then [⟨path, "an array", class? (some v)⟩]
      else [⟨path, "an object or null", broadDomain v⟩]
  | none => [⟨path, "an object or null", "missing"⟩]

end Schema
end LineRpc
