import LineRpc.Schema
import LineRpc.Text.Blank
import LineRpc.Json.Parser

/-!
# Request — what a line asks for

A request is a mapping. A control command asks the worker itself; a call names a module and a
function, with positional arguments and keywords that are still in wire form.

- `Control`          : the control commands
- `Call`             : a call
- `Request.classify` : what a value asks for, or what is wrong with it
- `readLine?`        : the value on a line
-/

namespace LineRpc

inductive Control
  | ping
  | health
  deriving DecidableEq, Repr

def Control.word : Control → String
  | .ping => "ping"
  | .health => "health"

structure Call where
  module : String
  function : String
  args : List Value
  kwargs : List (String × Value)

inductive RequestError
  /-- It is no mapping. -/
  | notObject
  /-- It names no module or no function. -/
  | noTarget
  /-- Its parts have the wrong form. -/
  | malformed (problems : List Problem)
  /-- Its keywords are no mapping. -/
  | badKeywords (kind : String)
  deriving DecidableEq

def RequestError.message : RequestError → String
  | .notObject => "Invalid envelope: expected an object"
  | .noTarget => "missing m or f"
  | .malformed problems => s!"Invalid envelope: {Problem.summary problems}"
  | .badKeywords kind => s!"Invalid envelope: k must be an object (was {kind})"

inductive Request
  | control (c : Control)
  | call (c : Call)
  | invalid (e : RequestError)

namespace Request

/-- The control command in the field `cmd`; any other content of it does not count. -/
def control? (v : Value) : Option Control :=
  match v.field? "cmd" with
  | some (.str "ping") => some .ping
  | some (.str "health") => some .health
  | _ => none

/-- Whether a field says nothing. -/
def isMissing : Option Value → Bool
  | none => true
  | some .undefined => true
  | some .null => true
  | some (.str s) => s.isEmpty
  | _ => false

def problems (v : Value) : List Problem :=
  Schema.string [.key "f"] (v.field? "f") ++ Schema.string [.key "m"] (v.field? "m") ++
    Schema.optional (Schema.listOf [.key "a"] fun _ _ => []) (v.field? "a")

def itemsOf : Option Value → List Value
  | some (.list items) => items
  | _ => []

def textOf : Option Value → String
  | some (.str s) => s
  | _ => ""

/-- The keywords of a call: none if the field says nothing. -/
def keywords : Option Value → Except RequestError (List (String × Value))
  | none => .ok []
  | some .undefined => .ok []
  | some .null => .ok []
  | some (.list _) => .error (.badKeywords "array")
  | some v => if v.isRecord then .ok v.entries else .error (.badKeywords v.basicType)

/-- What a value asks for. A control command counts before anything else; then the target must be
named; then the form of all parts is checked. -/
def classify (v : Value) : Request :=
  if !v.isRecord then .invalid .notObject
  else
    match control? v with
    | some c => .control c
    | none =>
        -- An empty name counts as none, and a name of another type is a matter of form.
        if isMissing (v.field? "m") || isMissing (v.field? "f") then .invalid .noTarget
        else
          match problems v with
          | [] =>
              match keywords (v.field? "k") with
              | .error e => .invalid e
              | .ok kwargs =>
                  .call ⟨textOf (v.field? "m"), textOf (v.field? "f"), itemsOf (v.field? "a"), kwargs⟩
          | ps => .invalid (.malformed ps)

/-- What stops classification because it cannot be read, if classification gets so far: it looks at
the command first, then at the target, the arguments, the keywords and what they hold. -/
def obstacle? (v : Value) : Option Fault :=
  let blocked (name : String) : Option Fault := v.obstacle? [name]
  if !v.isRecord then none
  else (blocked "cmd").or <|
    if (control? v).isSome then none
    else (blocked "m").or <|
      if isMissing (v.field? "m") then none
      else (blocked "f").or <|
        if isMissing (v.field? "f") then none
        else (blocked "a").or <|
          if !(problems v).isEmpty then none
          else (blocked "k").or
            ((v.field? "k").bind fun kwargs => kwargs.obstacle? kwargs.ownKeys)

end Request

/-- The value on a line, if it is a JSON text; blanks at its ends do not count. -/
def readLine? (line : String) : Option Json :=
  Json.parse? (Text.trim line)

end LineRpc
