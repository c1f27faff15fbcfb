import LineRpc.Log.Document
import LineRpc.Value.Number

/-!
# Message — messages with places for values

A message is a template in which a percent sign and a letter make a place for a value. Each place
takes one value, also if it has no use for it and stays as it is; two percent signs make one and
take none.

- `Directive`        : what a place does with its value
- `Template.parse`   : the parts of a template
- `Template.fill`    : a template with values in its places
- `Message.format`   : a message with the values after it
-/

namespace LineRpc

inductive Directive
  | number
  | floor
  | document
  | text
  /-- A place that stays as it is. -/
  | keep
  deriving DecidableEq, Repr

namespace Directive

def ofChar (c : Char) : Directive :=
  if c = 'd' ∨ c = 'f' then .number
  else if c = 'i' then .floor
  else if c = 'j' ∨ c = 'o' ∨ c = 'O' then .document
  else if c = 's' then .text
  else .keep

/-- A value quoted as a document: texts are in single quotes and functions have their names. -/
def quote : Value → Except Fault String
  | .str s => .ok ("'" ++ s ++ "'")
  | .function _ name _ => do
      let name ← name
      if name.isTruthy then name.toText else .ok "<anonymous>"
  | v => .ok ((Document.ofValue? v).elim "undefined" Document.render)

/-- What a place becomes, or nothing if it stays as it is. -/
def write (d : Directive) (v : Value) : Except Fault (Option String) :=
  match d, v with
  | .keep, _ => .ok none
  | .text, v => v.string.map some
  | _, .undefined => .ok none
  | .document, v => (quote v).map some
  | _, .null => .ok none
  | .number, v => v.toNumber.map fun x => some (Number.render x)
  | .floor, v => v.toNumber.map fun x => some (Number.render x.floor)

end Directive

namespace Template

inductive Part
  | char (c : Char)
  /-- Two percent signs. -/
  | percent
  /-- A place, with the letter after its percent sign. -/
  | place (letter : Char)
  deriving DecidableEq, Repr

/-- The parts of a template. A percent sign at the end is a character like any other. -/
def parse : List Char → List Part
  | [] => []
  | '%' :: c :: cs => (if c = '%' then .percent else .place c) :: parse cs
  | c :: cs => .char c :: parse cs

def placeChars (letter : Char) : List Char :=
  ['%', letter]

def fillChars : List Part → List Value → Except Fault (List Char)
  | [], _ => .ok []
  | .char c :: parts, vs => (fillChars parts vs).map (c :: ·)
  | .percent :: parts, vs => (fillChars parts vs).map ('%' :: ·)
  | .place letter :: parts, [] => (fillChars parts []).map (placeChars letter ++ ·)
  | .place letter :: parts, v :: vs => do
      let written ← (Directive.ofChar letter).write v
      let rest ← fillChars parts vs
      pure (written.elim (placeChars letter) String.toList ++ rest)

/-- A template with values in its places. Without any values it is no template. -/
def fill (template : String) (vs : List Value) : Except Fault String :=
  if vs.isEmpty then .ok template
  else (fillChars (parse template.toList) vs).map String.ofList

end Template

namespace Message

/-- Whether a value has parts of its own. -/
def isObject : Value → Bool
  | .null => false
  | v => v.basicType = "object"

/-- The JSON text of a value; it is empty for what has none. -/
def documentText (v : Value) : String :=
  (Document.ofValue? v).elim "" Document.render

/-- A message that is an object, with the values after it: the first of them is passed over, and a
space follows each. -/
def join (message : Value) (vs : List Value) : String :=
  " ".intercalate (documentText message :: ((vs.drop 1).map documentText ++ [""]))

/-- A message with the values after it. Only texts and objects take them. -/
def format (message : Value) (vs : List Value) : Except Fault Value :=
  match message with
  | .str template => (Template.fill template vs).map .str
  | v => .ok (if isObject v && !vs.isEmpty then .str (join v vs) else v)

end Message
end LineRpc
