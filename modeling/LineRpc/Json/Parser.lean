import LineRpc.Json.Basic
import LineRpc.Json.Token

/-!
# Parser — reading a JSON text

The units of a text drive a machine that keeps the unfinished lists and mappings on a stack. It
takes one unit at a time, so reading ends with the text, however deep the value is nested.

- `Json.Frame` : an unfinished list or mapping
- `Json.State` : what may come next
- `Json.step?` : take one unit
- `Json.parse?`: the value of a text
-/

namespace LineRpc
namespace Json

/-- An unfinished list (its items so far, last one first), or an unfinished mapping (its entries so
far, and the key whose value is being read). -/
inductive Frame
  | arr (items : List Json)
  | obj (entries : Mapping Json) (key : String)

inductive State
  /-- A value must come. -/
  | value (stack : List Frame)
  /-- A list has just been opened: a value or the end of the list must come. -/
  | item (stack : List Frame)
  /-- A key must come, or, `first` in its mapping, the end of the mapping. -/
  | key (entries : Mapping Json) (first : Bool) (stack : List Frame)
  /-- A key has been read. -/
  | colon (entries : Mapping Json) (key : String) (stack : List Frame)
  /-- A value is complete. -/
  | done (value : Json) (stack : List Frame)

def begin? (stack : List Frame) : Token → Option State
  | .null => some (.done .null stack)
  | .bool b => some (.done (.bool b) stack)
  | .num x => some (.done (.num x) stack)
  | .str s => some (.done (.str s) stack)
  | .leftBracket => some (.item (.arr [] :: stack))
  | .leftBrace => some (.key [] true stack)
  | _ => none

def step? : State → Token → Option State
  | .value stack, t => begin? stack t
  | .item (.arr [] :: stack), .rightBracket => some (.done (.arr []) stack)
  | .item stack, t => begin? stack t
  | .key entries _ stack, .str k => some (.colon entries k stack)
  | .key entries true stack, .rightBrace => some (.done (.obj entries) stack)
  | .key .., _ => none
  | .colon entries k stack, .colon => some (.value (.obj entries k :: stack))
  | .colon .., _ => none
  | .done v (.arr items :: stack), .comma => some (.value (.arr (v :: items) :: stack))
  | .done v (.arr items :: stack), .rightBracket =>
      some (.done (.arr (v :: items).reverse) stack)
  -- After a comma a mapping must go on with a key, a list with a value.
  | .done v (.obj entries k :: stack), .comma =>
      some (.key (Mapping.set entries k v) false stack)
  | .done v (.obj entries k :: stack), .rightBrace =>
      some (.done (.obj (Mapping.set entries k v)) stack)
  | .done .., _ => none

def run? (s : State) (ts : List Token) : Option State :=
  ts.foldlM step? s

def ofTokens? (ts : List Token) : Option Json :=
  match run? (.value []) ts with
  | some (.done v []) => some v
  | _ => none

/-- The value of a text. Of a repeated key the last value counts, in the place of the first. -/
def parse? (s : String) : Option Json :=
  (Token.scan? s.toList).bind ofTokens?

end Json
end LineRpc
