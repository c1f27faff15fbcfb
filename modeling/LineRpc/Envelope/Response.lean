import LineRpc.Codec.Capabilities
import LineRpc.Json.Printer
import LineRpc.Text.Blank

/-!
# Response — what the worker writes

The first line announces the capabilities. Every other line answers one request: with a value, or
with an error in words, which never has a line break in it.

- `Response`       : an answer
- `Response.json`  : its mapping
- `Response.line`  : its line
- `Ready.json`     : the announcement
-/

namespace LineRpc

/-- The line of a value, with the line end after it. -/
def writeLine (j : Json) : String :=
  j.render ++ "\n"

/-- An answer: a value, or an error in words. -/
inductive Response
  | ok (value : Json)
  | error (message : String)

namespace Response

/-- The answer with an error in words, folded into one line. -/
def failure (message : String) : Response :=
  .error (Text.fold message)

/-- The mapping of an answer: it has one key only. -/
def json : Response → Json
  | .ok value => .obj [("ok", value)]
  | .error message => .obj [("error", .str message)]

def line (r : Response) : String :=
  writeLine r.json

def isError : Response → Bool
  | .ok _ => false
  | .error _ => true

end Response

namespace Capabilities

def ready (c : Capabilities) : Json :=
  .obj [("ready", .bool true), ("arrays", .bool c.arrays), ("tables", .bool c.tables)]

def readyLine (c : Capabilities) : String :=
  writeLine c.ready

def json (c : Capabilities) : Json :=
  .obj [("arrays", .bool c.arrays), ("tables", .bool c.tables)]

end Capabilities
end LineRpc
