import LineRpc.Json.Basic
import LineRpc.Value.Basic

/-!
# Writer — native values as JSON notation

The other direction of the notation for native values. Arrays are written by their octets.

- `Notation.write` : the notation of a value
-/

namespace LineRpc
namespace Notation

def tagged (kind : String) (parts : List (String × Json)) : Json :=
  .obj (("$", .str kind) :: parts)

def hexJson (bs : Octets) : Json :=
  .str bs.toHex

/-- A number; those that JSON cannot write have words. -/
def numberJson (x : Float) : Json :=
  if x.isFinite && !Number.isNegativeZero x then .num x
  else tagged "num" [("v", .str (if x.isFinite then "-0" else Number.render x))]

def scalarNotation : Scalar → Json
  | .num x => numberJson x
  | .int i => tagged "bigint" [("v", .str (toString i))]

def arrayNotation (a : NDArray) : Json :=
  tagged "ndarray" [("dtype", .str a.dtype.tag), ("shape", .arr (a.shape.map numberJson)),
    ("hex", hexJson a.octets)]

def labelNotation : Label → Json
  | .str s => .str s
  | .num x => numberJson x

def indexNotation : Option (List Label) → Json :=
  Json.ofOption fun labels => .arr (labels.map labelNotation)

def seriesNotation (s : Series) : Json :=
  tagged "series" [("values", arrayNotation s.values), ("name", Json.ofOption .str s.name),
    ("index", indexNotation s.index)]

def frameNotation (f : Frame) : Json :=
  tagged "frame" [("columns", .arr (f.columns.map .str)), ("values", arrayNotation f.values),
    ("index", indexNotation f.index)]

def kindWord : ElementKind → String
  | .dtype d => d.tag
  | .clamped => "clamped"

/-- The text that a value shows, if it shows one. -/
def shownJson (text : Except Fault String) : Json :=
  Json.ofOption .str text.toOption

mutual

def write : Value → Json
  | .undefined => tagged "undefined" []
  | .null => .null
  | .bool b => .bool b
  | .num x => numberJson x
  | .str s => .str s
  | .bigint i => tagged "bigint" [("v", .str (toString i))]
  | .symbol d => tagged "symbol" [("v", .str d)]
  | .function _ name _ => tagged "function" [("name", writeRead name)]
  | .bytes .memory bs => tagged "arraybuffer" [("hex", hexJson bs)]
  | .bytes .window bs =>
      tagged "dataview" [("hex", hexJson bs), ("offset", .num 0), ("length", .ofNat bs.length)]
  | .bytes _ bs => tagged "bytes" [("hex", hexJson bs)]
  | .typed kind bs =>
      tagged "typed" [("kind", .str (kindWord kind)),
        ("values", .arr ((Value.typedElements kind bs).map scalarNotation))]
  | .ndarray a => arrayNotation a
  | .series s => seriesNotation s
  | .frame f => frameNotation f
  | .list vs => .arr (writeList vs)
  | .mapping es => tagged "obj" [("entries", .arr (writeEntries es))]
  | .bare es => tagged "nullobj" [("entries", .arr (writeEntries es))]
  | .guarded es key _ =>
      tagged "guarded" [("entries", .arr (writeEntries es)), ("key", .str key)]
  | .map ps => tagged "map" [("entries", .arr (writePairs ps))]
  | .set vs => tagged "set" [("items", .arr (writeList vs))]
  | .iterable vs ending text _ =>
      tagged "iter" [("items", .arr (writeList vs)), ("throws", .bool ending.isSome),
        ("text", shownJson text)]
  | .foreign text _ => tagged "opaque" [("text", shownJson text)]
  | .sealed _ => tagged "opaque" [("text", .null)]
  | .error cls message none =>
      tagged "error" [("class", .str cls.name), ("message", writeRead message)]
  | .error cls message (some name) =>
      tagged "error" [("class", .str cls.name), ("message", writeRead message),
        ("name", writeRead name)]

def writeList : List Value → List Json
  | [] => []
  | v :: vs => write v :: writeList vs

/-- The notations of entries, each a list of two. -/
def writeEntries : List (String × Value) → List Json
  | [] => []
  | (k, v) :: es => .arr [.str k, write v] :: writeEntries es

/-- The notations of pairs, each a list of two. -/
def writePairs : List (Value × Value) → List Json
  | [] => []
  | (k, v) :: ps => .arr [write k, write v] :: writePairs ps

/-- The notation of something that is read first; what cannot be read is nothing. -/
def writeRead : Except Fault Value → Json
  | .ok v => write v
  | .error _ => tagged "undefined" []

end

end Notation
end LineRpc
