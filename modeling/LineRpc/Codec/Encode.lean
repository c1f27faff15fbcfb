import LineRpc.Codec.Decode

/-!
# Encode — from native values to wire values

Typed values are written under their markers as far as the worker has them; what can be iterated
becomes a list; everything else becomes its text. What fails while its parts are written is given up
as a whole and becomes its text too. Only where a value is asked for its text with nothing around to
catch a failure does writing fail: a value with neither a text nor a tag, a function whose name has
no text, and whatever holds one of these in a plain list.

- `Codec.encode` : the wire value of a native value
-/

namespace LineRpc
namespace Codec

def arrayJson (a : NDArray) : Json :=
  .obj [("dtype", .str a.dtype.tag), ("shape", .arr (a.shape.map .num)),
    ("data", .str (Base64.encode a.octets))]

def labelJson : Label → Json
  | .str s => .str s
  | .num x => .num x

def tableJson (f : Frame) : Json :=
  .obj [("columns", .arr (f.columns.map .str)), ("data", arrayJson f.values),
    ("index", Json.ofOption (fun labels => .arr (labels.map labelJson)) f.index)]

def encodeBytes (bs : Octets) : Json :=
  .obj [(Marker.bytes, .str (Base64.encode bs))]

def encodeArray (a : NDArray) : Json :=
  .obj [(Marker.array, arrayJson a)]

def encodeTable (f : Frame) : Json :=
  .obj [(Marker.table, tableJson f)]

/-- An element without arrays: an exact integer becomes its text. -/
def scalarJson : Scalar → Json
  | .num x => .num x
  | .int i => .str (toString i)

/-- Elements without arrays. -/
def scalarsJson (xs : List Scalar) : Json :=
  .arr (xs.map scalarJson)

/-- An array without arrays: the items along each axis as lists; an array without axes becomes its
text, as does one of whose parts some cannot be taken. `depth` counts the axes. -/
def nestedJson : (depth : Nat) → NDArray → Except Fault Json
  | 0, a => (Failure.ofOption a.text?).map .str
  | depth + 1, a =>
      match a.items with
      | .error (.raised _) => (Failure.ofOption a.text?).map .str
      | .error .endless => .error .endless
      | .ok items =>
          let itemJson : NDArray.Item → Except Fault Json
            | .scalar x => .ok (scalarJson x)
            | .array b => nestedJson depth b
          (items.mapM itemJson).map .arr

/-- The elements of a plain typed array as an array of one dimension; clamped bytes become
numbers of the kind `f64`. -/
def typedArray (kind : ElementKind) (octets : Octets) : NDArray :=
  match kind with
  | .dtype d => ⟨d, [Float.ofNat (octets.length / d.itemSize)], octets⟩
  | .clamped =>
      { dtype := .f64
        shape := [Float.ofNat octets.length]
        octets := octets.flatMap fun b =>
          Octets.ofNat 8 (Float.ofNat b.toNat).toBits.toNat }

/-- What becomes of a value whose parts could not all be written: its text. -/
def degrade (v : Value) : Except Fault Json → Except Fault Json
  | .error (.raised _) => v.describe.map .str
  | written => written

mutual

def encode (caps : Capabilities) : Value → Except Fault Json
  | .undefined => .ok .null
  | .null => .ok .null
  | .bool b => .ok (.bool b)
  | .num x => .ok (.num x)
  | .str s => .ok (.str s)
  | .bytes _ bs => .ok (encodeBytes bs)
  | .list items => (encodeList caps items).map .arr
  | .mapping entries =>
      degrade (.mapping entries)
        ((encodeEntries caps entries).map fun es => .obj (Mapping.ofEntries es))
  | .bare entries =>
      degrade (.bare entries)
        ((encodeEntries caps entries).map fun es => .obj (Mapping.ofEntries es))
  -- All entries are read before the first of them is written.
  | .guarded entries key failure => degrade (.guarded entries key failure) (.error failure)
  | .map entries =>
      degrade (.map entries)
        ((encodePairs caps entries).map fun es => .obj (Mapping.ofEntries es))
  -- Without its capability a typed value becomes what iterating over it gives, or its text.
  | .typed kind bs =>
      .ok (if caps.arrays then encodeArray (typedArray kind bs)
        else scalarsJson (Value.typedElements kind bs))
  | .ndarray a => if caps.arrays then .ok (encodeArray a) else nestedJson a.rank a
  | .frame f => .ok (if caps.tables then encodeTable f else .str f.text)
  | .series s =>
      .ok (if caps.tables then encodeArray s.values else scalarsJson s.values.elements)
  | .set items => degrade (.set items) ((encodeList caps items).map .arr)
  | .iterable items ending text tag =>
      degrade (.iterable items ending text tag) do
        let js ← encodeList caps items
        match ending with
        | none => .ok (.arr js)
        | some failure => .error failure
  | .sealed failure => .error failure
  | v => v.describe.map .str

def encodeList (caps : Capabilities) : List Value → Except Fault (List Json)
  | [] => .ok []
  | v :: vs => do
      let j ← encode caps v
      let js ← encodeList caps vs
      pure (j :: js)

def encodeEntries (caps : Capabilities) :
    List (String × Value) → Except Fault (List (String × Json))
  | [] => .ok []
  | (k, v) :: es => do
      let j ← encode caps v
      let js ← encodeEntries caps es
      pure ((k, j) :: js)

/-- Entries with any keys: a key becomes its text. -/
def encodePairs (caps : Capabilities) : List (Value × Value) → Except Fault (List (String × Json))
  | [] => .ok []
  | (k, v) :: es => do
      let key ← k.describe
      let j ← encode caps v
      let js ← encodePairs caps es
      pure ((key, j) :: js)

end

end Codec
end LineRpc
