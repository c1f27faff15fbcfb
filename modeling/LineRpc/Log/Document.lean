import LineRpc.Json.Printer
import LineRpc.Text.Units
import LineRpc.Value.Basic

/-!
# Document — native values as JSON texts

A message can quote any native value as a JSON text. Values that JSON knows are written as they are,
and what shows entries is written as a mapping. A value with a large integer in it is written in
another form, with sorted keys and down to a limited depth. A value with a key that cannot be read
is not written at all.

- `Document`          : a value on its way to a JSON text
- `Document.ofValue?` : the document of a value that has one
- `Document.text?`    : its text, if JSON can say it
- `Document.stable?`  : its text with sorted keys and large integers
- `Document.render`   : a text for every document
-/

namespace LineRpc

inductive Document
  /-- A single value, in JSON. -/
  | atom (text : String)
  /-- An integer of any size. -/
  | integer (i : Int)
  | items (ds : List Document)
  | entries (es : List (String × Document))
  /-- The elements of a typed array. -/
  | elements (xs : List Scalar)
  /-- Something that cannot be read. -/
  | unreadable

namespace Document

/-! ## From values -/

def str (s : String) : Document :=
  .atom (Json.quote s)

def num (x : Float) : Document :=
  .atom (Json.numberText x)

def null : Document :=
  .atom "null"

def ofArray (a : NDArray) : Document :=
  .entries [("dtype", str a.dtype.tag), ("shape", .items (a.shape.map num)),
    ("data", .elements (a.dtype.loadAll a.octets))]

def ofLabel : Label → Document
  | .str s => str s
  | .num x => num x

def ofIndex : Option (List Label) → Document
  | none => null
  | some labels => .items (labels.map ofLabel)

def ofBuffer (bs : Octets) : Document :=
  .entries [("type", str "Buffer"), ("data", .items (bs.map fun b => num (Float.ofNat b.toNat)))]

mutual

/-- The document of a value; nothing, functions and symbols have none. -/
def ofValue? : Value → Option Document
  | .undefined => none
  | .function .. => none
  | .symbol _ => none
  | .null => some null
  | .bool b => some (.atom (if b then "true" else "false"))
  | .num x => some (num x)
  | .str s => some (str s)
  | .bigint i => some (.integer i)
  | .bytes .buffer bs => some (ofBuffer bs)
  | .bytes .octets bs => some (.elements (Dtype.u8.loadAll bs))
  | .typed kind bs => some (.elements (Value.typedElements kind bs))
  | .ndarray a => some (ofArray a)
  | .series s =>
      some (.entries [("values", ofArray s.values), ("name", s.name.elim null str),
        ("index", ofIndex s.index)])
  | .frame f =>
      some (.entries [("columns", .items (f.columns.map str)), ("values", ofArray f.values),
        ("index", ofIndex f.index)])
  | .list vs => some (.items (ofItems vs))
  | .mapping es => some (.entries (ofEntries es))
  | .bare es => some (.entries (ofEntries es))
  | .guarded .. => some .unreadable
  | .sealed _ => some .unreadable
  | .error cls _ none =>
      some (.entries (if cls = .codec || cls = .unsupported || cls = .config then
        [("name", str cls.name)] else []))
  | .error _ _ (some name) => some (ofName name)
  | _ => some (.entries [])

/-- The documents of the items of a list; an item without one is null. -/
def ofItems : List Value → List Document
  | [] => []
  | v :: vs => (ofValue? v).getD null :: ofItems vs

/-- The documents of the entries of a mapping; a value without one is left out. -/
def ofEntries : List (String × Value) → List (String × Document)
  | [] => []
  | (k, v) :: es =>
      match ofValue? v with
      | some d => (k, d) :: ofEntries es
      | none => ofEntries es

def ofName : Except Fault Value → Document
  | .ok name => .entries ((ofValue? name).toList.map fun d => ("name", d))
  | .error _ => .unreadable

end

/-! ## The plain form -/

/-- The text of an element, unless it is a large integer. -/
def elementText? : Scalar → Option String
  | .num x => some (Json.numberText x)
  | .int _ => none

def listText (items : List String) : String :=
  "[" ++ ",".intercalate items ++ "]"

def mappingText (entries : List (String × String)) : String :=
  "\x7b" ++ ",".intercalate (entries.map fun (k, t) => Json.quote k ++ ":" ++ t) ++ "\x7d"

def numbered (texts : List String) : List (String × String) :=
  texts.zipIdx.map fun (t, i) => (toString i, t)

mutual

def text? : Document → Option String
  | .atom t => some t
  | .integer _ => none
  | .items ds => (itemTexts? ds).map listText
  | .entries es => (entryTexts? es).map mappingText
  | .elements xs => (xs.mapM elementText?).map fun ts => mappingText (numbered ts)
  | .unreadable => none

def itemTexts? : List Document → Option (List String)
  | [] => some []
  | d :: ds => do
      let t ← text? d
      let ts ← itemTexts? ds
      pure (t :: ts)

def entryTexts? : List (String × Document) → Option (List (String × String))
  | [] => some []
  | (k, d) :: es => do
      let t ← text? d
      let ts ← entryTexts? es
      pure ((k, t) :: ts)

end

/-! ## The stable form -/

/-- How deep the stable form goes. -/
def maxDepth : Nat :=
  5

/-- How many items of a list or a mapping the stable form writes. -/
def maxBreadth : Nat :=
  100

/-- A word for items that are left out. -/
def omitted (n : Nat) : String :=
  s!"{n} item" ++ (if n = 1 then "" else "s") ++ " not stringified"

/-- The items of a list that are written, and a word for the others if they are two or more. -/
def shorten (items : List String) : List String :=
  items.take maxBreadth ++
    if maxBreadth + 1 < items.length then
      [Json.quote ("... " ++ omitted (items.length - maxBreadth - 1))]
    else []

/-- The entries of a mapping that are written, and a word for the others. -/
def shortenEntries (entries : List (String × String)) : List (String × String) :=
  entries.take maxBreadth ++
    if maxBreadth < entries.length then
      [("...", Json.quote (omitted (entries.length - maxBreadth)))]
    else []

def sorted (entries : List (String × String)) : List (String × String) :=
  entries.mergeSort fun a b => Text.unitLe a.1 b.1

mutual

/-- The text of a document in the stable form, with some levels left to go down. -/
def stable? (levels : Nat) : Document → Option String
  | .atom t => some t
  | .integer i => some (toString i)
  | .items ds =>
      if ds.isEmpty then some "[]"
      else if levels = 0 then some (Json.quote "[Array]")
      else (stableItems? (levels - 1) ds).map fun ts => listText (shorten ts)
  | .entries es =>
      if es.isEmpty then some "\x7b\x7d"
      else if levels = 0 then some (Json.quote "[Object]")
      else (stableEntries? (levels - 1) es).map fun ts => mappingText (shortenEntries (sorted ts))
  | .elements xs =>
      if xs.isEmpty then some "\x7b\x7d"
      else if levels = 0 then some (Json.quote "[Object]")
      else some (mappingText (shortenEntries (numbered (xs.map Scalar.text))))
  | .unreadable => if levels = 0 then some (Json.quote "[Object]") else none

def stableItems? (levels : Nat) : List Document → Option (List String)
  | [] => some []
  | d :: ds => do
      let t ← stable? levels d
      let ts ← stableItems? levels ds
      pure (t :: ts)

def stableEntries? (levels : Nat) : List (String × Document) → Option (List (String × String))
  | [] => some []
  | (k, d) :: es => do
      let t ← stable? levels d
      let ts ← stableEntries? levels es
      pure ((k, t) :: ts)

end

/-! ## Any document -/

/-- The text that stands for a value that cannot be written. -/
def unwritable : String :=
  "[unable to serialize, circular reference is too complex to analyze]"

/-- A text for every document: the plain form, or else the stable form, or else one for what cannot
be written. -/
def render (d : Document) : String :=
  ((text? d).or (stable? maxDepth d)).getD (Json.quote unwritable)

/-- Whether a document cannot be written in any form. -/
def isUnwritable (d : Document) : Bool :=
  ((text? d).or (stable? maxDepth d)).isNone

end Document
end LineRpc
