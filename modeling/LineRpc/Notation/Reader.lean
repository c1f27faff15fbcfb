import LineRpc.Value.Basic

/-!
# Reader — native values written as JSON

Module files hold native values, and JSON has no form of its own for most of them. In this notation
null, truth values, numbers, texts and lists stand for themselves; everything else is a mapping
whose key `$` names its kind and whose other keys hold its parts, in the same notation.

- `ReadError`      : why a notation stands for nothing
- `Notation.build` : the value of a kind, from its parts
- `Notation.read`  : the value that a notation stands for
-/

namespace LineRpc

/-- Why a notation stands for nothing: its parts make no array or table, or one that is needed is
not there. -/
inductive ReadError
  | array (e : ArrayError)
  | missing (property : String)
  deriving DecidableEq

/-- Whether the kind of a value is at fault, rather than its range. -/
def ReadError.isKind : ReadError → Bool
  | .array e => e.isKind
  | .missing _ => true

def ReadError.message : ReadError → String
  | .array e => e.message
  | .missing property => s!"Cannot read properties of undefined (reading '{property}')"

namespace Notation

/-! ## Parts -/

abbrev Parts :=
  List (String × Value)

/-- A part by name; a part that is not there is nothing. -/
def part (parts : Parts) (name : String) : Value :=
  (parts.lookup name).getD .undefined

def text? : Value → Option String
  | .str s => some s
  | _ => none

/-- The text of a part, or else the empty text. -/
def text (v : Value) : String :=
  (text? v).getD ""

def items : Value → List Value
  | .list vs => vs
  | _ => []

def number : Value → Float
  | .num x => x
  | _ => 0

/-- The octets of a part, in hexadecimal digits. -/
def octets (v : Value) : Octets :=
  (Octets.ofHex? (text v).toList).getD []

/-- The pairs of a part, each a list of two. -/
def pairs (v : Value) : List (Value × Value) :=
  (items v).filterMap fun
    | .list [k, v] => some (k, v)
    | _ => none

/-- The entries of a mapping, in property order. -/
def entries (v : Value) : List (String × Value) :=
  Mapping.ofEntries ((pairs v).map fun (k, v) => (text k, v))

def scalar : Value → Scalar
  | .bigint i => .int i
  | .bool b => .num (if b then 1 else 0)
  | v => .num (number v)

def scalars (v : Value) : List Scalar :=
  (items v).map scalar

mutual

def nested : Value → Nested
  | .list vs => .node (nestedList vs)
  | v => .leaf (scalar v)

def nestedList : List Value → List Nested
  | [] => []
  | v :: vs => nested v :: nestedList vs

end

def shape (v : Value) : List Float :=
  (items v).map number

def label : Value → Label
  | .str s => .str s
  | v => .num (number v)

/-- Row labels, or none. -/
def labels? : Value → Option (List Label)
  | .list vs => some (vs.map label)
  | _ => none

/-- An array; what is none has no elements. -/
def array : Value → NDArray
  | .ndarray a => a
  | _ => ⟨.f64, [0], []⟩

/-- The integer of decimal digits, with a sign in front or not. -/
def integer (s : String) : Int :=
  let digits (cs : List Char) : Nat :=
    cs.foldl (fun n c => n * 10 + (c.toNat - '0'.toNat)) 0
  match s.toList with
  | '-' :: cs => -(digits cs : Int)
  | cs => digits cs

/-- A number that JSON cannot write, by its word. -/
def specialNumber : String → Float
  | "NaN" => Number.nan
  | "Infinity" => Number.infinity
  | "-Infinity" => -Number.infinity
  | _ => -0.0

/-- The class of an error, by its name. -/
def errorClass (name : String) : ErrorClass :=
  ([.type, .range, .syntaxError, .eval, .codec, .unsupported, .config].find? fun c : ErrorClass =>
    c.name = name).getD .error

/-! ## Keys of maps and members of sets -/

/-- Whether two values are the same key: equal numbers, texts and the like; nothing else is the
same as anything. No number is the same key as itself, and both zeros are one. -/
def sameKey : Value → Value → Bool
  | .undefined, .undefined => true
  | .null, .null => true
  | .bool a, .bool b => a == b
  | .num x, .num y => x == y || (x.isNaN && y.isNaN)
  | .str a, .str b => a == b
  | .bigint a, .bigint b => a == b
  | _, _ => false

/-- A key as it is kept: there is one zero only. -/
def keyOf : Value → Value
  | .num x => if x == 0 then .num 0 else .num x
  | v => v

/-- Set a key of a map, in its old place if it has one. -/
def putPair : List (Value × Value) → Value → Value → List (Value × Value)
  | [], k, v => [(keyOf k, v)]
  | (k', v') :: rest, k, v =>
      if sameKey k' k then (k', v) :: rest else (k', v') :: putPair rest k v

def mapEntries (ps : List (Value × Value)) : List (Value × Value) :=
  ps.foldl (fun m p => putPair m p.1 p.2) []

def setItems (vs : List Value) : List Value :=
  (mapEntries (vs.map fun v => (v, .null))).map Prod.fst

/-! ## Typed arrays -/

/-- The nearest octet of a number: what lies outside is clamped, a half goes to the even one. -/
def clamp (x : Float) : UInt8 :=
  if x.isNaN || x ≤ 0 then 0
  else if x ≥ 255 then 255
  else
    let low := Number.toNat x.floor
    let rest := x - x.floor
    let n :=
      if rest < 0.5 then low
      else if rest > 0.5 then low + 1
      else if low % 2 = 0 then low
      else low + 1
    UInt8.ofNat n

/-- A plain typed array; one of unsigned octets is an array of bytes. -/
def typed (kind : String) (xs : List Scalar) : Except ReadError Value :=
  if kind = "clamped" then .ok (.typed .clamped (xs.map fun x => clamp x.toNumber))
  else
    let d := Dtype.ofTag kind
    ((d.storeAll xs).map fun bs =>
      if d = .u8 then Value.bytes .octets bs else .typed (.dtype d) bs).mapError .array

def ndarray (parts : Parts) : Except ReadError Value :=
  match part parts "values" with
  | .undefined => .error (.missing "length")
  | values =>
      let d := Dtype.ofTag (text (part parts "dtype"))
      let s := shape (part parts "shape")
      ((NDArray.ofScalars (scalars values) d (some s)).map Value.ndarray).mapError .array

/-! ## Things that fail -/

/-- Something that only raises an error with a message. -/
def raising {α : Type} (message : String) : Except Fault α :=
  .error (.raised (.ofError .error message))

/-- The text that an object shows, if it shows one. -/
def shownText (v : Value) : Except Fault String :=
  (text? v).elim (raising "no string form") .ok

def objectTag : Except Fault String :=
  .ok "[object Object]"

/-! ## All kinds -/

/-- The value of a kind, from its parts. -/
def build (kind : String) (parts : Parts) : Except ReadError Value :=
  match kind with
  | "undefined" => .ok .undefined
  | "num" => .ok (.num (specialNumber (text (part parts "v"))))
  | "bigint" => .ok (.bigint (integer (text (part parts "v"))))
  | "symbol" => .ok (.symbol (text (part parts "v")))
  | "function" => .ok (.namedFunction (text (part parts "name")))
  | "bytes" => .ok (.bytes .buffer (octets (part parts "hex")))
  | "u8array" => .ok (.bytes .octets (octets (part parts "hex")))
  | "arraybuffer" => .ok (.bytes .memory (octets (part parts "hex")))
  | "dataview" =>
      let offset := Number.toNat (number (part parts "offset"))
      let length := Number.toNat (number (part parts "length"))
      .ok (.bytes .window (((octets (part parts "hex")).drop offset).take length))
  | "typed" => typed (text (part parts "kind")) (scalars (part parts "values"))
  | "ndarray" => ndarray parts
  | "series" =>
      ((Series.make (array (part parts "values")) (text? (part parts "name"))
        (labels? (part parts "index"))).map Value.series).mapError .array
  | "frame" =>
      ((Frame.make ((items (part parts "columns")).map text) (array (part parts "values"))
        (labels? (part parts "index"))).map Value.frame).mapError .array
  | "obj" => .ok (.mapping (entries (part parts "entries")))
  | "nullobj" => .ok (.bare (entries (part parts "entries")))
  | "guarded" =>
      let key := text (part parts "key")
      .ok (.guarded (entries (part parts "entries")) key
        (.raised (.ofError .error s!"cannot read {key}")))
  | "map" => .ok (.map (mapEntries (pairs (part parts "entries"))))
  | "set" => .ok (.set (setItems (items (part parts "items"))))
  | "iter" =>
      let ending : Option Fault := match part parts "throws" with
        | .bool true => some (.raised (.ofError .error "cannot iterate"))
        | _ => none
      .ok (.iterable (items (part parts "items")) ending (shownText (part parts "text")) objectTag)
  | "opaque" => .ok (.foreign (shownText (part parts "text")) objectTag)
  | "error" =>
      .ok (.error (errorClass (text (part parts "class"))) (.ok (.str (text (part parts "message"))))
        ((parts.lookup "name").map .ok))
  | _ => .ok (.mapping parts)

mutual

def read : Json → Except ReadError Value
  | .null => .ok .null
  | .bool b => .ok (.bool b)
  | .num x => .ok (.num x)
  | .str s => .ok (.str s)
  | .arr js => (readList js).map .list
  | .obj es => do
      let parts ← readParts es
      build (text (part parts "$")) parts

def readList : List Json → Except ReadError (List Value)
  | [] => .ok []
  | j :: js => do
      let v ← read j
      let vs ← readList js
      pure (v :: vs)

def readParts : List (String × Json) → Except ReadError Parts
  | [] => .ok []
  | (k, j) :: es => do
      let v ← read j
      let vs ← readParts es
      pure ((k, v) :: vs)

end

end Notation
end LineRpc
