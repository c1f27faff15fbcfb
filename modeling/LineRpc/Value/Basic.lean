import LineRpc.Failure
import LineRpc.Frame
import LineRpc.Json.Basic
import LineRpc.NDArray.Nested

/-!
# Value — native values

Callables take and return native values: the JSON values, the typed values of the codec, and values
that have no JSON form of their own. Requests are native values too before they are checked.

What a value is asked for may fail: a function that makes a text, a name or a message that is read,
an item that comes next. A value holds what comes of asking it, so asking twice gives the same.

- `ErrorClass`  : the classes of raised errors
- `ByteView`    : the ways to hold raw bytes
- `Value`       : all native values
- `Fault`       : how a question to a value fails
- `Value.kind`  : the name of a value's kind in messages
-/

namespace LineRpc

inductive ErrorClass
  | error
  | type
  | range
  | syntaxError
  | eval
  | codec
  | unsupported
  | config
  deriving DecidableEq, Repr

def ErrorClass.name : ErrorClass → String
  | .error => "Error"
  | .type => "TypeError"
  | .range => "RangeError"
  | .syntaxError => "SyntaxError"
  | .eval => "EvalError"
  | .codec => "CodecError"
  | .unsupported => "UnsupportedTypeError"
  | .config => "ConfigError"

/-- How raw bytes are held: as a buffer that also has a text, as an array of bytes, as memory, or as
a window on memory. -/
inductive ByteView
  | buffer
  | octets
  | memory
  | window
  deriving DecidableEq, Repr

/-- The kind of elements of a plain typed array: one of the kinds of arrays, or bytes that are
clamped when they are stored. -/
inductive ElementKind
  | dtype (d : Dtype)
  | clamped
  deriving DecidableEq, Repr

/-- A native value. Whatever a value has to be asked for is held as what comes of it: the answer,
what is raised instead, or no end. -/
inductive Value
  | undefined
  | null
  | bool (b : Bool)
  | num (x : Float)
  | str (s : String)
  /-- An integer of any size. -/
  | bigint (i : Int)
  /-- A unique token with a description. -/
  | symbol (description : String)
  /-- A function, with its text and with what comes of calling it without arguments. Its name may
  have been replaced. -/
  | function (text : Except (Failure Value) String) (name result : Except (Failure Value) Value)
  | bytes (view : ByteView) (octets : Octets)
  /-- A plain typed array of one dimension. -/
  | typed (kind : ElementKind) (octets : Octets)
  | ndarray (a : NDArray)
  | series (s : Series)
  | frame (f : Frame)
  | list (items : List Value)
  | mapping (entries : List (String × Value))
  /-- A mapping that inherits nothing. -/
  | bare (entries : List (String × Value))
  /-- A mapping with one more key; reading what it holds fails. -/
  | guarded (entries : List (String × Value)) (key : String) (failure : Failure Value)
  /-- A mapping whose keys are any values. -/
  | map (entries : List (Value × Value))
  | set (items : List Value)
  /-- Something that yields items and then ends, or fails. The tag is what it is called if its text
  cannot be had. -/
  | iterable (items : List Value) (ending : Option (Failure Value))
      (text tag : Except (Failure Value) String)
  /-- Something that shows its text and its tag only. -/
  | foreign (text tag : Except (Failure Value) String)
  /-- Something that fails however it is looked at. -/
  | sealed (failure : Failure Value)
  /-- An error. Its name is that of its class unless it has been replaced. -/
  | error (cls : ErrorClass) (message : Except (Failure Value) Value)
      (name : Option (Except (Failure Value) Value))

/-- How a question to a value fails. -/
abbrev Fault :=
  Failure Value

namespace Value

instance : Inhabited Value :=
  ⟨.undefined⟩

/-! ## From other types -/

def ofScalar : Scalar → Value
  | .num x => .num x
  | .int i => .bigint i

def ofLabel : Label → Value
  | .str s => .str s
  | .num x => .num x

def ofItem : NDArray.Item → Value
  | .scalar x => ofScalar x
  | .array a => .ndarray a

def ofNat (n : Nat) : Value :=
  .num (Float.ofNat n)

/-- An error with a message, as the program raises it. -/
def ofError (cls : ErrorClass) (message : String) : Value :=
  .error cls (.ok (.str message)) none

/-- A function of which nothing but its name is of interest. -/
def namedFunction (name : String) : Value :=
  .function (.ok ("function " ++ name ++ "() \x7b [native code] \x7d")) (.ok (.str name))
    (.ok .undefined)

mutual

def ofJson : Json → Value
  | .null => .null
  | .bool b => .bool b
  | .num x => .num x
  | .str s => .str s
  | .arr items => .list (ofJsonList items)
  | .obj entries => .mapping (ofJsonEntries entries)

def ofJsonList : List Json → List Value
  | [] => []
  | j :: js => ofJson j :: ofJsonList js

def ofJsonEntries : List (String × Json) → List (String × Value)
  | [] => []
  | (k, j) :: es => (k, ofJson j) :: ofJsonEntries es

end

mutual

def ofNested : Nested → Value
  | .leaf x => ofScalar x
  | .node ns => .list (ofNestedList ns)

def ofNestedList : List Nested → List Value
  | [] => []
  | n :: ns => ofNested n :: ofNestedList ns

end

def typedElements (kind : ElementKind) (octets : Octets) : List Scalar :=
  match kind with
  | .dtype d => d.loadAll octets
  | .clamped => Dtype.u8.loadAll octets

/-! ## Kinds -/

/-- The basic type of a value. -/
def basicType : Value → String
  | .undefined => "undefined"
  | .bool _ => "boolean"
  | .num _ => "number"
  | .str _ => "string"
  | .bigint _ => "bigint"
  | .symbol _ => "symbol"
  | .function .. => "function"
  | _ => "object"

def byteArray? : Value → Option Octets
  | .bytes .buffer bs => some bs
  | .bytes .octets bs => some bs
  | _ => none

/-- The kind of the elements of a typed array; an array of clamped bytes has none of the kinds. -/
def elementType? : Value → Option Dtype
  | .typed (.dtype d) _ => some d
  | v => v.byteArray?.map fun _ => .u8

def kind : Value → String
  | .undefined => "nothing"
  | .null => "null"
  | .list _ => "list"
  | .bytes .buffer _ => "bytes"
  | .bytes .octets _ => "bytes"
  | .ndarray _ => "ndarray"
  | .frame _ => "DataFrame"
  | .series _ => "Series"
  | v => if v.basicType = "object" then "dict" else v.basicType

/-- The built-in class of an object in messages, if it belongs to one. -/
def builtinClass? : Value → Option String
  | .list _ => some "Array"
  | .error .. => some "Error"
  | .map _ => some "Map"
  | .set _ => some "Set"
  | .bytes .buffer _ => some Dtype.u8.viewName
  | .bytes .octets _ => some Dtype.u8.viewName
  | .bytes .memory _ => some "ArrayBuffer"
  | .typed (.dtype d) _ => some d.viewName
  | .typed .clamped _ => some "Uint8ClampedArray"
  | _ => none

/-- Whether a value is an object of its own that is no list, whatever it holds. -/
def isRecord : Value → Bool
  | .null => false
  | .list _ => false
  | v => v.basicType = "object"

/-! ## Keys of a value -/

/-- The entries of elements numbered from zero. -/
def indexed (xs : List Scalar) : List (String × Value) :=
  xs.zipIdx.map fun (x, i) => (toString i, ofScalar x)

def ofIndex : Option (List Label) → Value
  | none => .null
  | some labels => .list (labels.map ofLabel)

def ofName : Option String → Value
  | none => .null
  | some n => .str n

/-- The entries that a value shows when it is looked at as a mapping, as far as they can be read. -/
def entries : Value → List (String × Value)
  | .mapping es => es
  | .bare es => es
  | .guarded es _ _ => es
  | .bytes .buffer bs => indexed (Dtype.u8.loadAll bs)
  | .bytes .octets bs => indexed (Dtype.u8.loadAll bs)
  | .typed kind bs => indexed (typedElements kind bs)
  | .ndarray a =>
      [("dtype", .str a.dtype.tag), ("shape", .list (a.shape.map .num)),
        ("data", if a.dtype = .u8 then .bytes .octets a.octets else .typed (.dtype a.dtype) a.octets)]
  | .series s => [("values", .ndarray s.values), ("name", ofName s.name), ("index", ofIndex s.index)]
  | .frame f =>
      [("columns", .list (f.columns.map .str)), ("values", .ndarray f.values),
        ("index", ofIndex f.index)]
  | .error _ _ (some (.ok name)) => [("name", name)]
  | .error cls _ none =>
      if cls = .codec || cls = .unsupported || cls = .config then [("name", .str cls.name)] else []
  | _ => []

/-- The key that a value shows but that cannot be read, with what comes of reading it. -/
def unreadable? : Value → Option (String × Fault)
  | .guarded _ key failure => some (key, failure)
  | .error _ _ (some (.error failure)) => some ("name", failure)
  | _ => none

/-- What stands in the way of reading some keys of a value. -/
def obstacle? (keys : List String) : Value → Option Fault
  | .sealed failure => some failure
  | v => (v.unreadable?.filter fun e => keys.contains e.1).map Prod.snd

/-- The keys that a value shows when it is looked at as a mapping. -/
def ownKeys (v : Value) : List String :=
  v.entries.map Prod.fst ++ (v.unreadable?.map Prod.fst).toList

/-- The value under a key, among those that a value shows. -/
def field? (v : Value) (key : String) : Option Value :=
  Mapping.get? v.entries key

def isTruthy : Value → Bool
  | .undefined => false
  | .null => false
  | .bool b => b
  | .num x => !(x.isNaN || x == 0)
  | .str s => !s.isEmpty
  | .bigint i => i ≠ 0
  | _ => true

end Value
end LineRpc
