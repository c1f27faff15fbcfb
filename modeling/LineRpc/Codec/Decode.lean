import LineRpc.Base64
import LineRpc.Codec.Capabilities
import LineRpc.Schema
import LineRpc.Value.Text

/-!
# Decode — from wire values to native values

A mapping with one of three marker keys stands for a typed value: an array, a table, or bytes, in
this order of precedence. Other keys beside a marker do not count. Everything else is taken over as
it is, with what it holds decoded.

- `Marker`        : the marker keys
- `DecodeError`   : why a value cannot be decoded
- `Codec.decode`  : the native value of a wire value
-/

namespace LineRpc

/-! ## Markers -/

namespace Marker

def bytes : String :=
  "__bytes__"

def array : String :=
  "__numpy_array__"

def table : String :=
  "__pandas_df__"

/-- All markers, in the order in which they count. -/
def all : List String :=
  [array, table, bytes]

/-- The marker that counts among keys. -/
def first? (keys : List String) : Option String :=
  all.find? keys.contains

end Marker

/-! ## Errors -/

inductive DecodeError
  /-- A value that no JSON text can spell. -/
  | notWire (type : String)
  /-- An array, but the worker has no arrays. -/
  | arraysDisabled
  /-- A table, but the worker has no tables. -/
  | tablesDisabled
  /-- The payload of bytes is no text. -/
  | bytesNotText
  /-- A text that is no strict base64. -/
  | badBase64 (field : String)
  /-- A payload of the wrong form. -/
  | badPayload (marker : String) (problems : List Problem)
  /-- Parts that do not make an array or a table. -/
  | badArray (e : ArrayError)
  /-- Something that is looked at cannot be read. -/
  | unreadable (failure : Fault)

namespace DecodeError

/-- The class of an error that the program raises: missing capabilities have one of their own. -/
def errorClass : DecodeError → ErrorClass
  | .arraysDisabled => .unsupported
  | .tablesDisabled => .unsupported
  | _ => .codec

def message : DecodeError → String
  | .notWire type => s!"not a wire value: {type}"
  | .arraysDisabled => s!"{Marker.array} received but typed arrays are not enabled"
  | .tablesDisabled => s!"{Marker.table} received but tables are not enabled"
  | .bytesNotText => s!"{Marker.bytes} payload must be a base64 string"
  | .badBase64 field => s!"{field}: invalid base64 payload"
  | .badPayload marker problems => s!"{marker} payload {Problem.summary problems}"
  | .badArray e => e.message
  | .unreadable _ => ""

/-- An error as it is raised; what a value raises when it is read goes on as it is. -/
def fault : DecodeError → Fault
  | .unreadable failure => failure
  | e => .raised (.ofError e.errorClass e.message)

end DecodeError

namespace Codec

/-! ## Payloads -/

def octets (field text : String) : Except DecodeError Octets :=
  match Base64.decode? text with
  | some bs => .ok bs
  | none => .error (.badBase64 field)

def decodeBytes : Value → Except DecodeError Value
  | .str text => (octets Marker.bytes text).map (.bytes .buffer)
  | _ => .error .bytesNotText

structure ArrayPayload where
  dtype : String
  shape : List Float
  data : String

def arrayProblems (payload : Value) : List Problem :=
  Schema.object [] payload <|
    Schema.string [.key "data"] (Schema.field? payload "data") ++
    Schema.string [.key "dtype"] (Schema.field? payload "dtype") ++
    Schema.listOf [.key "shape"] Schema.number (Schema.field? payload "shape")

def textOf : Option Value → String
  | some (.str s) => s
  | _ => ""

def numbersOf : Option Value → List Float
  | some (.list items) => items.filterMap fun
      | .num x => some x
      | _ => none
  | _ => []

def labelsOf : List Value → List Label :=
  List.filterMap fun
    | .str s => some (.str s)
    | .num x => some (.num x)
    | _ => none

/-- Keys of a payload that are looked at must be readable. -/
def readable (keys : List String) (payload : Value) : Except DecodeError Unit :=
  match payload.obstacle? keys with
  | some failure => .error (.unreadable failure)
  | none => .ok ()

/-- The payload of an array, if it has the right form. -/
def arrayPayload (payload : Value) : Except DecodeError ArrayPayload :=
  match arrayProblems payload with
  | [] =>
      .ok {
        dtype := textOf (Schema.field? payload "dtype")
        shape := numbersOf (Schema.field? payload "shape")
        data := textOf (Schema.field? payload "data") }
  | problems => .error (.badPayload Marker.array problems)

def decodeArray (caps : Capabilities) (payload : Value) : Except DecodeError NDArray := do
  if !caps.arrays then throw .arraysDisabled
  readable ["data", "dtype", "shape"] payload
  let p ← arrayPayload payload
  let bs ← octets (Marker.array ++ ".data") p.data
  (NDArray.fromBytes (Dtype.ofTag p.dtype) bs p.shape).mapError .badArray

structure TablePayload where
  columns : List Label
  data : Value
  index : Option (List Label)

def tableProblems (payload : Value) : List Problem :=
  Schema.object [] payload <|
    Schema.listOf [.key "columns"] Schema.label (Schema.field? payload "columns") ++
    Schema.present [.key "data"] (Schema.has payload "data") ++
    Schema.optional (Schema.labelsOrNull [.key "index"]) (Schema.field? payload "index")

def labelsOf? : Option Value → Option (List Label)
  | some (.list items) => some (labelsOf items)
  | _ => none

/-- The payload of a table, if it has the right form. -/
def tablePayload (payload : Value) : Except DecodeError TablePayload :=
  match tableProblems payload with
  | [] =>
      .ok {
        columns := (labelsOf? (Schema.field? payload "columns")).getD []
        data := (Schema.field? payload "data").getD .undefined
        index := labelsOf? (Schema.field? payload "index") }
  | problems => .error (.badPayload Marker.table problems)

/-- The name of a column: a number is written out. -/
def columnName : Label → String
  | .str s => s
  | .num x => Number.render x

/-- A table from its payload. An empty list of labels counts as none. -/
def decodeTable (caps : Capabilities) (payload : Value) : Except DecodeError Frame := do
  if !caps.tables then throw .tablesDisabled
  readable ["columns", "index"] payload
  let p ← tablePayload payload
  -- The data is only looked at when the other fields are right.
  readable ["data"] payload
  let values ← decodeArray caps p.data
  let index := p.index.filter fun labels => !labels.isEmpty
  (Frame.make (p.columns.map columnName) values index).mapError .badArray

/-- The typed value that a mapping with a marker stands for. -/
def decodeMarked? (caps : Capabilities) (entries : List (String × Value)) :
    Option (Except DecodeError Value) :=
  match Mapping.get? entries Marker.array with
  | some payload => some ((decodeArray caps payload).map .ndarray)
  | none =>
      match Mapping.get? entries Marker.table with
      | some payload => some ((decodeTable caps payload).map .frame)
      | none => (Mapping.get? entries Marker.bytes).map decodeBytes

/-! ## Values that are no wire values, looked at as mappings -/

/-- Elements under their numbers; exact integers are no wire values. -/
def decodeElements (xs : List Scalar) : Except DecodeError Value :=
  if xs.any fun x => match x with
    | .int _ => true
    | .num _ => false
  then .error (.notWire "bigint")
  else .ok (.mapping (Value.indexed xs))

/-- The parts of an array as a mapping. -/
def decodeParts (a : NDArray) : Except DecodeError Value := do
  let data ← decodeElements a.elements
  pure (.mapping [("dtype", .str a.dtype.tag), ("shape", .list (a.shape.map .num)), ("data", data)])

/-! ## All values -/

mutual

def decode (caps : Capabilities) : Value → Except DecodeError Value
  | .null => .ok .null
  | .bool b => .ok (.bool b)
  | .num x => .ok (.num x)
  | .str s => .ok (.str s)
  | .list items => (decodeList caps items).map .list
  | .mapping entries =>
      match decodeMarked? caps entries with
      | some result => result
      | none => (decodeEntries caps entries).map fun es => .mapping (Mapping.ofEntries es)
  | .bare entries =>
      match decodeMarked? caps entries with
      | some result => result
      | none => (decodeEntries caps entries).map fun es => .mapping (Mapping.ofEntries es)
  | .guarded entries key failure =>
      -- A marker that counts before the key that cannot be read keeps it from being read at all.
      if Marker.first? (key :: entries.map Prod.fst) = some key then .error (.unreadable failure)
      else
        match decodeMarked? caps entries with
        | some result => result
        | none => .error (.unreadable failure)
  | .bytes .buffer bs => decodeElements (Dtype.u8.loadAll bs)
  | .bytes .octets bs => decodeElements (Dtype.u8.loadAll bs)
  | .typed kind bs => decodeElements (Value.typedElements kind bs)
  | .ndarray a => decodeParts a
  | .series s => do
      let values ← decodeParts s.values
      pure (.mapping [("values", values), ("name", Value.ofName s.name),
        ("index", Value.ofIndex s.index)])
  | .frame f => do
      let values ← decodeParts f.values
      pure (.mapping [("columns", .list (f.columns.map .str)), ("values", values),
        ("index", Value.ofIndex f.index)])
  -- From here on: objects that show some entries, or none, when they are looked at as mappings.
  | .error _ _ (some name) => (decodeName caps name).map fun v => .mapping [("name", v)]
  | .error cls m none => .ok (.mapping (Value.error cls m none).entries)
  | .sealed failure => .error (.unreadable failure)
  | .undefined => .error (.notWire "undefined")
  | .bigint _ => .error (.notWire "bigint")
  | .symbol _ => .error (.notWire "symbol")
  | .function .. => .error (.notWire "function")
  | _ => .ok (.mapping [])

def decodeList (caps : Capabilities) : List Value → Except DecodeError (List Value)
  | [] => .ok []
  | v :: vs => do
      let w ← decode caps v
      let ws ← decodeList caps vs
      pure (w :: ws)

/-- The entries of a mapping with their values decoded, whatever the keys are. -/
def decodeEntries (caps : Capabilities) :
    List (String × Value) → Except DecodeError (List (String × Value))
  | [] => .ok []
  | (k, v) :: es => do
      let w ← decode caps v
      let ws ← decodeEntries caps es
      pure ((k, w) :: ws)

def decodeName (caps : Capabilities) : Except Fault Value → Except DecodeError Value
  | .ok v => decode caps v
  | .error failure => .error (.unreadable failure)

end

/-- A mapping with its values decoded, without a look for markers on the mapping itself. -/
def decodeMapping (caps : Capabilities) (entries : List (String × Value)) :
    Except DecodeError (List (String × Value)) :=
  (decodeEntries caps entries).map Mapping.ofEntries

def decodeJson (caps : Capabilities) (j : Json) : Except DecodeError Value :=
  decode caps (.ofJson j)

end Codec
end LineRpc
