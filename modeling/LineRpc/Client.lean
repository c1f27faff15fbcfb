import LineRpc.Codec.Encode
import LineRpc.Envelope.Request
import LineRpc.Envelope.Response

/-!
# Client — the other end of the line

A client writes requests and reads answers.

- `Client.request`    : the line of a call
- `Client.read`       : what an answer line says
- `Client.readReady?` : the capabilities that a worker announces
-/

namespace LineRpc

inductive InvalidReason
  | emptyLine
  | invalidResponse
  | decodeFailed
  deriving DecidableEq, Repr

def InvalidReason.word : InvalidReason → String
  | .emptyLine => "empty_line"
  | .invalidResponse => "invalid_response"
  | .decodeFailed => "decode_failed"

inductive Reply
  | ok (value : Value)
  | error (message : String)
  | invalid (reason : InvalidReason)

namespace Client

/-- Whether there are any keywords: keys of a mapping, items of a list, or characters of a text.
Something sealed is not let pass: it fails when it is written. -/
def hasKeywords : Value → Bool
  | .list items => !items.isEmpty
  | .str s => !s.isEmpty
  | .sealed _ => true
  | v => !v.ownKeys.isEmpty

/-- The envelope of a call. Keywords are left out if there are none. -/
def envelope (caps : Capabilities) (module function : String) (args : List Value)
    (kwargs : Value) : Except Fault Json := do
  let a ← Codec.encode caps (.list args)
  let target := [("m", Json.str module), ("f", .str function), ("a", a)]
  if hasKeywords kwargs then
    let k ← Codec.encode caps kwargs
    pure (.obj (target ++ [("k", k)]))
  else pure (.obj target)

def request (caps : Capabilities) (module function : String) (args : List Value)
    (kwargs : Value) : Except Fault String :=
  (envelope caps module function args kwargs).map writeLine

/-- What an answer line says. The words of an error are the text of its value, which fails for a
mapping that hides its text. -/
def read (caps : Capabilities) (line : String) : Except Fault Reply :=
  if Text.isBlankLine line then .ok (.invalid .emptyLine)
  else
    match readLine? line with
    | none => .ok (.invalid .decodeFailed)
    | some (.obj entries) =>
        -- A value counts before an error.
        match Mapping.get? entries "ok" with
        | some value =>
            match Codec.decodeJson caps value with
            | .ok v => .ok (.ok v)
            | .error _ => .ok (.invalid .decodeFailed)
        | none =>
            match Mapping.get? entries "error" with
            | some e => (Value.ofJson e).string.map .error
            | none => .ok (.invalid .invalidResponse)
    | some _ => .ok (.invalid .invalidResponse)

/-- A flag that may be missing. -/
def flag? : Option Json → Option Bool
  | none => some false
  | some (.bool b) => some b
  | some _ => none

def readReady? (line : String) : Option Capabilities := do
  let j ← readLine? line
  match j.get? "ready" with
  | some (.bool true) =>
      let arrays ← flag? (j.get? "arrays")
      let tables ← flag? (j.get? "tables")
      pure ⟨arrays, tables⟩
  | _ => none

end Client
end LineRpc
