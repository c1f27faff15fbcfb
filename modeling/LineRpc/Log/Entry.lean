import LineRpc.Log.Basic
import LineRpc.Log.Message

/-!
# Entry — entries from values

What is said is a list of values: a message with values for its places, or details in front of such
a message. Without a message the details may hold one.

- `Utterance`            : details, a message and the values for its places
- `Utterance.ofValues`   : the utterance that a list of values makes
- `Utterance.message`    : the message, from the values or from the details
- `Logger.say`           : what the plain format shows of a list of values
-/

namespace LineRpc

/-- What is said: details, a message, and the values for its places. -/
structure Utterance where
  details : Option Value
  message : Value
  arguments : List Value

namespace Utterance

def ofMessage (details : Option Value) (vs : List Value) : Utterance where
  details := details
  message := vs.head?.getD .undefined
  arguments := vs.drop 1

/-- The utterance that a list of values makes. An object in front is details, null only before
something else; nothing in front is passed over. -/
def ofValues : List Value → Utterance
  | [.null] => ofMessage none [.null]
  | .null :: vs => ofMessage none vs
  | .undefined :: vs => ofMessage none vs
  | v :: vs => if Message.isObject v then ofMessage (some v) vs else ofMessage none (v :: vs)
  | [] => ofMessage none []

/-! ## Details -/

def field (v : Value) (key : String) : Value :=
  (v.field? key).getD .undefined

/-- Whether details are a request or a reply of the web, of which nothing is kept. -/
def isWebTraffic (v : Value) : Bool :=
  ["method", "headers", "socket"].all (fun key => (field v key).isTruthy) ||
    match field v "setHeader" with
    | .function .. => true
    | _ => false

def innerMessage : Value → Except Fault Value
  | .error _ message _ => message
  | .guarded es key failure =>
      if key = "message" then .error failure else .ok (field (.mapping es) "message")
  | .sealed failure => .error failure
  | v => .ok (field v "message")

/-- Whether a value looks like an error: it has a message that is a text. -/
def looksLikeError (v : Value) : Bool :=
  match field v "message" with
  | .str _ => true
  | _ => false

/-- The message that details give if there is no other. -/
def messageIn : Value → Except Fault Value
  | .error _ message _ => message
  | v =>
      if isWebTraffic v then .ok .undefined
      else
        match field v "msg", field v "err" with
        | .undefined, err => if err.isTruthy then innerMessage err else .ok .undefined
        | _, _ => .ok .undefined

/-- Look at everything in the details once. -/
def inspect (v : Value) : Except Fault Unit :=
  match v.obstacle? v.ownKeys, field v "err" with
  | some failure, _ => .error failure
  | none, .guarded es key failure =>
      if key = "message" || looksLikeError (.mapping es) then .error failure else .ok ()
  | none, _ => .ok ()

def shown : Value → Option String
  | .str s => some s
  | v =>
      if (Document.ofValue? v).any Document.isUnwritable then some Document.unwritable else none

/-- What is shown of details without a message: the text under the key `msg`. -/
def shownIn : Value → Option String
  | .error .. => none
  | v => if isWebTraffic v then none else shown (field v "msg")

/-! ## The whole -/

/-- The message, from the values or else from the details. -/
def finalMessage (u : Utterance) : Except Fault Value := do
  let message ← Message.format u.message u.arguments
  match message, u.details with
  | .undefined, some details => messageIn details
  | message, _ => pure message

def text? (u : Utterance) : Except Fault (Option String) := do
  let message ← u.finalMessage
  u.details.forM inspect
  match message with
  | .undefined => pure (u.details.bind shownIn)
  | .function .. => pure (u.details.bind shownIn)
  | message => pure (shown message)

end Utterance

def LogEntry.ofValues (level : LogLevel) (vs : List Value) : Except Fault LogEntry := do
  let message ← (Utterance.ofValues vs).text?
  pure ⟨level, message⟩

/-- What the plain format shows of values said at a level. Nothing goes wrong with what is not let
through. -/
def Logger.say (l : Logger) (level : LogLevel) (vs : List Value) : Except Fault String :=
  if l.admits ⟨level, none⟩ then (LogEntry.ofValues level vs).map l.plainText else .ok ""

end LineRpc
