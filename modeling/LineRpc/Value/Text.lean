import LineRpc.Text.Utf8
import LineRpc.Value.Basic

/-!
# Text — the text of a value

Most values have a text: it is used for keys, for messages, and for whatever has no better form on
the wire. A mapping is asked for its text through its keys, an error through its name and its
message, so asking may fail with anything that they raise.

- `Fault.noPrimitive` etc. : how asking for a text or a number fails of itself
- `Value.primitive`        : what an object gives where a simple value is needed
- `Value.toText`           : the text of a value where a text is needed
- `Value.string`           : the text of a value where it is asked for expressly
- `Value.describe`         : the text that is used when nothing else applies
-/

namespace LineRpc

namespace Fault

def typeError (message : String) : Fault :=
  .raised (.ofError .type message)

/-- A symbol inside another value or text. -/
def symbolText : Fault :=
  typeError "Cannot convert a Symbol value to a string"

/-- An object that no key gives a simple value for. -/
def noPrimitive : Fault :=
  typeError "Cannot convert object to primitive value"

def symbolNumber : Fault :=
  typeError "Cannot convert a Symbol value to a number"

end Fault

namespace Value

/-! ## Simple values -/

/-- The text of a simple value; no other has one here. -/
def basicText : Value → Except Fault String
  | .undefined => .ok "undefined"
  | .null => .ok "null"
  | .bool true => .ok "true"
  | .bool false => .ok "false"
  | .num x => .ok (Number.render x)
  | .str s => .ok s
  | .bigint i => .ok (toString i)
  | .symbol _ => .error Fault.symbolText
  | _ => .error Fault.noPrimitive

def isPrimitive : Value → Bool
  | .null => true
  | .function .. => false
  | v => v.basicType ≠ "object"

/-- What an object gives where a simple value is needed: its keys are called in turn until one gives
a simple value. `call` tells what comes of a key, if it can be called. -/
def primitive (call : String → Option (Except Fault Value)) : (keys : List String) → Except Fault Value
  | [] => .error Fault.noPrimitive
  | key :: keys =>
      match call key with
      | none => primitive call keys
      | some (.error e) => .error e
      | some (.ok v) => if v.isPrimitive then .ok v else primitive call keys

/-- What comes of calling a key of a mapping, if it holds a function or, when it is not there, if
one is inherited. What is inherited under `valueOf` gives the mapping itself, and so nothing. -/
def callKey (inherits : Bool) (entries : List (String × Value)) (key : String) :
    Option (Except Fault Value) :=
  match Mapping.get? entries key with
  | some (.function _ _ result) => some result
  | some _ => none
  | none => if inherits ∧ key = "toString" then some (.ok (.str "[object Object]")) else none

/-- What comes of calling a key of an object, if it can be called; values that are no mappings are
not asked in this way. -/
def call? : Value → String → Option (Except Fault Value)
  | .mapping es, key => callKey true es key
  | .bare es, key => callKey false es key
  | .guarded es hidden failure, key =>
      if key = hidden then some (.error failure) else callKey true es key
  | _, _ => none

def mappingText (v : Value) : Except Fault String :=
  primitive v.call? ["toString", "valueOf"] >>= basicText

/-- The text of an error: its name and its message, or only the one that is not empty. -/
def errorText (name message : String) : String :=
  if name.isEmpty then message
  else if message.isEmpty then name
  else name ++ ": " ++ message

/-! ## All values -/

mutual

def toText : Value → Except Fault String
  | .function text _ _ => text
  | .bytes .buffer bs => .ok (Utf8.decode bs)
  | .bytes .octets bs => .ok (",".intercalate (bs.map fun b => toString b.toNat))
  | .bytes .memory _ => .ok "[object ArrayBuffer]"
  | .bytes .window _ => .ok "[object DataView]"
  | .typed kind bs => .ok (",".intercalate ((typedElements kind bs).map Scalar.text))
  | .ndarray a => Failure.ofOption a.text?
  | .series _ => .ok "[object Object]"
  | .frame f => .ok f.text
  | .list items => (itemTexts items).map (",".intercalate ·)
  | .mapping es => mappingText (.mapping es)
  | .bare es => mappingText (.bare es)
  | .guarded es key failure => mappingText (.guarded es key failure)
  | .map _ => .ok "[object Map]"
  | .set _ => .ok "[object Set]"
  | .iterable _ _ text _ => text
  | .foreign text _ => text
  | .sealed failure => .error failure
  | .error cls message name => do
      let name ← nameText cls name
      let message ← textOr "" message
      pure (errorText name message)
  | v => v.basicText

/-- The texts of the items of a list; what is nothing is empty. -/
def itemTexts : List Value → Except Fault (List String)
  | [] => .ok []
  | v :: vs => do
      let s ← match v with
        | .undefined => .ok ""
        | .null => .ok ""
        | v => toText v
      let rest ← itemTexts vs
      pure (s :: rest)

def nameText (cls : ErrorClass) : Option (Except Fault Value) → Except Fault String
  | none => .ok cls.name
  | some name => textOr "Error" name

/-- The text of something that is read first; nothing has the given text. -/
def textOr (fallback : String) : Except Fault Value → Except Fault String
  | .error e => .error e
  | .ok v =>
      match v with
      | .undefined => .ok fallback
      | v => toText v

end

/-- The text of a value where it is asked for expressly: symbols have one too. -/
def string : Value → Except Fault String
  | .symbol d => .ok s!"Symbol({d})"
  | v => toText v

def tag : Value → Except Fault String
  | .list _ => .ok "[object Array]"
  | .error .. => .ok "[object Error]"
  | .iterable _ _ _ tag => tag
  | .foreign _ tag => tag
  | .sealed failure => .error failure
  | _ => .ok "[object Object]"

/-- The text that is used when nothing else applies: a function has its name, and what raises
something when it is asked for its text has its tag. Nothing is caught of what the name or the tag
raise. -/
def describe : Value → Except Fault String
  | .function _ name _ => do
      let name ← name
      let text ← if name.isTruthy then name.toText else .ok "anonymous"
      pure ("[Function: " ++ text ++ "]")
  | v =>
      match v.string with
      | .error (.raised _) => v.tag
      | text => text

end Value
end LineRpc
