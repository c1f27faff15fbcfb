import LineRpc.Codec.Encode
import LineRpc.Envelope.Request
import LineRpc.Envelope.Response
import LineRpc.Log.Basic
import LineRpc.Registry

/-!
# Worker — from a request to its answer

A worker holds callables and capabilities. A request takes one of few courses: it is invalid, it
asks the worker itself, its arguments cannot be decoded, it names nothing, or the callable is
called. The answer depends on the course alone. There is none if the callable never ends, or if what
it raises cannot be put in words by any of the two attempts that are made at it.

- `Course`           : what becomes of a request
- `Worker.course`    : the course of a request
- `Course.response`  : the answer of a course
- `Worker.respond`   : the answer to a request
- `Worker.answer`    : the answer to a line
-/

namespace LineRpc

/-- The ground that a worker runs on, as it is reported. -/
structure Platform where
  name : String
  version : List Nat
  deriving DecidableEq, Repr

def Platform.current : Platform where
  name := "node"
  version := [0, 0]

/-- Callables, and the kinds of values that are understood. -/
structure Worker where
  registry : Registry
  capabilities : Capabilities

inductive Course
  | invalid (e : RequestError)
  | control (c : Control)
  /-- An argument cannot be decoded. -/
  | refused (e : DecodeError)
  | noModule (module : String)
  | noFunction (module function : String)
  /-- The callable was called. -/
  | finished (outcome : Outcome)

/-! ## Failures in words -/

/-- A raised value in words: an error by its class and message, where its name and its message are
asked for their texts; any other value by its own text. -/
def describeFailure : Value → Except Fault String
  | .error .type message _ => (message >>= Value.toText).map ("Type error: " ++ ·)
  | .error .range message _ => (message >>= Value.toText).map ("Value error: " ++ ·)
  | .error cls message name => do
      let name ← match name with
        | none => .ok cls.name
        | some name => name >>= Value.toText
      let message ← message >>= Value.toText
      pure (name ++ ": " ++ message)
  | .sealed failure => .error failure
  | v => v.describe.map ("Error: " ++ ·)

/-- The words of a raised value alone: the message of an error, or the text of any other value. -/
def errorMessage : Value → Except Fault String
  | .error _ message _ => message >>= Value.toText
  | .sealed failure => .error failure
  | v => v.describe

/-! ## Courses -/

namespace Worker

def readyLine (w : Worker) : String :=
  w.capabilities.readyLine

def health (w : Worker) (platform : Platform) : Json :=
  .obj [("ok", .bool true), ("arrays", .bool w.capabilities.arrays),
    ("tables", .bool w.capabilities.tables), ("runtime", .str platform.name),
    ("runtime_version", .arr (platform.version.map Json.ofNat))]

/-- What a callable is given: the positional arguments, and after them the keywords as one mapping
if there are any. -/
def arguments (w : Worker) (call : Call) : Except DecodeError (List Value) := do
  let args ← Codec.decodeList w.capabilities call.args
  -- No key of the keywords themselves is taken for a marker.
  let kwargs ← Codec.decodeMapping w.capabilities call.kwargs
  pure (if kwargs.isEmpty then args else args ++ [.mapping kwargs])

/-- The course of a call. Arguments are decoded before the callable is looked for. -/
def callCourse (w : Worker) (call : Call) : Course :=
  match w.arguments call with
  | .error e => .refused e
  | .ok args =>
      match w.registry.resolve call.module call.function with
      | .noModule => .noModule call.module
      | .noFunction => .noFunction call.module call.function
      | .found f => .finished (f args)

def course (w : Worker) (request : Value) : Course :=
  match Request.classify request with
  | .invalid e => .invalid e
  | .control c => .control c
  | .call c => w.callCourse c

end Worker

namespace Course

/-- What a course comes to, before any failure is caught. -/
def attempt (w : Worker) : Course → Except Fault Response
  | .invalid e => .ok (.failure e.message)
  | .control .ping => .ok (.ok (.str "pong"))
  | .control .health => .ok (.ok (w.health Platform.current))
  | .refused e => .error e.fault
  | .noModule m => .ok (.failure s!"Module not found: {m} - no module named '{m}'")
  | .noFunction m f =>
      .ok (.failure s!"Function not found: {f} in {m} - module '{m}' has no function '{f}'")
  | .finished (.returned v) => (Codec.encode w.capabilities v).map .ok
  | .finished (.threw v) => .error (.raised v)
  | .finished .endless => .error .endless

/-- The answer of a course: a raised value is caught and put in words. That fails if the value
raises something else when it is asked for its words. -/
def response (w : Worker) (course : Course) : Except Fault Response :=
  match course.attempt w with
  | .error (.raised v) => (describeFailure v).map .failure
  | attempt => attempt

def notes (w : Worker) (course : Course) : List LogEntry :=
  let start :=
    match course with
    | .invalid _ => []
    | .control _ => [LogEntry.ofMessage .debug "control command"]
    | _ => [LogEntry.ofMessage .debug "dispatch"]
  match course.attempt w with
  | .error (.raised _) => start ++ [.ofMessage .debug "invocation failed"]
  | _ => start

end Course

/-! ## Answers -/

/-- An answer, or why there is none, and what is said on the way to it. That is never what fails. -/
structure Exchange where
  response : Except Fault Response
  notes : List LogEntry

namespace Worker

def respond (w : Worker) (request : Value) : Except Fault Response :=
  (w.course request).response w

/-- The exchange for a request that stands on a line: if a failure cannot be put in words, what was
raised on the way is reported, by its message alone. Nothing catches what that raises in turn. -/
def exchangeOf (w : Worker) (request : Value) : Exchange :=
  let course := w.course request
  match course.response w with
  | .error (.raised e) =>
      ⟨(errorMessage e).map fun message => .failure s!"Bridge error: {message}",
        course.notes w ++ [.ofMessage .error "dispatch failed"]⟩
  | response => ⟨response, course.notes w⟩

/-- The exchange for a line; a blank line has none. -/
def exchange (w : Worker) (line : String) : Option Exchange :=
  if Text.isBlankLine line then none
  else
    match readLine? line with
    | none => some ⟨.ok (.failure "Invalid JSON: the line is no JSON text"), []⟩
    | some j => some (w.exchangeOf (.ofJson j))

/-- The answer to a line, or why there is none; a blank line has neither. -/
def answer (w : Worker) (line : String) : Option (Except Fault Response) :=
  (w.exchange line).map (·.response)

end Worker
end LineRpc
