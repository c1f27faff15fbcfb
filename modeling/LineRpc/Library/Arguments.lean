import LineRpc.Callable
import LineRpc.Value.Text

/-!
# Arguments — checking what a built-in function is given

Built-in functions check the number and the kinds of their arguments before they do their work. What
is wrong is a `CallError`; its class and its words are fixed here for all functions.

- `CallError`         : why a built-in function refuses
- `Args.arity` etc.   : checks and conversions of arguments
- `Callable.ofBuiltin`: a built-in function as a callable
-/

namespace LineRpc

/-- Why a built-in function refuses its arguments, or fails on them. -/
inductive CallError
  | arity (function : String) (least most given : Nat)
  | notNumber (function kind : String)
  | notInteger (function : String) (x : Float)
  | notString (function kind : String)
  | notArray (function kind : String)
  | notFrame (function kind : String)
  | notShape (function kind : String)
  | unknownTag (function tag : String)
  | unknownKind (function kind : String)
  | notNumeric (function kind : String)
  | notMapping (function kind : String)
  | columnNotList (column kind : String)
  | labelsNotList (function kind : String)
  | notLabel (function kind : String)
  | noLength (kind : String)
  | unsized
  | notSummable
  | negativeSleep
  | mathDomain
  | negativeFactorial
  | raggedColumns
  | array (e : ArrayError)
  | requested (message : String)
  /-- A failure that is not one of the function itself: what an argument raises, or no end. -/
  | failed (failure : Fault)

namespace CallError

/-- The class of an error of the function: the kind of an argument, its range, or neither. -/
def errorClass : CallError → ErrorClass
  | .negativeSleep => .range
  | .mathDomain => .range
  | .negativeFactorial => .range
  | .raggedColumns => .range
  | .array e => if e.isKind then .type else .range
  | .requested _ => .error
  | _ => .type

def message : CallError → String
  | .arity f least most given =>
      let expected := if least = most then s!"exactly {least}" else s!"{least} to {most}"
      let plural := if most = 1 then "" else "s"
      s!"{f}() takes {expected} argument{plural} ({given} given)"
  | .notNumber f kind => s!"{f}() argument must be a real number, not {kind}"
  | .notInteger f x => s!"{f}() argument must be an integer, not {Number.render x}"
  | .notString f kind => s!"{f}() argument must be a string, not {kind}"
  | .notArray f kind => s!"{f}() argument must be an ndarray, not {kind}"
  | .notFrame f kind => s!"{f}() argument must be a DataFrame, not {kind}"
  | .notShape f kind => s!"{f}() shape must be an integer or a list of integers, not {kind}"
  | .unknownTag f tag => s!"{f}() got an unknown dtype '{tag}'"
  | .unknownKind f kind => s!"{f}() got an unknown dtype {kind}"
  | .notNumeric f kind => s!"{f}() expected numbers, got {kind}"
  | .notMapping f kind => s!"{f}() argument must be a dict, not {kind}"
  | .columnNotList column kind => s!"column '{column}' must be a list, not {kind}"
  | .labelsNotList f kind => s!"{f}() index must be a list, not {kind}"
  | .notLabel f kind => s!"{f}() index labels must be strings or numbers, not {kind}"
  | .noLength kind => s!"object of type '{kind}' has no len()"
  | .unsized => "len() of unsized object"
  | .notSummable => "fsum() argument must be a list of numbers"
  | .negativeSleep => "sleep length must be non-negative"
  | .mathDomain => "math domain error"
  | .negativeFactorial => "factorial() not defined for negative values"
  | .raggedColumns => "All arrays must be of the same length"
  | .array e => e.message
  | .requested message => message
  | .failed _ => ""

/-- An error as it is raised; what is no error of the function goes on as it is. -/
def fault : CallError → Fault
  | .failed failure => failure
  | e => .raised (.ofError e.errorClass e.message)

end CallError

abbrev Builtin :=
  List Value → Except CallError Value

def Callable.ofBuiltin (f : Builtin) : Callable := fun args =>
  match f args with
  | .ok v => .returned v
  | .error e =>
      match e.fault with
      | .raised v => .threw v
      | .endless => .endless

namespace Args

/-- The argument at a place; a place without an argument holds nothing. -/
def nth (args : List Value) (i : Nat) : Value :=
  args.getD i .undefined

def arity (function : String) (args : List Value) (least most : Nat) : Except CallError Unit :=
  if least ≤ args.length ∧ args.length ≤ most then .ok ()
  else .error (.arity function least most args.length)

/-- A number; a truth value counts as `0` or `1`. -/
def number (function : String) : Value → Except CallError Float
  | .num x => .ok x
  | .bool true => .ok 1
  | .bool false => .ok 0
  | v => .error (.notNumber function v.kind)

def integer (function : String) (v : Value) : Except CallError Float := do
  let x ← number function v
  if Number.isInteger x then pure x else throw (.notInteger function x)

def string (function : String) : Value → Except CallError String
  | .str s => .ok s
  | v => .error (.notString function v.kind)

/-- An array; a series counts as its values. -/
def array (function : String) : Value → Except CallError NDArray
  | .ndarray a => .ok a
  | .series s => .ok s.values
  | v => .error (.notArray function v.kind)

def frame (function : String) : Value → Except CallError Frame
  | .frame f => .ok f
  | v => .error (.notFrame function v.kind)

/-- A shape: one integer, or a list of integers. -/
def shape (function : String) : Value → Except CallError (List Float)
  | .num x => do
      let d ← integer function (.num x)
      pure [d]
  | .list items => items.mapM (integer function)
  | v => .error (.notShape function v.kind)

/-- Whether a value counts as a mapping of keywords. -/
def isMapping : Value → Bool
  | .bytes .buffer _ => false
  | .bytes .octets _ => false
  | .ndarray _ => false
  | .frame _ => false
  | .series _ => false
  | v => v.isRecord

/-- A kind of elements, given by its tag or under the keyword `dtype`. -/
def dtype (function : String) (v : Value) (fallback : Dtype) : Except CallError Dtype :=
  let raw := if isMapping v then (v.field? "dtype").getD .undefined else v
  match v.obstacle? ["dtype"], raw with
  | some failure, _ => .error (.failed failure)
  | none, .undefined => .ok fallback
  | none, .null => .ok fallback
  | none, .str tag =>
      match Dtype.ofTag? tag with
      | some d => .ok d
      | none => .error (.unknownTag function tag)
  | none, raw => .error (.unknownKind function raw.kind)

/-- Wait for something that may never come. -/
def awaited {α : Type} : Option α → Except CallError α
  | some a => .ok a
  | none => .error (.failed .endless)

mutual

/-- Numbers in lists in lists; an array counts as its nesting. -/
def nested (function : String) : Value → Except CallError Nested
  | .num x => .ok (.leaf (.num x))
  | .bool true => .ok (.leaf (.num 1))
  | .bool false => .ok (.leaf (.num 0))
  | .list items => (nestedList function items).map .node
  | .ndarray a => awaited a.toNested?
  | v => .error (.notNumeric function v.kind)

def nestedList (function : String) : List Value → Except CallError (List Nested)
  | [] => .ok []
  | v :: vs => do
      let n ← nested function v
      let ns ← nestedList function vs
      pure (n :: ns)

end

def label (function : String) : Value → Except CallError Label
  | .str s => .ok (.str s)
  | .num x => .ok (.num x)
  | v => .error (.notLabel function v.kind)

def labels (function : String) : Value → Except CallError (List Label)
  | .list items => items.mapM (label function)
  | v => .error (.labelsNotList function v.kind)

/-- An element as an answer: of an integer the nearest number, if that is a safe integer, and else
its decimal digits. -/
def answerScalar : Scalar → Value
  | .num x => .num x
  | .int i => if Number.isSafe (Float.ofInt i) then .num (Float.ofInt i) else .str (toString i)

mutual

def answerNested : Nested → Value
  | .leaf x => answerScalar x
  | .node ns => .list (answerNestedList ns)

def answerNestedList : List Nested → List Value
  | [] => []
  | n :: ns => answerNested n :: answerNestedList ns

end

/-- Take over a failure of an array operation. -/
def ofArray {α : Type} (r : Except ArrayError α) : Except CallError α :=
  r.mapError .array

/-- Take over a failure of an array operation that may never end. -/
def ofAttempt {α : Type} : Except (Failure ArrayError) α → Except CallError α
  | .ok a => .ok a
  | .error (.raised e) => .error (.array e)
  | .error .endless => .error (.failed .endless)

end Args
end LineRpc
