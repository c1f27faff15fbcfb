import LineRpc.Json.Printer
import LineRpc.Value.Text

/-!
# Display — a value inside a message

A message that speaks of a value shows its JSON text, with some liberties: a backslash inside a list
or a mapping is shown as two, the reserved key is left out, a text that is marked as a large integer
stands without quotes, and a mapping that says what it was constructed by is shown by that name.

- `Json.plain`      : a value with its texts prepared for showing
- `Json.unquote`    : remove the quotes around marked integers
- `Json.maker?`     : the name of what a mapping was constructed by
- `Json.display`    : a value inside a message
-/

namespace LineRpc
namespace Json

/-! ## Texts and keys -/

def doubled (s : String) : String :=
  String.ofList (s.toList.flatMap fun c => if c = '\\' then ['\\', '\\'] else [c])

mutual

/-- A value with its texts prepared for showing, and without the reserved key. -/
def plain : Json → Json
  | .str s => .str (doubled s)
  | .arr items => .arr (plainItems items)
  | .obj entries => .obj (plainEntries entries)
  | j => j

/-- The items of a list, prepared for showing. -/
def plainItems : List Json → List Json
  | [] => []
  | j :: js => plain j :: plainItems js

/-- The entries of a mapping, prepared for showing. -/
def plainEntries : List (String × Json) → List (String × Json)
  | [] => []
  | (k, j) :: es =>
      if k = Mapping.reservedKey then plainEntries es else (k, plain j) :: plainEntries es

end

/-! ## Marked integers -/

/-- The character that marks a text as a large integer. -/
def integerMark : Char :=
  '\ue000'

/-- The digits and the letter of a large integer in front of a quote. -/
def integerTail? (cs : List Char) : Option (List Char) :=
  let digits := cs.takeWhile Char.isDigit
  match digits, cs.dropWhile Char.isDigit with
  | _ :: _, 'n' :: '"' :: _ => some (digits ++ ['n'])
  | _, _ => none

/-- A large integer in front of a quote, with its sign. -/
def integer? : List Char → Option (List Char)
  | '-' :: cs => (integerTail? cs).map ('-' :: ·)
  | cs => integerTail? cs

/-- Remove the quotes and the marks around marked integers. The count says how many of the
characters in front belong to an integer that is already written. -/
def unquote : Nat → List Char → List Char
  | _, [] => []
  | n + 1, _ :: cs => unquote n cs
  | 0, c :: cs =>
      match c, cs with
      | '"', m :: rest =>
          if m = integerMark then
            match integer? rest with
            | some digits => digits ++ unquote (digits.length + 2) cs
            | none => c :: unquote 0 cs
          else c :: unquote 0 cs
      | _, _ => c :: unquote 0 cs

/-! ## Values -/

/-- The name of what a mapping was constructed by, if it says so. -/
def maker? (j : Json) : Option Json :=
  match (j.get? "constructor").bind (Json.get? · "name") with
  | some .null => none
  | name => name

def displayWhole (j : Json) : String :=
  String.ofList (unquote 0 (chars (plain j)))

/-- The makers of lists and of plain mappings. -/
def plainMakers : List String :=
  ["Object", "Array"]

/-- A name as a text; what counts as nothing is empty. A JSON value always has a text or a tag. -/
def nameText (name : Json) : String :=
  let v := Value.ofJson name
  if v.isTruthy then v.describe.toOption.getD "" else ""

/-- A value inside a message. Numbers that no JSON text can spell have words here. -/
def display : Json → String
  | .num x => Number.render x
  | .arr items => displayWhole (.arr items)
  | .obj entries =>
      match maker? (.obj entries), Mapping.get? entries "expression" with
      | none, _ => displayWhole (.obj entries)
      | some (.str name), expression =>
          if plainMakers.contains name then displayWhole (.obj entries)
          else
            match expression with
            | some (.str s) => s
            | _ => name
      | some _, some (.str s) => s
      | some name, _ => nameText name
  | j => j.render

end Json
end LineRpc
