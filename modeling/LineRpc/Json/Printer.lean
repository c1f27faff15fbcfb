import LineRpc.Json.Basic
import LineRpc.Number.Printer

/-!
# Printer — writing a JSON text

A value is written on one line without any white space, or over several lines with an indent. Only
the quote, the backslash and the control characters below U+0020 are escaped, so a line break never
stands in the one-line form.

- `Json.render` : the one-line text of a value
- `Json.pretty` : the text over several lines
-/

namespace LineRpc
namespace Json

/-! ## Strings and numbers -/

def hexChar (n : Nat) : Char :=
  if n < 10 then Char.ofNat ('0'.toNat + n) else Char.ofNat ('a'.toNat + (n - 10))

def escapeChar (c : Char) : List Char :=
  if c = '"' then ['\\', '"']
  else if c = '\\' then ['\\', '\\']
  else if c = '\x08' then ['\\', 'b']
  else if c = '\t' then ['\\', 't']
  else if c = '\n' then ['\\', 'n']
  else if c = '\x0c' then ['\\', 'f']
  else if c = '\r' then ['\\', 'r']
  else if c.toNat < 0x20 then
    ['\\', 'u', '0', '0', hexChar (c.toNat / 16), hexChar (c.toNat % 16)]
  else [c]

def quoteChars (s : String) : List Char :=
  '"' :: s.toList.flatMap escapeChar ++ ['"']

def quote (s : String) : String :=
  String.ofList (quoteChars s)

/-- A number; what is not finite is written `null`. -/
def numberText (x : Float) : String :=
  if x.isFinite then Number.render x else "null"

/-! ## The one-line form -/

mutual

def chars : Json → List Char
  | .null => "null".toList
  | .bool true => "true".toList
  | .bool false => "false".toList
  | .num x => (numberText x).toList
  | .str s => quoteChars s
  | .arr items => '[' :: (itemChars items).drop 1 ++ [']']
  | .obj entries => '{' :: (entryChars entries).drop 1 ++ ['}']

/-- Items of a list, each with a comma in front. -/
def itemChars : List Json → List Char
  | [] => []
  | j :: js => ',' :: chars j ++ itemChars js

/-- Entries of a mapping, each with a comma in front. -/
def entryChars : List (String × Json) → List Char
  | [] => []
  | (k, j) :: es => ',' :: quoteChars k ++ ':' :: chars j ++ entryChars es

end

def render (j : Json) : String :=
  String.ofList (chars j)

/-! ## The form over several lines -/

/-- A new line, indented. -/
def newLine (indent depth : Nat) : List Char :=
  '\n' :: List.replicate (indent * depth) ' '

mutual

/-- The characters of the form over several lines, at a depth of nesting. -/
def prettyChars (indent depth : Nat) : Json → List Char
  | .arr [] => ['[', ']']
  | .arr (j :: js) =>
      '[' :: (prettyItems indent (depth + 1) (j :: js)).drop 1 ++ newLine indent depth ++ [']']
  | .obj [] => ['{', '}']
  | .obj ((k, j) :: es) =>
      '{' :: (prettyEntries indent (depth + 1) ((k, j) :: es)).drop 1 ++
        newLine indent depth ++ ['}']
  | j => chars j

/-- Items on lines of their own, each with a comma in front. -/
def prettyItems (indent depth : Nat) : List Json → List Char
  | [] => []
  | j :: js =>
      ',' :: newLine indent depth ++ prettyChars indent depth j ++ prettyItems indent depth js

/-- Entries on lines of their own, each with a comma in front. -/
def prettyEntries (indent depth : Nat) : List (String × Json) → List Char
  | [] => []
  | (k, j) :: es =>
      ',' :: newLine indent depth ++ quoteChars k ++ ':' :: ' ' :: prettyChars indent depth j ++
        prettyEntries indent depth es

end

/-- The text of a value over several lines, each level of nesting `indent` spaces further in. -/
def pretty (indent : Nat) (j : Json) : String :=
  String.ofList (prettyChars indent 0 j)

end Json
end LineRpc
