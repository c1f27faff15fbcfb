import LineRpc.Mapping

/-!
# Json — the values that travel on a line

A JSON value is null, a boolean, a number, a string, a list or a mapping. Numbers are 64-bit
floating-point values, also those that no JSON text can write: they are written `null`.

Strings are made of whole characters. A text can also name half of a character, a surrogate with no
other beside it, but only by an escape; no string holds one here, and such an escape is read as
U+FFFD. All that is said of strings is said of those without lone halves.
-/

namespace LineRpc

inductive Json
  | null
  | bool (b : Bool)
  | num (x : Float)
  | str (s : String)
  | arr (items : List Json)
  | obj (entries : List (String × Json))
  deriving Inhabited

namespace Json

def get? : Json → String → Option Json
  | .obj entries, key => Mapping.get? entries key
  | _, _ => none

/-- A mapping from entries in any order, repeated keys included. -/
def ofEntries (entries : List (String × Json)) : Json :=
  .obj (Mapping.ofEntries entries)

def ofNat (n : Nat) : Json :=
  .num (Float.ofNat n)

def strings (texts : List String) : Json :=
  .arr (texts.map .str)

def ofOption {α : Type} (f : α → Json) : Option α → Json
  | none => .null
  | some a => f a

end Json
end LineRpc
