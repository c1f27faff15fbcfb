/-!
# Quoted — a text in quotes, with what cannot be seen spelled out

A text is put in single quotes; if it holds one itself, in the first of double quotes and backquotes
that it does not hold. Control characters are spelled by their letter or their hexadecimal number.

- `Text.escape` : a character inside quotes
- `Text.quoted` : a text in quotes
-/

namespace LineRpc
namespace Text

def hexUpper (n : Nat) : Char :=
  if n < 10 then Char.ofNat ('0'.toNat + n) else Char.ofNat ('A'.toNat + (n - 10))

def escape (mark c : Char) : List Char :=
  if c = '\\' then ['\\', '\\']
  else if c = mark ∧ mark = '\'' then ['\\', c]
  else if c = '\x08' then ['\\', 'b']
  else if c = '\t' then ['\\', 't']
  else if c = '\n' then ['\\', 'n']
  else if c = '\x0c' then ['\\', 'f']
  else if c = '\r' then ['\\', 'r']
  else if c.toNat < 0x20 ∨ (0x7f ≤ c.toNat ∧ c.toNat < 0xa0) then
    ['\\', 'x', hexUpper (c.toNat / 16), hexUpper (c.toNat % 16)]
  else [c]

/-- Whether a dollar sign stands before an opening brace. -/
def opensHole : List Char → Bool
  | '$' :: '{' :: _ => true
  | _ :: cs => opensHole cs
  | [] => false

def quoteMark (cs : List Char) : Char :=
  if !cs.contains '\'' then '\''
  else if !cs.contains '"' then '"'
  else if !cs.contains '\x60' && !opensHole cs then '\x60'
  else '\''

def quoted (s : String) : String :=
  let cs := s.toList
  let mark := quoteMark cs
  String.ofList (mark :: cs.flatMap (escape mark) ++ [mark])

end Text
end LineRpc
