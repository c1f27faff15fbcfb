/-!
# CodePoints — tables of characters

A table of characters is written as words: the hexadecimal number of a character, two of them with a
hyphen for a range, and after an equals sign the characters that it stands for. A range on the left
of an equals sign stands for a range on the right. Looking up a character halves the table until its
range is found.

- `Text.rangeOf`, `Text.equationOf` : what a word says
- `CharTable.rangeSpans`            : entries that give the characters of some ranges a value
- `CharTable.equationSpans`         : entries for what characters stand for
- `CharTable.find?`                 : the entry of a character
-/

namespace LineRpc

namespace Text

/-! ## Words -/

/-- Cut characters wherever one passes a test; it is left out. -/
def cutAt (test : Char → Bool) : List Char → List (List Char)
  | [] => [[]]
  | c :: cs =>
      if test c then [] :: cutAt test cs
      else
        match cutAt test cs with
        | [] => [[c]]
        | piece :: pieces => (c :: piece) :: pieces

def wordsIn (cs : List Char) : List (List Char) :=
  (cutAt Char.isWhitespace cs).filter fun w => !w.isEmpty

def wordsOf (s : String) : List (List Char) :=
  wordsIn s.toList

def hexDigitValue (c : Char) : Nat :=
  if c.isDigit then c.toNat - '0'.toNat else c.toNat - 'A'.toNat + 10

def hexValue (cs : List Char) : Nat :=
  cs.foldl (fun acc c => acc * 16 + hexDigitValue c) 0

/-- A range of characters: the first and the last of them. -/
def rangeOf (word : List Char) : Nat × Nat :=
  match cutAt (· == '-') word with
  | a :: b :: _ => (hexValue a, hexValue b)
  | a :: _ => (hexValue a, hexValue a)
  | [] => (0, 0)

/-- A range of characters, and what its first character stands for. -/
def equationOf (word : List Char) : (Nat × Nat) × List Nat :=
  match cutAt (· == '=') word with
  | left :: right :: _ => (rangeOf left, (cutAt (· == '+') right).map hexValue)
  | left :: _ => (rangeOf left, [])
  | [] => ((0, 0), [])

end Text

/-! ## Tables -/

structure Span (α : Type) where
  first : Nat
  last : Nat
  value : α

/-- What a character of a range stands for, given what the first one stands for. -/
def Span.image (s : Span (List Nat)) (c : Nat) : List Nat :=
  match s.value with
  | [] => []
  | x :: xs => (x + (c - s.first)) :: xs

structure CharTable (α : Type) where
  spans : Array (Span α)

namespace CharTable

variable {α : Type}

def ofSpans (spans : List (Span α)) : CharTable α :=
  ⟨(spans.mergeSort fun a b => a.first ≤ b.first).toArray⟩

/-- Entries that give the characters of some ranges a value. -/
def rangeSpans (value : α) (words : List (List Char)) : List (Span α) :=
  words.map fun word => ⟨(Text.rangeOf word).1, (Text.rangeOf word).2, value⟩

/-- Entries for what characters stand for, each with a value made from it. -/
def equationSpans (f : List Nat → α) (text : String) : List (Span α) :=
  (Text.wordsOf text).map fun word =>
    let ((first, last), image) := Text.equationOf word
    ⟨first, last, f image⟩

/-- Look for a character among the ranges from number `lo` to before number `hi`. -/
def search (t : CharTable α) (c : Nat) : (steps lo hi : Nat) → Option (Span α)
  | 0, _, _ => none
  | steps + 1, lo, hi =>
      if hi ≤ lo then none
      else
        let mid := (lo + hi) / 2
        match t.spans[mid]? with
        | none => none
        | some s =>
            if c < s.first then t.search c steps lo mid
            else if s.last < c then t.search c steps (mid + 1) hi
            else some s

def find? (t : CharTable α) (c : Nat) : Option (Span α) :=
  t.search c t.spans.size 0 t.spans.size

def contains (t : CharTable α) (c : Nat) : Bool :=
  (t.find? c).isSome

end CharTable
end LineRpc
