/-!
# Blank — white space, trimming, and one-line messages

Which characters count as blank decides three things in the protocol: which input lines get no
answer, what is cut from both ends of a line before it is read, and how a message with line breaks
is folded into one line.

- `isBlank`  : the blank characters, line ends included
- `trim`     : a text without the blanks at its two ends
- `fold`     : every run of blanks that holds a line end becomes one space
-/

namespace LineRpc
namespace Text

/-! ## Blank characters -/

/-- White space of every script and the four line terminators. U+0085 and U+200B are not blank. -/
def isBlank (c : Char) : Bool :=
  let n := c.toNat
  (0x09 ≤ n && n ≤ 0x0D) || n == 0x20 || n == 0xA0 || n == 0x1680 ||
    (0x2000 ≤ n && n ≤ 0x200A) || n == 0x2028 || n == 0x2029 || n == 0x202F ||
    n == 0x205F || n == 0x3000 || n == 0xFEFF

/-- A carriage return or a line feed. -/
def isBreak (c : Char) : Bool :=
  c == '\r' || c == '\n'

theorem isBlank_of_isBreak {c : Char} (h : isBreak c = true) : isBlank c = true := by
  simp only [isBreak, Bool.or_eq_true, beq_iff_eq] at h
  rcases h with rfl | rfl <;> decide

/-! ## Trimming -/

def trimChars (cs : List Char) : List Char :=
  ((cs.dropWhile isBlank).reverse.dropWhile isBlank).reverse

def trim (s : String) : String :=
  String.ofList (trimChars s.toList)

/-- A line of blanks only, which is read over without an answer. -/
def isBlankLine (s : String) : Bool :=
  s.toList.all isBlank

/-! ## Folding a message into one line -/

/-- Replace each maximal run of blanks that holds a line end by one space. -/
def foldChars : List Char → List Char
  | [] => []
  | c :: cs =>
      if isBlank c then
        -- The run is maximal, so a line end anywhere in it takes all of it along.
        let run := c :: cs.takeWhile isBlank
        (if run.any isBreak then [' '] else run) ++ foldChars (cs.dropWhile isBlank)
      else
        c :: foldChars cs
termination_by cs => cs.length
decreasing_by
  · have := (List.dropWhile_sublist isBlank (l := cs)).length_le
    simp only [List.length_cons]
    omega
  · simp

/-- The one-line form of a message: runs of blanks with a line end become one space, and the ends
are trimmed. -/
def fold (s : String) : String :=
  String.ofList (trimChars (foldChars s.toList))

end Text
end LineRpc
