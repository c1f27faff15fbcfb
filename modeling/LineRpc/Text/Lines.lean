/-!
# Lines — cutting a stream of characters into lines

A line ends at LF, at CR, or at CR LF taken together, also when the two arrive in different pieces
of the input. No other character ends a line. What stands after the last line end is a line of its
own unless it is empty.

- `LineReader`       : what is known between two characters of the input
- `LineReader.feed`  : the lines that a piece of the input completes
- `lines`            : all lines of a whole input
-/

namespace LineRpc

/-- The state of cutting: the characters of the unfinished line, last one first, and whether the
character before was a carriage return that ended a line. -/
structure LineReader where
  pending : List Char
  afterReturn : Bool
  deriving Repr, DecidableEq

namespace LineReader

def start : LineReader where
  pending := []
  afterReturn := false

def line (r : LineReader) : String :=
  String.ofList r.pending.reverse

/-- Read one character: the line that it ends, if any, and the state after it. -/
def step (r : LineReader) (c : Char) : Option String × LineReader :=
  if c = '\n' then
    if r.afterReturn then (none, { r with afterReturn := false }) else (some r.line, start)
  else if c = '\r' then
    (some r.line, { start with afterReturn := true })
  else
    (none, { pending := c :: r.pending, afterReturn := false })

/-- Read a piece of the input: the lines that it completes, and the state after it. -/
def feed (r : LineReader) : List Char → List String × LineReader
  | [] => ([], r)
  | c :: cs =>
      let (ended, r₁) := r.step c
      let (rest, r₂) := r₁.feed cs
      (ended.toList ++ rest, r₂)

/-- The input is over: a line without an end counts unless it is empty. -/
def finish (r : LineReader) : List String :=
  if r.pending.isEmpty then [] else [r.line]

end LineReader

def lines (cs : List Char) : List String :=
  (LineReader.start.feed cs).1 ++ (LineReader.start.feed cs).2.finish

end LineRpc
