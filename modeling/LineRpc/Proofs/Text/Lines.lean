import Mathlib.Data.List.Basic
import LineRpc.Proofs.Text.Blank
import LineRpc.Text.Lines

/-!
# Lines — a text without line ends is one line

Between two line ends a reader only collects characters, so a text without line ends that a line end
follows is cut into exactly one line, the text itself. A reader may know further characters that end
a line; it then cuts the text at each of these, and at no other place.

* `LineReader.feedAt_other`  : characters that end no line are collected
* `lines_line`               : a text on a line of its own
* `linesAt`                  : the lines of a reader that knows further line ends
* `linesAt_none`             : without any, these are the lines
* `length_linesAt_line`, `linesAt_line_iff` : what further line ends do to a line
-/

namespace LineRpc

open Text (NoBreak isBreak)

namespace LineReader

/-- Read one character, where some more characters end a line. -/
def stepAt (ends : Char → Bool) (r : LineReader) (c : Char) : Option String × LineReader :=
  if ends c then (some r.line, start) else r.step c

/-- Read a piece of the input, where some more characters end a line. -/
def feedAt (ends : Char → Bool) (r : LineReader) : List Char → List String × LineReader
  | [] => ([], r)
  | c :: cs =>
      ((r.stepAt ends c).1.toList ++ ((r.stepAt ends c).2.feedAt ends cs).1,
        ((r.stepAt ends c).2.feedAt ends cs).2)

end LineReader

/-- The lines of a whole input, where some more characters end a line. -/
def linesAt (ends : Char → Bool) (cs : List Char) : List String :=
  (LineReader.start.feedAt ends cs).1 ++ (LineReader.start.feedAt ends cs).2.finish

namespace LineReader

variable {ends : Char → Bool} {r : LineReader} {c : Char} {cs ds : List Char}

theorem feedAt_none (r : LineReader) (cs : List Char) : r.feedAt (fun _ => false) cs = r.feed cs := by
  induction cs generalizing r with
  | nil =>
      rfl
  | cons c cs ih =>
      simp [feedAt, feed, stepAt, ih]

/-- Text may arrive in any pieces. -/
theorem feedAt_append (r : LineReader) (cs ds : List Char) :
    r.feedAt ends (cs ++ ds) =
      ((r.feedAt ends cs).1 ++ ((r.feedAt ends cs).2.feedAt ends ds).1,
        ((r.feedAt ends cs).2.feedAt ends ds).2) := by
  induction cs generalizing r with
  | nil =>
      simp [feedAt]
  | cons c cs ih =>
      simp [feedAt, ih, List.append_assoc]

/-- A character that ends no line is collected. -/
theorem stepAt_other (hends : ends c = false) (hc : isBreak c = false) :
    r.stepAt ends c = (none, ⟨c :: r.pending, false⟩) := by
  have hparts : c ≠ '\n' ∧ c ≠ '\r' := by
    simpa [isBreak, and_comm] using hc
  simp [stepAt, step, hends, hparts]

/-- Without a line end everything is left pending. -/
theorem feedAt_other (hends : ∀ c ∈ cs, ends c = false) (hcs : NoBreak cs)
    (hr : r.afterReturn = false) :
    r.feedAt ends cs = ([], ⟨cs.reverse ++ r.pending, false⟩) := by
  induction cs generalizing r with
  | nil =>
      simp [feedAt, ← hr]
  | cons c cs ih =>
      have hstep : r.stepAt ends c = (none, ⟨c :: r.pending, false⟩) :=
        stepAt_other (hends c List.mem_cons_self) (hcs c List.mem_cons_self)
      have hrest := ih (r := ⟨c :: r.pending, false⟩)
        (fun d hd => hends d (List.mem_cons_of_mem c hd))
        (fun d hd => hcs d (List.mem_cons_of_mem c hd)) rfl
      simp [feedAt, hstep, hrest]

/-- Among characters of which none is a line end in itself, every further line end completes one
line. -/
theorem length_feedAt (ends : Char → Bool) (hcs : NoBreak cs) (hr : r.afterReturn = false) :
    (r.feedAt ends cs).1.length = cs.countP ends ∧ (r.feedAt ends cs).2.afterReturn = false := by
  induction cs generalizing r with
  | nil =>
      simp [feedAt, hr]
  | cons c cs ih =>
      have hrest : NoBreak cs := fun d hd => hcs d (List.mem_cons_of_mem c hd)
      by_cases hc : ends c = true
      · have hstep : r.stepAt ends c = (some r.line, start) := by simp [stepAt, hc]
        have := ih (r := start) hrest rfl
        simp [feedAt, hstep, this, hc]
      · have hstep : r.stepAt ends c = (none, ⟨c :: r.pending, false⟩) :=
          stepAt_other (by simpa using hc) (hcs c List.mem_cons_self)
        have := ih (r := ⟨c :: r.pending, false⟩) hrest rfl
        simp [feedAt, hstep, this, hc]

/-- A line feed ends the line that was being collected. -/
theorem feedAt_feed (hr : r.afterReturn = false) : r.feedAt ends ['\n'] = ([r.line], start) := by
  by_cases hend : ends '\n' = true
  · simp [feedAt, stepAt, hend]
  · simp [feedAt, stepAt, step, hend, hr]

theorem finish_start : start.finish = [] := rfl

end LineReader

variable {cs : List Char}

/-- Without any further line ends, these are the lines. -/
theorem linesAt_none (cs : List Char) : linesAt (fun _ => false) cs = lines cs := by
  simp [linesAt, lines, LineReader.feedAt_none]

/-- A text is cut once more than it has further line ends. -/
theorem length_linesAt_line (ends : Char → Bool) (hcs : NoBreak cs) :
    (linesAt ends (cs ++ ['\n'])).length = cs.countP ends + 1 := by
  obtain ⟨hlength, hreturn⟩ := LineReader.length_feedAt (r := .start) ends hcs rfl
  simp [linesAt, LineReader.feedAt_append, LineReader.feedAt_feed hreturn, hlength,
    LineReader.finish_start]

/-- A text on a line of its own is one line exactly if no further line end stands in it. -/
theorem linesAt_line_iff (ends : Char → Bool) (hcs : NoBreak cs) :
    linesAt ends (cs ++ ['\n']) = [String.ofList cs] ↔ ∀ c ∈ cs, ends c = false := by
  constructor
  · intro h
    have hlength := length_linesAt_line ends hcs
    have hzero : cs.countP ends = 0 := by simpa [h] using hlength.symm
    simpa [List.countP_eq_zero] using hzero
  · intro h
    have hfeed : LineReader.start.feedAt ends cs = ([], ⟨cs.reverse, false⟩) := by
      simpa [LineReader.start] using LineReader.feedAt_other (r := .start) h hcs rfl
    simp [linesAt, LineReader.feedAt_append, hfeed, LineReader.feedAt_feed, LineReader.finish_start,
      LineReader.line]

/-- A text without line ends is cut as the one line that it is. -/
theorem lines_line (hcs : NoBreak cs) : lines (cs ++ ['\n']) = [String.ofList cs] := by
  simpa [linesAt_none] using (linesAt_line_iff (fun _ => false) hcs).mpr fun _ _ => rfl

end LineRpc
