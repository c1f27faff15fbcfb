import LineRpc.Text.Lines
import LineRpc.Text.Utf8
import LineRpc.Worker

/-!
# Session — a worker on its lines

A session writes the announcement, then reads line after line and writes one answer for each that is
not blank. It ends with the input, with the first write that the output does not accept, or with the
first line for which there is no answer.

- `Session.linesOf`  : the lines in pieces of input
- `Ending`           : how a session ends
- `Transcript`       : what a session leaves behind
- `Session.run`      : a whole session
-/

namespace LineRpc

/-- How a session ends: with its input, with the output, or because a line has no answer. -/
inductive Ending
  | closed
  | broken
  | failed (failure : Fault)

/-- What a session leaves behind: the lines that were taken up, what was written, how it ended, and
what was said. -/
structure Transcript where
  taken : List String
  written : List String
  ending : Ending
  notes : List LogEntry

namespace Session

/-- The lines in pieces of input; a piece may end inside a character, but what is left of one at the
end of the last piece does not count. -/
def linesOf (pieces : List Octets) : List String :=
  lines (Utf8.decodeChars (Utf8.whole pieces.flatten))

/-- Take one write from the number of writes that the output still accepts, if it accepts one; no
number means no limit. -/
def spend : Option Nat → Option (Option Nat)
  | none => some none
  | some 0 => none
  | some (n + 1) => some (some n)

/-- What is said when a session ends; one that never does says nothing. -/
def lastNotes : Ending → List LogEntry
  | .broken => [.ofMessage .error "output stream failed", .ofMessage .debug "input closed"]
  | .failed .endless => []
  | _ => [.ofMessage .debug "input closed"]

def stop (ending : Ending) : Transcript where
  taken := []
  written := []
  ending := ending
  notes := lastNotes ending

/-- Write a text and go on, or end if the output breaks. -/
def write (room : Option Nat) (text : String) (next : Option Nat → Transcript) : Transcript :=
  match spend room with
  | none => stop .broken
  | some room =>
      let rest := next room
      { rest with written := text :: rest.written }

def say (notes : List LogEntry) (rest : Transcript) : Transcript :=
  { rest with notes := notes ++ rest.notes }

def take (line : String) (rest : Transcript) : Transcript :=
  { rest with taken := line :: rest.taken }

/-- Take up lines and answer them one after the other. -/
def loop (w : Worker) (room : Option Nat) : List String → Transcript
  | [] => stop .closed
  | line :: lines =>
      take line <|
        match w.exchange line with
        | none => loop w room lines
        -- What is said on the way is said even if the answer is then lost.
        | some e =>
            say e.notes <|
              match e.response with
              | .ok r => write room r.line fun room => loop w room lines
              | .error failure => stop (.failed failure)

/-- A whole session: the announcement, then the answers. -/
def run (w : Worker) (room : Option Nat) (lines : List String) : Transcript :=
  write room w.readyLine fun room =>
    say [.ofMessage .info "bridge ready"] (loop w room lines)

/-- The word for an output that no longer accepts anything. -/
def brokenPipe : String :=
  "EPIPE"

end Session
end LineRpc
