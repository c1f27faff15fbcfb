import LineRpc.CommandLine.Program
import LineRpc.Notation.Module

/-!
# Main — the program

The outermost layer: it reads variables, files and input, and carries out what the commands tell it
to do. Module files are JSON texts in the notation for modules.
-/

namespace LineRpc
namespace Main

def fileText (path : String) : IO (Except FileError String) := do
  try
    let content ← IO.FS.readBinFile path
    pure (.ok (Utf8.decode content.toList))
  catch e =>
    match e with
    | .noFileOrDirectory .. => pure (.error .notFound)
    | _ => pure (.error .isDirectory)

def loadModule (path : String) : IO (Except ImportError Namespace) := do
  let resolved := Path.resolve (toString (← IO.currentDir)) path
  match ← fileText resolved with
  | .error .isDirectory => pure (.error (.isDirectory resolved))
  | .error _ => pure (.error (.notFound resolved))
  | .ok content =>
      match Json.parse? content with
      | none => pure (.error (.raised s!"{path} is no module"))
      | some j =>
          match Notation.source j with
          | .ok source => pure source.run
          | .error e => pure (.error (.raised e.message))

def readEnvironment : IO Environment := do
  let values ← Variable.all.mapM fun v => do
    let value ← IO.getEnv v.name
    pure (v.name, value)
  pure fun name => (values.lookup name).join

def entryText (logger : Logger) (entry : LogEntry) : String :=
  if !logger.admits entry then ""
  else
    let message := entry.message.getD ""
    match logger.format with
    | .plain => logger.plainText entry
    | .text => entry.level.word.toUpper ++ ": " ++ message ++ "\n"
    | .json => writeLine (.obj [("level", .str entry.level.word), ("msg", .str message)])

def perform : CommandLine.Effect → IO Unit
  | .output text => do
      let out ← IO.getStdout
      out.putStr text
      out.flush
  | .error text => IO.eprint text
  | .note logger entry => IO.eprint (entryText logger entry)

/-- Never end. -/
partial def wait : IO UInt32 := do
  IO.sleep 1000
  wait

/-- Do all that a command does, and give back its code. -/
def performAll (r : CommandLine.Run) : IO UInt32 := do
  r.effects.forM perform
  match r.code with
  | some code => pure (UInt32.ofNat code)
  | none => wait

/-- Read input up to the next line end, or to its own end. -/
partial def readPiece (input : IO.FS.Stream) (octets : Octets) : IO Octets := do
  let next ← input.read 1
  match next.toList with
  | [] => pure octets.reverse
  | b :: _ => if b = 10 || b = 13 then pure (b :: octets).reverse else readPiece input (b :: octets)

/-- Answer lines, and tell how the session ends if it ends with one of them. -/
def answerLines (w : Worker) (logger : Logger) : List String → IO (Option Ending)
  | [] => pure none
  | line :: lines => do
      match w.exchange line with
      | none => answerLines w logger lines
      | some e => do
          e.notes.forM fun entry => perform (.note logger entry)
          match e.response with
          | .error failure => pure (some (.failed failure))
          | .ok response => do
              try
                perform (.output response.line)
              catch _ =>
                return some .broken
              answerLines w logger lines

/-- Read and answer until the session ends. -/
partial def serveFrom (w : Worker) (logger : Logger) (input : IO.FS.Stream) (reader : LineReader) :
    IO Ending := do
  let piece ← readPiece input []
  if piece.isEmpty then
    pure ((← answerLines w logger reader.finish).getD .closed)
  else
    let (lines, reader) := reader.feed (Utf8.decodeChars (Utf8.whole piece))
    match ← answerLines w logger lines with
    | some ending => pure ending
    | none => serveFrom w logger input reader

def serve (w : Worker) (logger : Logger) : IO Ending := do
  try
    perform (.output w.readyLine)
  catch _ =>
    return .broken
  perform (.note logger (.ofMessage .info "bridge ready"))
  serveFrom w logger (← IO.getStdin) .start

def run (words : List String) : IO UInt32 := do
  let host : CommandLine.Host IO :=
    { environment := ← readEnvironment
      directory := toString (← IO.currentDir)
      fileText := fileText
      loadModule := loadModule }
  match ← CommandLine.Program.start host words with
  | .done r => performAll r
  | .serve w logger said => do
      said.forM perform
      let ending ← serve w logger
      (Session.lastNotes ending).forM fun entry => perform (.note logger entry)
      performAll (CommandLine.Program.finish logger ending)

end Main
end LineRpc

def main (words : List String) : IO UInt32 :=
  LineRpc.Main.run words
