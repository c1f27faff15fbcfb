/-!
# Log — what a worker says beside its answers

Answers have a channel of their own, so a worker speaks of its doings on another one. An entry has a
level and mostly a message; a logger lets entries through up to its level and writes them in its
format. The plain format is the message alone.

- `LogLevel`, `LogFormat` : levels and formats, with their words
- `LogEntry`              : one thing said
- `Logger.plainText`      : what the plain format shows of an entry
-/

namespace LineRpc

inductive LogLevel
  | error
  | warn
  | info
  | debug
  deriving DecidableEq, Repr

namespace LogLevel

/-- All levels, the gravest first. -/
def all : List LogLevel :=
  [.error, .warn, .info, .debug]

def word : LogLevel → String
  | .error => "error"
  | .warn => "warn"
  | .info => "info"
  | .debug => "debug"

def ofWord? (word : String) : Option LogLevel :=
  all.find? fun l => l.word = word

/-- The place of a level, the gravest first. -/
def rank : LogLevel → Nat
  | .error => 0
  | .warn => 1
  | .info => 2
  | .debug => 3

end LogLevel

inductive LogFormat
  | text
  | json
  | plain
  deriving DecidableEq, Repr

namespace LogFormat

def all : List LogFormat :=
  [.text, .json, .plain]

def word : LogFormat → String
  | .text => "text"
  | .json => "json"
  | .plain => "plain"

def ofWord? (word : String) : Option LogFormat :=
  all.find? fun f => f.word = word

end LogFormat

/-- One thing said. An entry may carry details only, and then has no message. -/
structure LogEntry where
  level : LogLevel
  message : Option String
  deriving DecidableEq, Repr

namespace LogEntry

def ofMessage (level : LogLevel) (message : String) : LogEntry where
  level := level
  message := some message

end LogEntry

structure Logger where
  level : LogLevel
  format : LogFormat
  deriving DecidableEq, Repr

namespace Logger

def initial : Logger where
  level := .info
  format := .plain

/-- The logger of two words; a word that is no level counts as `info`, a word that is no format as
`text`. -/
def ofWords (level format : String) : Logger where
  level := (LogLevel.ofWord? level).getD .info
  format := (LogFormat.ofWord? format).getD .text

def admits (l : Logger) (e : LogEntry) : Bool :=
  e.level.rank ≤ l.level.rank

/-- What the plain format shows of an entry; the other formats show nothing here. -/
def plainText (l : Logger) (e : LogEntry) : String :=
  match l.format, e.message with
  | .plain, some message => if l.admits e then message ++ "\n" else ""
  | _, _ => ""

end Logger
end LineRpc
