import LineRpc.CommandLine.Options
import LineRpc.Library.Standard
import LineRpc.Session
import LineRpc.Settings.Basic

/-!
# Program — the commands

The main command serves requests from the input. `modules` lists what can be called, and `call`
answers one request that is given on the command line. Whatever a command does is told as a list of
effects and an exit code, so that only the outermost layer writes anything.

- `Host`            : what a command needs from its surroundings
- `Effect`, `Run`   : what a command does
- `Program.start`   : carry out a command line, up to the reading of input
- `Program.run`     : carry out a command line, with all of its input
-/

namespace LineRpc
namespace CommandLine

/-! ## Surroundings and effects -/

structure Host (m : Type → Type) where
  environment : Environment
  directory : String
  fileText : String → m (Except FileError String)
  loadModule : String → m (Except ImportError Namespace)

inductive Effect
  /-- Write to the output. -/
  | output (text : String)
  /-- Write beside the output. -/
  | error (text : String)
  /-- Say something through a logger. -/
  | note (logger : Logger) (entry : LogEntry)

/-- What a command does, and the code that it ends with if it ends at all. -/
structure Run where
  effects : List Effect
  code : Option Nat

inductive ExitCode
  | success
  | failure
  | invalidArguments
  | settingsFailure
  | transportFailure
  deriving DecidableEq, Repr

def ExitCode.number : ExitCode → Nat
  | .success => 0
  | .failure => 1
  | .invalidArguments => 2
  | .settingsFailure => 3
  | .transportFailure => 4

/-- The code for module files that cannot be registered: an error of the settings has its own. -/
def ExitCode.ofLoadError (e : LoadError) : ExitCode :=
  if e.errorClass = .config then .settingsFailure else .failure

namespace Run

def output (r : Run) : String :=
  String.join (r.effects.map fun
    | .output text => text
    | _ => "")

/-- What is seen beside the output, with the plain format of the log. -/
def errors (r : Run) : String :=
  String.join (r.effects.map fun
    | .output _ => ""
    | .error text => text
    | .note logger entry => logger.plainText entry)

/-- Do other things before. -/
def after (effects : List Effect) (r : Run) : Run :=
  { r with effects := effects ++ r.effects }

/-- End with a code and, unless it is empty, a last message: an information if all went well, else
an error. -/
def exit (logger : Logger) (code : Nat) (message : String) : Run where
  effects :=
    if message = "" then []
    else [.note logger (.ofMessage (if code = 0 then .info else .error) message)]
  code := some code

/-- End with a message that does not go through a logger. -/
def abort (code : ExitCode) (message : String) : Run where
  effects := [.error (message ++ "\n")]
  code := some code.number

def endless : Run where
  effects := []
  code := none

end Run

/-! ## The command line -/

def commonOptions : List OptionSpec :=
  [ ⟨none, "--config", "--config <path>", "config", .one⟩,
    ⟨none, "--module", "--module <name=path...>", "module", .many⟩,
    ⟨none, "--no-arrays", "--no-arrays", "arrays", .switch false⟩,
    ⟨none, "--no-tables", "--no-tables", "tables", .switch false⟩,
    ⟨some "-v", "--verbose", "-v, --verbose", "verbose", .switch true⟩,
    ⟨none, "--log-level", "--log-level <level>", "logLevel", .one⟩,
    ⟨none, "--log-format", "--log-format <format>", "logFormat", .one⟩ ]

def program : ProgramSpec where
  main :=
    { name := "wirebridge"
      options := ⟨some "-V", "--version", "-V, --version", "version", .version⟩ :: commonOptions
      required := [] }
  subcommands :=
    [ { name := "modules"
        options := commonOptions
        required := [] },
      { name := "call"
        options := ⟨none, "--kwargs", "--kwargs <json>", "kwargs", .one⟩ :: commonOptions
        required := ["module", "function"] } ]

def version : String :=
  "0.1.0"

def usage : String :=
  "Usage: wirebridge [options] [command]\n\n" ++
    "Line-oriented JSON bridge: one request per stdin line, one response per stdout line\n\n" ++
    "Commands:\n" ++
    "  modules [options]                               List registered modules and their functions\n" ++
    "  call [options] <module> <function> [args...]  Run one request and print the response line\n"

/-- What a command line does that is not carried out. -/
def Halt.run : Halt → Run
  | .version => ⟨[.output (CommandLine.version ++ "\n")], some 0⟩
  | .help => ⟨[.output CommandLine.usage], some 0⟩
  | .missingValue usage => .abort .failure s!"error: option '{usage}' argument missing"
  | .unknownOption word => .abort .failure s!"error: unknown option '{word}'"
  | .missingArgument name => .abort .failure s!"error: missing required argument '{name}'"

/-- A word as a value: a JSON text as what it spells, any other as it is. -/
def wordValue (word : String) : Value :=
  match Json.parse? word with
  | some j => .ofJson j
  | none => .str word

/-! ## Commands -/

namespace Program

variable {m : Type → Type} [Monad m]

/-- A worker with the standard modules and those of the settings, a logger, and what has been said
so far; or the end, if there are no settings or a module file fails. -/
def prepare (host : Host m) (options : Value) :
    m (Except Run (Worker × Logger × List Effect)) := do
  match Overrides.ofOptions options with
  | .error e => pure (.error (.abort .settingsFailure e.message))
  | .ok overrides =>
      match ← Settings.load host.fileText overrides host.environment host.directory with
      | .error e => pure (.error (.abort .settingsFailure e.message))
      | .ok settings => do
          let logger := Logger.ofWords settings.logLevel settings.logFormat
          let standard := Registry.empty.addStandard settings.capabilities
          let loading ← standard.registerFiles host.loadModule settings.modules
          let said := List.replicate loading.loaded
            (Effect.note logger (.ofMessage .debug "module loaded"))
          match loading.error with
          | some e => pure (.error (.after said (.abort (ExitCode.ofLoadError e) e.message)))
          | none => pure (.ok (⟨loading.registry, settings.capabilities⟩, logger, said))

def listing (w : Worker) : Json :=
  .obj [("capabilities", w.capabilities.json),
    ("modules", .arr (w.registry.listing.map fun l =>
      .obj [("module", .str l.module), ("functions", Json.strings l.functions)]))]

def runModules (w : Worker) : Run where
  effects := [.output ((listing w).pretty 2 ++ "\n")]
  code := some ExitCode.success.number

def callRequest (operands : List String) (kwargs : Option Value) : Value :=
  .mapping ([("m", .str (operands.getD 0 "")), ("f", .str (operands.getD 1 "")),
    ("a", .list ((operands.drop 2).map wordValue))] ++
      match kwargs with
      | some k => [("k", k)]
      | none => [])

/-- The words of a raised value that ends a command. -/
def failureText : Value → Except Fault String
  | .error _ message _ => message >>= Value.toText
  | .sealed failure => .error failure
  | v => v.string

/-- The code of a raised value that ends a command: an error of the settings has its own. -/
def exitCode : Value → ExitCode
  | .error .config _ _ => .settingsFailure
  | _ => .failure

/-- The end of a command that fails. A raised value is told in its words; one that has none ends the
command too, with what the ground makes of it. -/
def fail : Fault → Run
  | .endless => .endless
  | .raised v =>
      match failureText v with
      | .ok text => .abort (exitCode v) text
      | .error (.raised _) => ⟨[], some ExitCode.failure.number⟩
      | .error .endless => .endless

/-- Answer one request. -/
def runCall (w : Worker) (logger : Logger) (request : Value) : Run :=
  let course := w.course request
  let said := (course.notes w).map (Effect.note logger)
  match course.response w with
  | .error failure => .after said (fail failure)
  | .ok response =>
      let code := if response.isError then ExitCode.failure else ExitCode.success
      .after said ⟨[.output response.line], some code.number⟩

def keywords? (options : Value) : Option Value :=
  (Overrides.text? (options.field? "kwargs")).map wordValue

/-- What is left to do after a command line has been read: nothing, or to serve. -/
inductive Plan
  | done (r : Run)
  | serve (w : Worker) (logger : Logger) (said : List Effect)

def perform (host : Host m) (i : Invocation) : m Plan := do
  let kwargs := keywords? i.options
  if kwargs.any fun k => !k.isRecord then
    pure (.done (.exit .initial ExitCode.invalidArguments.number "--kwargs must be a JSON object"))
  else
    match ← prepare host i.options with
    | .error r => pure (.done r)
    | .ok (w, logger, said) =>
        if i.command = "modules" then pure (.done (.after said (runModules w)))
        else if i.command = "call" then
          pure (.done (.after said (runCall w logger (callRequest i.operands kwargs))))
        else
          pure (.serve w logger
            (said ++ [.note logger (.ofMessage .debug "modules registered")]))

/-- Carry out a command line, up to the reading of input. -/
def start (host : Host m) (words : List String) : m Plan :=
  match program.parse words with
  | .error h => pure (.done h.run)
  | .ok i => perform host i

/-- The end of a session: a broken output is reported, and so is a line without an answer. -/
def finish (logger : Logger) (ending : Ending) : Run :=
  let report (reason : String) : Run :=
    .exit logger ExitCode.transportFailure.number s!"transport failed: {reason}"
  match ending with
  | .closed => ⟨[], some ExitCode.success.number⟩
  | .broken => report Session.brokenPipe
  | .failed .endless => .endless
  | .failed (.raised v) =>
      match failureText v with
      | .ok reason => report reason
      | .error failure => fail failure

/-- Carry out a plan, given all of the input and the number of writes that the output accepts. -/
def Plan.run (input : List Octets) (room : Option Nat) : Plan → Run
  | .done r => r
  | .serve w logger said =>
      let t := Session.run w room (Session.linesOf input)
      .after (said ++ t.written.map Effect.output ++ t.notes.map (Effect.note logger))
        (finish logger t.ending)

/-- Carry out a command line, with all of its input. -/
def run (host : Host m) (words : List String) (input : List Octets) (room : Option Nat) : m Run := do
  let plan ← start host words
  pure (plan.run input room)

end Program
end CommandLine
end LineRpc
