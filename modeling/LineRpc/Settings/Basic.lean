import LineRpc.Codec.Capabilities
import LineRpc.FileTree
import LineRpc.Module
import LineRpc.Settings.Environment
import LineRpc.Settings.File
import LineRpc.Text.Blank

/-!
# Settings — from four sources to one

Each setting has up to four sources: the command line, the environment, a file, and a default, in
this order. Module files of the file come first, those of the command line after them, so that they
win.

- `ModuleSpec.parse`   : a module file given as `name=path`
- `Overrides`          : the settings of the command line
- `Settings.resolve`   : the settings of all sources
- `Settings.load`      : the same, after reading the file
-/

namespace LineRpc

/-! ## Errors -/

inductive SettingsError
  /-- A module file that is not given as `name=path`. -/
  | badModule (spec : String)
  | unreadable (path : String) (e : FileError)
  | notJson (path : String)
  | invalid (path : String) (problems : List Problem)
  deriving DecidableEq, Repr

def SettingsError.message : SettingsError → String
  | .badModule spec => s!"invalid module spec '{spec}': expected name=path"
  | .unreadable path e => s!"cannot read config {path}: " ++ e.message path
  | .notJson path => s!"config {path} is not valid JSON: the file is no JSON text"
  | .invalid path problems => s!"invalid config {path}: " ++ Problem.summary problems

/-! ## Module files -/

/-- Read `name=path`; the first equals sign divides them, and neither may be empty. -/
def ModuleSpec.parse (spec : String) : Except SettingsError ModuleSpec :=
  let chars := spec.toList
  let name := Text.trimChars (chars.takeWhile (· ≠ '='))
  let path := Text.trimChars ((chars.dropWhile (· ≠ '=')).drop 1)
  if name.isEmpty || path.isEmpty then .error (.badModule spec)
  else .ok ⟨String.ofList name, String.ofList path⟩

/-! ## The command line -/

structure Overrides where
  config : Option String
  arrays : Option Bool
  tables : Option Bool
  modules : List ModuleSpec
  logLevel : Option String
  logFormat : Option String
  deriving DecidableEq, Repr

namespace Overrides

def empty : Overrides where
  config := none
  arrays := none
  tables := none
  modules := []
  logLevel := none
  logFormat := none

def text? : Option Value → Option String
  | some (.str s) => some s
  | _ => none

/-- An option that can only be switched off. -/
def switchedOff? : Option Value → Option Bool
  | some (.bool false) => some false
  | _ => none

def texts : Option Value → List String
  | some (.list items) => items.filterMap fun v => text? (some v)
  | _ => []

def isOn : Option Value → Bool
  | some (.bool true) => true
  | _ => false

def ofOptions (options : Value) : Except SettingsError Overrides := do
  let modules ← (texts (options.field? "module")).mapM ModuleSpec.parse
  pure
    { config := text? (options.field? "config")
      arrays := switchedOff? (options.field? "arrays")
      tables := switchedOff? (options.field? "tables")
      modules := modules
      logLevel :=
        if isOn (options.field? "verbose") then some "debug" else text? (options.field? "logLevel")
      logFormat := text? (options.field? "logFormat") }

end Overrides

/-! ## All sources together -/

/-- The settings of a worker. The words for level and format of the log may be any. -/
structure Settings where
  capabilities : Capabilities
  modules : List ModuleSpec
  logLevel : String
  logFormat : String
  deriving DecidableEq, Repr

namespace Settings

/-- A flag that the command line can only switch off; else the environment, then the file, and
else it is on. -/
def flag (commandLine environment file : Option Bool) : Bool :=
  if commandLine = some false then false else (environment.or file).getD true

/-- A text from the command line, the environment or the file, or else the default. -/
def text (commandLine environment file : Option String) (default : String) : String :=
  (commandLine.or (environment.or file)).getD default

def defaultLogLevel : String :=
  "info"

def defaultLogFormat : String :=
  "text"

/-- The settings of all sources. Paths in the file are seen from `directory`. -/
def resolve (o : Overrides) (env : Environment) (file : SettingsFile) (directory : String) :
    Settings where
  capabilities :=
    Capabilities.ofFlags (some (flag o.arrays (env.flag .arrays) file.arrays))
      (some (flag o.tables (env.flag .tables) file.tables))
  modules :=
    (file.modules.map fun (name, path) => ⟨name, Path.resolve directory path⟩) ++ o.modules
  logLevel := text o.logLevel (env.text .logLevel) file.logLevel defaultLogLevel
  logFormat := text o.logFormat (env.text .logFormat) file.logFormat defaultLogFormat

/-- Take over the content of a file as JSON, if it has the right form. -/
def checkFile (path : String) : Except FileError String → Except SettingsError Json
  | .error e => .error (.unreadable path e)
  | .ok content =>
      match Json.parse? content with
      | none => .error (.notJson path)
      | some j =>
          match SettingsFile.problems j with
          | [] => .ok j
          | problems => .error (.invalid path problems)

/-- The path of the settings file, if one is named; an empty path names none. -/
def filePath? (o : Overrides) (env : Environment) : Option String :=
  (o.config.or (env.text .config)).filter fun path => path ≠ ""

/-- The settings of all sources, after reading the file if there is one. `directory` is the one that
relative paths are seen from. -/
def load {m : Type → Type} [Monad m] (fileText : String → m (Except FileError String))
    (o : Overrides) (env : Environment) (directory : String) :
    m (Except SettingsError Settings) :=
  match filePath? o env with
  | none => pure (.ok (resolve o env .empty directory))
  | some path => do
      let content ← fileText path
      pure <| (checkFile path content).map fun j =>
        resolve o env (.ofJson j) (Path.parent (Path.resolve directory path))

end Settings
end LineRpc
