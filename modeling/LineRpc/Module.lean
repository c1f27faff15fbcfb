import LineRpc.FileTree
import LineRpc.Registry

/-!
# Module — functions from module files

A module file exports members under names, and possibly a default member, which may be an object
with members of its own. The functions among them are registered: those of the default object first,
then the named ones, which win. A function is called on what it was taken from.

Functions are gathered in an object by plain assignment. Under the reserved key that adds nothing:
the object inherits from the function instead, and then a few names cannot be assigned any more.

- `Namespace`               : what a module file exports
- `Gathered.add`            : gather one function
- `Namespace.functions`     : the functions to register
- `ModuleSource.load`       : what a file exports, if it loads
- `FileTree.load`           : the same for the file at the end of a path
- `ModuleSpec`              : the name and the file of a module
- `Registry.registerFiles`  : load and register module files
-/

namespace LineRpc

/-- A function of a module file: it is given what it is called on. -/
abbrev Method :=
  Value → Callable

/-- A member: a function, or any other value. -/
inductive Member
  | value (v : Value)
  | method (m : Method)

/-- A default export: a single member, or an object with members. -/
inductive DefaultExport
  | single (m : Member)
  | object (members : List (String × Member))

structure Namespace where
  named : List (String × Member)
  fallback : Option DefaultExport

def Member.toValue (name : String) : Member → Value
  | .value v => v
  | .method _ => .namedFunction name

def objectOf (members : List (String × Member)) : Value :=
  .mapping (Mapping.ofEntries (members.map fun (name, m) => (name, m.toValue name)))

def DefaultExport.toValue : DefaultExport → Value
  | .single m => m.toValue "default"
  | .object members => objectOf members

/-- The functions among members, called on an object. -/
def boundFunctions (self : Value) (members : List (String × Member)) : List (String × Callable) :=
  members.filterMap fun (name, m) =>
    match m with
    | .method f => some (name, f self)
    | .value _ => none

/-! ## Gathering functions -/

inductive AssignmentError
  /-- Functions have a property of this name, which is only read. -/
  | readOnly (name : String)
  /-- Functions keep the property of this name to themselves. -/
  | guarded
  deriving DecidableEq, Repr

def AssignmentError.message : AssignmentError → String
  | .readOnly name => s!"Cannot assign to read only property '{name}' of object '[object Object]'"
  | .guarded =>
      "'caller', 'callee', and 'arguments' properties may not be accessed on strict mode functions " ++
        "or the arguments objects for calls to them"

def AssignmentError.of? (name : String) : Option AssignmentError :=
  if ["length", "name"].contains name then some (.readOnly name)
  else if ["caller", "arguments"].contains name then some .guarded
  else none

/-- The functions gathered so far, and whether the object that holds them inherits from one. -/
structure Gathered where
  table : Table Callable
  inherits : Bool

namespace Gathered

def empty : Gathered where
  table := []
  inherits := false

/-- What stands against a name: only a name that the object does not have yet is looked up in what
it inherits from. -/
def refusal? (g : Gathered) (name : String) : Option AssignmentError :=
  if g.inherits && (g.table.lookup name).isNone then AssignmentError.of? name else none

def add (g : Gathered) (name : String) (f : Callable) : Except AssignmentError Gathered :=
  if name = Mapping.reservedKey then .ok { g with inherits := true }
  else
    match g.refusal? name with
    | some e => .error e
    | none => .ok { g with table := g.table.put name f }

def addAll (g : Gathered) (entries : List (String × Callable)) : Except AssignmentError Gathered :=
  entries.foldlM (fun g e => g.add e.1 e.2) g

end Gathered

namespace Namespace

/-- The members by name, the default export among them. -/
def exports (n : Namespace) : List (String × Member) :=
  n.named ++
    match n.fallback with
    | none => []
    | some (.single m) => [("default", m)]
    | some (.object members) => [("default", .value (objectOf members))]

def self (n : Namespace) : Value :=
  objectOf n.exports

def defaultFunctions (n : Namespace) : List (String × Callable) :=
  match n.fallback with
  | some (.object members) => boundFunctions (objectOf members) (Mapping.ofEntries members)
  | _ => []

/-- The exported functions, by name. -/
def namedFunctions (n : Namespace) : List (String × Callable) :=
  boundFunctions n.self (n.exports.mergeSort fun a b => Text.unitLe a.1 b.1)

/-- The functions to register: a named function wins over one of the default object. -/
def functions (n : Namespace) : Except AssignmentError (Table Callable) :=
  (Gathered.empty.addAll (n.defaultFunctions ++ n.namedFunctions)).map Gathered.table

end Namespace

/-! ## Loading a file -/

inductive ImportError
  | notFound (path : String)
  | isDirectory (path : String)
  /-- The address holds a separator that is spelled by its number. -/
  | separator (address : String)
  | unknownExtension (extension path : String)
  /-- A file of data, which is not loaded without saying so. -/
  | data (address : String)
  /-- A script cannot export. -/
  | exportInScript
  /-- The file failed on its own. -/
  | raised (message : String)
  deriving DecidableEq, Repr

def ImportError.message : ImportError → String
  | .notFound path => s!"Cannot find module '{path}'"
  | .isDirectory path => s!"Directory import '{path}' is not supported resolving ES modules"
  | .separator address =>
      s!"Invalid module \"{address}\" must not include encoded \"/\" or \"\\\" characters"
  | .unknownExtension extension path => s!"Unknown file extension \"{extension}\" for {path}"
  | .data address => s!"Module \"file://{address}\" needs an import attribute of \"type: json\""
  | .exportInScript => "Unexpected token 'export'"
  | .raised message => message

inductive ModuleFormat
  | module
  | script
  | data
  deriving DecidableEq, Repr

def ModuleFormat.ofExtension? (extension : String) : Option ModuleFormat :=
  if ["", ".mjs", ".js", ".mts", ".ts"].contains extension then some .module
  else if [".cjs", ".cts"].contains extension then some .script
  else if extension = ".json" then some .data
  else none

/-- A module file: what it exports, and the failure that it raises when it is loaded, if any. -/
structure ModuleSource where
  exports : Namespace
  failure : Option String

namespace ModuleSource

def empty : ModuleSource where
  exports := ⟨[], none⟩
  failure := none

def hasExports (s : ModuleSource) : Bool :=
  !s.exports.exports.isEmpty

/-- What a file exports, if it does not fail. -/
def run (s : ModuleSource) : Except ImportError Namespace :=
  match s.failure with
  | some message => .error (.raised message)
  | none => .ok s.exports

/-- What the file under a path exports, if it loads. -/
def load (path : String) (s : ModuleSource) : Except ImportError Namespace :=
  let address := Path.address path
  let extension := Path.extension address
  match ModuleFormat.ofExtension? extension with
  | none => .error (.unknownExtension extension path)
  | some .data => .error (.data address)
  | some .script => if s.hasExports then .error .exportInScript else s.run
  | some .module => s.run

end ModuleSource

/-- Load the module file at the end of a path. The path is resolved by its names alone. -/
def FileTree.load (t : FileTree ModuleSource) (path : String) : Except ImportError Namespace :=
  let names := FileTree.place t.home path
  let path := Path.text names.reverse
  if path.toList.contains '\\' then .error (.separator (Path.address path))
  else
    match t.nodeAt? names with
    | none => .error (.notFound path)
    | some .directory => .error (.isDirectory path)
    | some (.file source) => source.load path

/-! ## Registering -/

/-- The name under which a module file is registered. -/
structure ModuleSpec where
  name : String
  path : String
  deriving DecidableEq, Repr

inductive LoadError
  /-- The file cannot be found, or fails on its own. -/
  | failed (path : String) (e : ImportError)
  /-- Nothing that it exports is a function. -/
  | noFunctions (path : String)
  /-- Its functions cannot be gathered. -/
  | unassignable (e : AssignmentError)
  deriving DecidableEq, Repr

def LoadError.message : LoadError → String
  | .failed path e => s!"cannot load module {path}: " ++ e.message
  | .noFunctions path => s!"module {path} exports no functions"
  | .unassignable e => e.message

/-- The class of an error: only a failed assignment is not one of the settings. -/
def LoadError.errorClass : LoadError → ErrorClass
  | .failed _ _ => .config
  | .noFunctions _ => .config
  | .unassignable _ => .type

/-- The functions of a module file, given what loading it gave. -/
def functionsOf (path : String) :
    Except ImportError Namespace → Except LoadError (List (String × Callable))
  | .error e => .error (.failed path e)
  | .ok n =>
      match n.functions with
      | .error e => .error (.unassignable e)
      | .ok functions => if functions.isEmpty then .error (.noFunctions path) else .ok functions

/-- A registry after some module files: what is registered so far, how many files that were, and
what stopped it. -/
structure Loading where
  registry : Registry
  loaded : Nat
  error : Option LoadError

/-- Load and register module files, up to the first that fails. -/
def Registry.registerFiles {m : Type → Type} [Monad m]
    (load : String → m (Except ImportError Namespace)) (r : Registry) :
    List ModuleSpec → m Loading
  | [] => pure ⟨r, 0, none⟩
  | spec :: specs => do
      match functionsOf spec.path (← load spec.path) with
      | .error e => pure ⟨r, 0, some e⟩
      | .ok functions => do
          let rest ← registerFiles load (r.register spec.name functions) specs
          pure { rest with loaded := rest.loaded + 1 }

end LineRpc
