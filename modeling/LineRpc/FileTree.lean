import LineRpc.Path
import LineRpc.Text.Units

/-!
# FileTree — files under their paths

Files stand in directories, and a path is walked name by name. A walk ends in a file, in a
directory, or at the first name that cannot be followed.

- `FileError`       : why a file cannot be read
- `FileTree`        : files under their places
- `FileTree.find`   : what stands at the end of a path
- `FileTree.read`   : the file at the end of a path
-/

namespace LineRpc

/-! ## Errors -/

inductive FileError
  | notFound
  | isDirectory
  | notDirectory
  /-- A name, or the whole path, has too many octets. -/
  | nameTooLong
  /-- A path holds the character that ends paths. -/
  | nullCharacter
  deriving DecidableEq, Repr

namespace FileError

/-- How many units of a quoted path a message shows. -/
def shownUnits : Nat :=
  128

/-- A quoted path, cut where it is too long. -/
def shown (path : String) : String :=
  let text := Text.quoted path
  if Text.unitLength text ≤ shownUnits then text else Text.takeUnits shownUnits text ++ "..."

def message (path : String) : FileError → String
  | .notFound => s!"ENOENT: no such file or directory, open '{path}'"
  | .isDirectory => "EISDIR: illegal operation on a directory, read"
  | .notDirectory => s!"ENOTDIR: not a directory, open '{path}'"
  | .nameTooLong => s!"ENAMETOOLONG: name too long, open '{path}'"
  | .nullCharacter =>
      "The argument 'path' must be a string, Uint8Array, or URL without null bytes. Received " ++
        shown path

end FileError

/-! ## Trees -/

inductive FileNode (α : Type)
  | directory
  | file (content : α)

/-- Files under the names that lead to them from the root. A directory is there if something is
in it. -/
structure FileTree (α : Type) where
  files : List (List String × α)
  /-- The names of the directory that relative paths start from. -/
  home : List String

namespace FileTree

variable {α : Type}

/-- The place of a path, its names from the root. -/
def place (home : List String) (path : String) : List String :=
  (Path.walk (if Path.isAbsolute path then [] else home.reverse) (Path.names path)).reverse

def ofPaths (home : String) (files : List (String × α)) : FileTree α :=
  let home := place [] home
  ⟨files.map fun (path, content) => (place home path, content), home⟩

/-- What stands at a place; of two files, the later one. -/
def nodeAt? (t : FileTree α) (names : List String) : Option (FileNode α) :=
  match t.files.reverse.lookup names with
  | some content => some (.file content)
  | none =>
      if names.isPrefixOf t.home || t.files.any fun (p, _) => names.isPrefixOf p then
        some .directory
      else none

def maxName : Nat :=
  255

def maxPath : Nat :=
  4095

/-- Follow names that must all be there, from a place given with its last name first. -/
def follow (t : FileTree α) : (way : List String) → List String → Except FileError (FileNode α)
  | way, [] =>
      match t.nodeAt? way.reverse with
      | some n => .ok n
      | none => .error .notFound
  | way, name :: names =>
      match t.nodeAt? way.reverse with
      | none => .error .notFound
      | some (.file _) => .error .notDirectory
      | some .directory =>
          if maxName < name.utf8ByteSize then .error .nameTooLong
          else t.follow (Path.follow way name) names

def find (t : FileTree α) (path : String) : Except FileError (FileNode α) :=
  if path.toList.contains '\x00' then .error .nullCharacter
  else if path = "" then .error .notFound
  else if maxPath < path.utf8ByteSize then .error .nameTooLong
  else t.follow (if Path.isAbsolute path then [] else t.home.reverse) (Path.names path)

def read (t : FileTree α) (path : String) : Except FileError α :=
  match t.find path with
  | .error e => .error e
  | .ok .directory => .error .isDirectory
  | .ok (.file content) => .ok content

end FileTree
end LineRpc
