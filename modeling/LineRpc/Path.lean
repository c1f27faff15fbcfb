import LineRpc.Text.Quoted

/-!
# Path — absolute and relative paths

Paths are names separated by slashes. Resolving removes empty names, single dots, and names that are
followed by two dots; above the root there is the root again.

- `Path.names`   : the names of a path
- `Path.resolve` : a path seen from a directory
- `Path.parent`  : the directory of a path
- `Path.address` : a path as part of a web address
-/

namespace LineRpc
namespace Path

def cut : List Char → List (List Char)
  | [] => [[]]
  | c :: cs =>
      if c = '/' then [] :: cut cs
      else
        match cut cs with
        | [] => [[c]]
        | name :: names => (c :: name) :: names

/-- The names of a path, empty ones included. -/
def names (path : String) : List String :=
  (cut path.toList).map String.ofList

def isAbsolute (path : String) : Bool :=
  path.toList.head? = some '/'

/-- Follow one name from a directory, given by its names with the last one first. -/
def follow (directory : List String) (name : String) : List String :=
  if name = "" ∨ name = "." then directory
  else if name = ".." then directory.drop 1
  else name :: directory

/-- The directory or file that names lead to from a directory; names with the last one first. -/
def walk (directory : List String) (names : List String) : List String :=
  names.foldl follow directory

/-- The text of a path, given by its names with the last one first. -/
def text (names : List String) : String :=
  "/" ++ "/".intercalate names.reverse

/-- A path seen from a directory, which is itself seen from the root. -/
def resolve (directory path : String) : String :=
  if isAbsolute path then text (walk [] (names path))
  else text (walk (walk [] (names directory)) (names path))

def parent (path : String) : String :=
  text ((walk [] (names path)).drop 1)

/-! ## Addresses -/

/-- The visible characters that an address spells by their numbers. -/
def spelledOut : List Char :=
  ['"', '#', '%', '<', '>', '?', '\\', '^', '\x60', '{', '}']

/-- An octet spelled by its number. -/
def percent (b : UInt8) : List Char :=
  ['%', Text.hexUpper (b.toNat / 16), Text.hexUpper (b.toNat % 16)]

/-- A character of an address: itself, or its octets by their numbers. -/
def addressChar (c : Char) : List Char :=
  if c.toNat ≤ 0x20 || 0x7f ≤ c.toNat || spelledOut.contains c then
    (String.utf8EncodeChar c).flatMap percent
  else [c]

def address (path : String) : String :=
  String.ofList (path.toList.flatMap addressChar)

/-- What follows the last point of the last name, with the point. A point that begins the name does
not count. -/
def extension (path : String) : String :=
  let name := (names path).getLastD ""
  let tail := name.toList.reverse.takeWhile (· ≠ '.')
  if name.toList.length ≤ tail.length + 1 then ""
  else String.ofList ('.' :: tail.reverse)

end Path
end LineRpc
