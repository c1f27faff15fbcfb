import LineRpc.Json.Display
import LineRpc.Json.Parser
import LineRpc.Schema

/-!
# File — settings from a file

A settings file holds a JSON mapping. Fields of it that are known must have the right form; all
others are read over. A list passes for a mapping: its items are fields named by their numbers.

- `SettingsFile.problems` : what is wrong with the content of a file
- `SettingsFile.ofJson`   : the settings in it
-/

namespace LineRpc

/-- The settings in a file. Module files are given by name and path. -/
structure SettingsFile where
  arrays : Option Bool
  tables : Option Bool
  modules : List (String × String)
  logLevel : Option String
  logFormat : Option String
  deriving DecidableEq, Repr

namespace SettingsFile

def empty : SettingsFile where
  arrays := none
  tables := none
  modules := []
  logLevel := none
  logFormat := none

/-! ## Fields -/

/-- The fields of a mapping, or the numbered items of a list. -/
def fields : Json → List (String × Json)
  | .obj entries => entries
  | .arr items => items.zipIdx.map fun (j, i) => (toString i, j)
  | _ => []

def field? (j : Json) (key : String) : Option Json :=
  (fields j).lookup key

/-! ## Checking -/

/-- A field must be a truth value, or absent. -/
def flagProblems (path : List Step) : Option Json → List Problem
  | none => []
  | some (.bool _) => []
  | some j => [⟨path, "boolean", j.display⟩]

/-- A field must be a mapping, or absent. -/
def sectionProblems (path : List Step) (inner : Json → List Problem) : Option Json → List Problem
  | none => []
  | some j => Schema.object path (.ofJson j) (inner j)

/-- A field must be a text, or absent. -/
def textProblems (path : List Step) (j : Option Json) : List Problem :=
  Schema.optional (Schema.string path) (j.map Value.ofJson)

/-- What is wrong with the content of a file, field by field in the order of their names. -/
def problems (j : Json) : List Problem :=
  Schema.object [] (.ofJson j) <|
    flagProblems [.key "arrays"] (field? j "arrays") ++
    sectionProblems [.key "log"]
      (fun log =>
        textProblems [.key "log", .key "format"] (field? log "format") ++
        textProblems [.key "log", .key "level"] (field? log "level"))
      (field? j "log") ++
    sectionProblems [.key "modules"]
      (fun modules => (fields modules).flatMap fun (name, path) =>
        textProblems [.key "modules", .key name] (some path))
      (field? j "modules") ++
    flagProblems [.key "tables"] (field? j "tables")

/-! ## Reading -/

def flag? : Option Json → Option Bool
  | some (.bool b) => some b
  | _ => none

def text? : Option Json → Option String
  | some (.str s) => some s
  | _ => none

def ofJson (j : Json) : SettingsFile where
  arrays := flag? (field? j "arrays")
  tables := flag? (field? j "tables")
  modules :=
    ((field? j "modules").elim [] fields).filterMap fun (name, path) =>
      (text? (some path)).map fun s => (name, s)
  logLevel := (field? j "log").bind fun log => text? (field? log "level")
  logFormat := (field? j "log").bind fun log => text? (field? log "format")

end SettingsFile
end LineRpc
