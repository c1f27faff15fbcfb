import LineRpc.Text.Blank

/-!
# Environment — settings from variables

A few variables of the environment hold settings. An empty variable counts as absent. A flag is one
of a few words, in any case and with blanks around it; any other word counts as absent too.

- `Variable`         : the variables, with their names
- `Environment.text` : the text of a variable
- `Environment.flag` : the flag of a variable
-/

namespace LineRpc

inductive Variable
  | config
  | arrays
  | tables
  | logLevel
  | logFormat
  deriving DecidableEq, Repr

def Variable.all : List Variable :=
  [.config, .arrays, .tables, .logLevel, .logFormat]

def Variable.name : Variable → String
  | .config => "WIREBRIDGE_CONFIG"
  | .arrays => "WIREBRIDGE_ARRAYS"
  | .tables => "WIREBRIDGE_TABLES"
  | .logLevel => "WIREBRIDGE_LOG_LEVEL"
  | .logFormat => "WIREBRIDGE_LOG_FORMAT"

/-- The variables of the surroundings, by name. -/
abbrev Environment :=
  String → Option String

namespace Environment

def yesWords : List String :=
  ["1", "true", "yes", "on"]

def noWords : List String :=
  ["0", "false", "no", "off"]

/-- The flag that a text stands for, if it is one of the words. -/
def flagOf? (text : String) : Option Bool :=
  let word := String.ofList ((Text.trimChars text.toList).map Char.toLower)
  if yesWords.contains word then some true
  else if noWords.contains word then some false
  else none

/-- The text of a variable; an empty one counts as absent. -/
def text (env : Environment) (v : Variable) : Option String :=
  (env v.name).filter fun s => s ≠ ""

def flag (env : Environment) (v : Variable) : Option Bool :=
  (env.text v).bind flagOf?

end Environment
end LineRpc
