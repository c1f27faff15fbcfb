import LineRpc.Value.Basic

/-!
# Options — reading the words of a command line

A command line is a list of words. A word that starts with a dash is an option; some options take a
value, from the word after them or from behind an equals sign. Two dashes alone end the options. An
option that is not known is kept, with what follows it, for the subcommand that may be named later.

- `OptionSpec`, `CommandSpec` : what a command understands
- `Words`                     : what has been read of a command line
- `CommandSpec.read`          : read the words of one command
- `ProgramSpec.parse`         : read a whole command line
-/

namespace LineRpc
namespace CommandLine

/-! ## What a command understands -/

inductive OptionKind
  /-- Nothing: the option sets a truth value. -/
  | switch (value : Bool)
  /-- One value. -/
  | one
  /-- One value or more, which are collected. -/
  | many
  /-- The version: reading ends here. -/
  | version
  deriving DecidableEq, Repr

/-- An option: its spellings, its description in messages, and the key under which it is kept. -/
structure OptionSpec where
  short : Option String
  long : String
  usage : String
  key : String
  kind : OptionKind
  deriving DecidableEq, Repr

/-- A command: its name, its options and the arguments that it needs. -/
structure CommandSpec where
  name : String
  options : List OptionSpec
  required : List String
  deriving DecidableEq, Repr

/-- A program: a main command and its subcommands. -/
structure ProgramSpec where
  main : CommandSpec
  subcommands : List CommandSpec
  deriving DecidableEq, Repr

inductive Halt
  | version
  | help
  | missingValue (usage : String)
  | unknownOption (word : String)
  | missingArgument (name : String)
  deriving DecidableEq, Repr

def CommandSpec.option? (c : CommandSpec) (word : String) : Option OptionSpec :=
  c.options.find? fun o => o.short = some word || o.long = word

def OptionSpec.takesValue (o : OptionSpec) : Bool :=
  match o.kind with
  | .one => true
  | .many => true
  | _ => false

/-! ## Reading words -/

/-- What has been read of a command line: the values of options, the words that are no options, and
the words from the first unknown option on. `gathering` is the option that still takes values. -/
structure Words where
  values : List (String × Value)
  operands : List String
  unknown : List String
  afterUnknown : Bool
  gathering : Option OptionSpec

namespace Words

def start (values : List (String × Value)) : Words where
  values := values
  operands := []
  unknown := []
  afterUnknown := false
  gathering := none

/-- Keep the value of an option; values of an option that takes many are collected. -/
def keep (w : Words) (o : OptionSpec) (value : Value) : Words :=
  let value :=
    match o.kind, Mapping.get? w.values o.key with
    | .many, some (.list items) => .list (items ++ [value])
    | .many, _ => .list [value]
    | _, _ => value
  { w with values := Mapping.set w.values o.key value }

/-- Put a word where words go at this point. -/
def push (w : Words) (word : String) : Words :=
  if w.afterUnknown then { w with unknown := w.unknown ++ [word] }
  else { w with operands := w.operands ++ [word] }

def pushAll (w : Words) (words : List String) : Words :=
  words.foldl push w

/-- After two dashes all words are taken as they are. -/
def close (w : Words) (words : List String) : Words :=
  if w.afterUnknown then w.pushAll ("--" :: words) else w.pushAll words

end Words

/-- A word that may be an option: a dash with something after it. -/
def isOptionLike (word : String) : Bool :=
  match word.toList with
  | '-' :: _ :: _ => true
  | _ => false

/-- A group of short options: the first of them, and the word for the rest. -/
def cluster? (word : String) : Option (String × List Char) :=
  match word.toList with
  | '-' :: c :: d :: rest => if c = '-' then none else some (String.ofList ['-', c], d :: rest)
  | _ => none

/-- A long option with its value behind an equals sign. -/
def assignment? (word : String) : Option (String × String) :=
  match word.toList with
  | '-' :: '-' :: rest =>
      let name := rest.takeWhile (· ≠ '=')
      match rest.dropWhile (· ≠ '=') with
      | '=' :: value =>
          if name.isEmpty then none
          else some (String.ofList ('-' :: '-' :: name), String.ofList value)
      | _ => none
  | _ => none

inductive Action
  /-- The word is read, and others are left. -/
  | go (w : Words) (rest : List String)
  /-- All words are read. -/
  | stop (w : Words)
  | halt (h : Halt)

/-- Take an option that stands in a word of its own. -/
def takeOption (w : Words) (o : OptionSpec) (rest : List String) : Action :=
  match o.kind with
  | .version => .halt .version
  | .switch b => .go { w.keep o (.bool b) with gathering := none } rest
  | .one =>
      match rest with
      | [] => .halt (.missingValue o.usage)
      | value :: rest => .go { w.keep o (.str value) with gathering := none } rest
  | .many =>
      match rest with
      | [] => .halt (.missingValue o.usage)
      | value :: rest => .go { w.keep o (.str value) with gathering := some o } rest

/-- Take the first option of a group of short ones. The rest of the word is its value, or else a
group again. -/
def takeCluster (w : Words) (o : OptionSpec) (tail : List Char) (rest : List String) : Action :=
  match o.kind with
  | .version => .halt .version
  | .switch b => .go (w.keep o (.bool b)) (String.ofList ('-' :: tail) :: rest)
  | _ => .go (w.keep o (.str (String.ofList tail))) rest

/-- Take a word that is no known option: the name of a subcommand ends the reading, an unknown
option starts the words that are kept for later. -/
def takeOther (subcommands : List String) (w : Words) (word : String) (rest : List String) :
    Action :=
  let w := if isOptionLike word then { w with afterUnknown := true } else w
  if w.operands.isEmpty && w.unknown.isEmpty && subcommands.contains word then
    .stop { w with operands := [word], unknown := rest }
  else
    .go (w.push word) rest

namespace CommandSpec

def step (c : CommandSpec) (subcommands : List String) (w : Words) (word : String)
    (rest : List String) : Action :=
  if word = "--" then .stop (w.close rest)
  else
    match w.gathering, isOptionLike word with
    | some o, false => .go (w.keep o (.str word)) rest
    | _, _ =>
        let w := { w with gathering := none }
        match c.option? word with
        | some o => takeOption w o rest
        | none =>
            match (cluster? word).bind fun (first, tail) => (c.option? first).map (·, tail) with
            | some (o, tail) => takeCluster w o tail rest
            | none =>
                match (assignment? word).bind fun (name, v) => (c.option? name).map (·, v) with
                | some (o, v) =>
                    if o.takesValue then .go (w.keep o (.str v)) rest
                    else takeOther subcommands w word rest
                | none => takeOther subcommands w word rest

/-- The number of characters left to read, each word counted with its end. -/
def size : List String → Nat
  | [] => 0
  | word :: words => word.length + 1 + size words

theorem size_cons (word : String) (words : List String) :
    size (word :: words) = word.length + 1 + size words :=
  rfl

/-- An option takes words off the line and puts none back. -/
theorem size_of_takeOption {w w' : Words} {o : OptionSpec} {rest rest' : List String}
    (h : takeOption w o rest = .go w' rest') : size rest' ≤ size rest := by
  unfold takeOption at h
  split at h
  · cases h
  · cases h; exact Nat.le_refl _
  · cases rest with
    | nil => cases h
    | cons v rest => cases h; simp only [size_cons]; omega
  · cases rest with
    | nil => cases h
    | cons v rest => cases h; simp only [size_cons]; omega

theorem size_of_takeOther {subcommands : List String} {w w' : Words} {word : String}
    {rest rest' : List String} (h : takeOther subcommands w word rest = .go w' rest') :
    size rest' ≤ size rest := by
  unfold takeOther at h
  simp only at h
  split at h
  all_goals
    split at h
    · cases h
    · cases h; exact Nat.le_refl _

theorem length_of_cluster? {word first : String} {tail : List Char}
    (h : cluster? word = some (first, tail)) : tail.length + 2 = word.length := by
  unfold cluster? at h
  split at h
  · split at h
    · cases h
    · cases h
      rename_i hw _
      rw [← String.length_toList, hw]
      simp
  · cases h

/-- Of a cluster one letter goes; what is left of it is a shorter word. -/
theorem size_of_takeCluster {w w' : Words} {o : OptionSpec} {tail : List Char}
    {rest rest' : List String} (h : takeCluster w o tail rest = .go w' rest') :
    size rest' ≤ tail.length + 2 + size rest := by
  unfold takeCluster at h
  split at h
  · cases h
  · cases h
    simp only [size_cons, String.length_ofList, List.length_cons]
    omega
  · cases h; omega

/-- A word that is read leaves less to read. -/
theorem size_of_step {c : CommandSpec} {subcommands : List String} {w w' : Words} {word : String}
    {rest rest' : List String} (h : c.step subcommands w word rest = .go w' rest') :
    size rest' < size (word :: rest) := by
  rw [size_cons]
  unfold step at h
  -- Whatever the word is, one of the three ways to take words off the line was used.
  split at h
  · cases h
  · split at h
    · cases h; omega
    · simp only at h
      split at h
      · have := size_of_takeOption h; omega
      · split at h
        · rename_i hc
          simp only [Option.bind_eq_some_iff, Option.map_eq_some_iff, Prod.mk.injEq] at hc
          obtain ⟨⟨first, tail'⟩, hf, _, _, _, rfl⟩ := hc
          have h₁ := size_of_takeCluster h
          have h₂ := length_of_cluster? hf
          dsimp only at h₁
          omega
        · split at h
          · split at h
            · cases h; omega
            · have := size_of_takeOther h; omega
          · have := size_of_takeOther h; omega

def read (c : CommandSpec) (subcommands : List String) (w : Words) :
    List String → Except Halt Words
  | [] => .ok w
  | word :: rest =>
      match _h : c.step subcommands w word rest with
      | .halt h => .error h
      | .stop w => .ok w
      | .go w rest => read c subcommands w rest
termination_by words => size words
decreasing_by
  exact size_of_step _h

/-- The values of options before any word is read: an option that switches off is on. -/
def defaults (c : CommandSpec) : List (String × Value) :=
  Mapping.ofEntries (c.options.filterMap fun o =>
    match o.kind with
    | .switch false => some (o.key, .bool true)
    | _ => none)

end CommandSpec

/-! ## Whole command lines -/

/-- What a command line asks for: a command, the values of its options, and its arguments. -/
structure Invocation where
  command : String
  options : Value
  operands : List String

def helpWords : List String :=
  ["-h", "--help"]

namespace CommandSpec

/-- Take a command with the words that were read for it: none may be unknown, and no argument may be
missing. -/
def invoke (c : CommandSpec) (w : Words) : Except Halt Invocation :=
  if w.unknown.any helpWords.contains then .error .help
  else
    match w.unknown with
    | word :: _ => .error (.unknownOption word)
    | [] =>
        match c.required[w.operands.length]? with
        | some name => .error (.missingArgument name)
        | none => .ok ⟨c.name, .mapping w.values, w.operands⟩

end CommandSpec

namespace ProgramSpec

/-- Read a whole command line. Options before the name of a subcommand belong to the main command
and are not passed on. -/
def parse (p : ProgramSpec) (words : List String) : Except Halt Invocation := do
  let names := p.subcommands.map (·.name)
  let w ← p.main.read names (.start p.main.defaults) words
  match w.operands with
  | [] => p.main.invoke w
  | name :: operands =>
      match p.subcommands.find? fun c => c.name = name with
      | none => p.main.invoke w
      | some c => do
          let inner ← c.read [] (.start c.defaults) w.unknown
          c.invoke { inner with operands := operands ++ inner.operands }

end ProgramSpec
end CommandLine
end LineRpc
