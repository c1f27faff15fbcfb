import Mathlib.Data.List.Basic
import LineRpc.Settings.Basic

/-!
# Settings — which source wins

Each setting is the first that its sources give: the command line, the environment, the file, and at
last a default. A flag of the command line counts only when it switches off, for there is no option
that switches one on; with options that were really typed, the command line is a source like the
others.

* `firstGiven`         : the first value that a source gives
* `Lowering`           : what is used of putting a text into lower case
* `flag_eq_some_iff`   : which texts of the environment spell a flag
* `Precedence`         : every setting is the first that its sources give
* `resolve_precedence` : settings are so resolved
-/

namespace LineRpc
namespace Settings

variable {lower : List Char → List Char} {b : Bool}

/-! ## Sources in order -/

/-- The first value that a source gives, or else the default. -/
def firstGiven {α : Type} (sources : List (Option α)) (default : α) : α :=
  (sources.findSome? id).getD default

/-- A flag of the command line as a source: only one that is switched off is given. -/
def switchedOff (flag : Option Bool) : Option Bool :=
  flag.filter (· = false)

/-- A text of the environment as a source: an empty one is not given. -/
def nonEmpty (text : Option String) : Option String :=
  text.filter (· ≠ "")

/-- A switch is taken from the first source that sets it; on the command line only off counts. -/
theorem flag_eq_firstGiven (commandLine environment file : Option Bool) :
    flag commandLine environment file =
      firstGiven [switchedOff commandLine, environment, file] true := by
  rcases commandLine with - | (- | -) <;> cases environment <;> cases file <;> rfl

/-- A text is taken from the first source that gives it. -/
theorem text_eq_firstGiven (commandLine environment file : Option String) (default : String) :
    text commandLine environment file default =
      firstGiven [commandLine, environment, file] default := by
  cases commandLine <;> cases environment <;> cases file <;> rfl

theorem switchedOff_of_ne {flag : Option Bool} (h : flag ≠ some true) : switchedOff flag = flag := by
  rcases flag with - | (- | -)
  · rfl
  · rfl
  · exact absurd rfl h

/-! ## Flags in the environment -/

/-- The words for a flag. -/
def words : Bool → List String
  | true => Environment.yesWords
  | false => Environment.noWords

/-- What is used of putting a text into lower case. A text of characters below 128 is put there
letter by letter. Any other character leaves one that is not below 128 either, or a `k`, which is
what becomes of the Kelvin sign. -/
structure Lowering (lower : List Char → List Char) : Prop where
  plain : ∀ cs, (∀ c ∈ cs, c.toNat < 128) → lower cs = cs.map Char.toLower
  other : ∀ cs, ∀ c ∈ cs, 128 ≤ c.toNat → ∃ d ∈ lower cs, 128 ≤ d.toNat ∨ d = 'k'

/-- A variable spells a flag: trimmed and in lower case, its text is one of the words. -/
def Spells (lower : List Char → List Char) (env : Environment) (v : Variable) (b : Bool) : Prop :=
  ∃ text word, env v.name = some text ∧ word ∈ words b ∧
    lower (Text.trimChars text.toList) = word.toList

theorem toLower_of_le {c : Char} (h : 128 ≤ c.toNat) : c.toLower = c := by
  have hnot : ¬ (c.val ≥ 'A'.val ∧ c.val ≤ 'Z'.val) := by
    rintro ⟨-, hle⟩
    have hle : c.toNat ≤ 90 := hle
    omega
  exact dif_neg hnot

/-- Letter by letter is one way to put a text into lower case. -/
theorem lowering_map : Lowering (List.map Char.toLower) where
  plain _ _ := rfl
  other _ c hc hle := ⟨c, List.mem_map.mpr ⟨c, hc, toLower_of_le hle⟩, .inl hle⟩

/-- All characters of the words are below 128, and none is a `k`. -/
theorem plain_of_mem_words {word : String} {d : Char} (hword : word ∈ words b)
    (hd : d ∈ word.toList) : d.toNat < 128 ∧ d ≠ 'k' := by
  have hall : ∀ b, ∀ word ∈ words b, word.toList.all fun d => d.toNat < 128 ∧ d ≠ 'k' := by decide
  exact of_decide_eq_true (List.all_eq_true.mp (hall b word hword) d hd)

/-- Another character leaves something that stands in no word, whichever way it is put into lower
case. -/
theorem lower_ne_word {word : String} {cs : List Char} {c : Char} (h : Lowering lower)
    (hword : word ∈ words b) (hc : c ∈ cs) (hle : 128 ≤ c.toNat) : lower cs ≠ word.toList := by
  intro heq
  obtain ⟨d, hd, hwrong⟩ := h.other cs c hc hle
  rw [heq] at hd
  obtain ⟨hlt, hk⟩ := plain_of_mem_words hword hd
  rcases hwrong with hge | rfl
  · omega
  · exact hk rfl

/-- Whether a text becomes one of the words does not depend on what becomes of other letters. -/
theorem lower_eq_word_iff {word : String} (h : Lowering lower) (hword : word ∈ words b)
    (cs : List Char) : lower cs = word.toList ↔ cs.map Char.toLower = word.toList := by
  by_cases hother : ∃ c ∈ cs, 128 ≤ c.toNat
  · obtain ⟨c, hc, hle⟩ := hother
    exact iff_of_false (lower_ne_word h hword hc hle) (lower_ne_word lowering_map hword hc hle)
  · have hplain : ∀ c ∈ cs, c.toNat < 128 := fun c hc =>
      Nat.lt_of_not_le fun hle => hother ⟨c, hc, hle⟩
    rw [h.plain cs hplain]

/-- A text is one of the words by its characters. -/
theorem ofList_mem_words {cs : List Char} :
    String.ofList cs ∈ words b ↔ ∃ word ∈ words b, cs = word.toList := by
  constructor
  · intro h
    exact ⟨_, h, (String.toList_ofList).symm⟩
  · rintro ⟨word, hword, rfl⟩
    rwa [String.ofList_toList]

/-- A text is a switch when it is one of the words, trimmed and in lower case. -/
theorem flagOf?_eq_some_iff (text : String) (b : Bool) :
    Environment.flagOf? text = some b ↔
      ∃ word ∈ words b, (Text.trimChars text.toList).map Char.toLower = word.toList := by
  rw [← ofList_mem_words]
  generalize hw : String.ofList ((Text.trimChars text.toList).map Char.toLower) = word
  have hflag : Environment.flagOf? text =
      if word ∈ words true then some true else if word ∈ words false then some false else none := by
    simp only [Environment.flagOf?, hw, List.contains_iff_mem]
    rfl
  -- No word means both, so the order of the tests does not matter.
  have hdisjoint : ∀ word ∈ words true, word ∉ words false := by decide
  rw [hflag]
  by_cases hyes : word ∈ words true
  · cases b <;> simp [hyes, hdisjoint word hyes]
  · by_cases hno : word ∈ words false <;> cases b <;> simp [hyes, hno]

/-- The flag of a variable is the one that its text spells; no word is empty, so an empty text
spells none. -/
theorem flag_eq_some_iff (h : Lowering lower) (env : Environment) (v : Variable) (b : Bool) :
    env.flag v = some b ↔ Spells lower env v b := by
  have hempty : ∀ b, ∀ word ∈ words b, word.toList ≠ [] := by decide
  simp only [Environment.flag, Environment.text, Option.bind_eq_some_iff, Option.filter_eq_some_iff,
    flagOf?_eq_some_iff, Spells]
  constructor
  · rintro ⟨text, ⟨htext, -⟩, word, hword, heq⟩
    exact ⟨text, word, htext, hword, (lower_eq_word_iff h hword _).mpr heq⟩
  · rintro ⟨text, word, htext, hword, heq⟩
    have heq := (lower_eq_word_iff h hword _).mp heq
    have hne : text ≠ "" := by
      rintro rfl
      exact hempty b word hword heq.symm
    exact ⟨text, ⟨htext, by simpa using hne⟩, word, hword, heq⟩

/-! ## The options of a command -/

theorem switchedOff?_ne (v : Option Value) : Overrides.switchedOff? v ≠ some true := by
  unfold Overrides.switchedOff?
  split <;> simp

/-- No option switches a flag on. -/
theorem flags_of_options {options : Value} {o : Overrides} (h : Overrides.ofOptions options = .ok o) :
    switchedOff o.arrays = o.arrays ∧ switchedOff o.tables = o.tables := by
  cases hmodules : (Overrides.texts (options.field? "module")).mapM ModuleSpec.parse with
  | error e =>
      rw [Overrides.ofOptions, hmodules] at h
      cases h
  | ok modules =>
      rw [Overrides.ofOptions, hmodules] at h
      cases h
      exact ⟨switchedOff_of_ne (switchedOff?_ne _), switchedOff_of_ne (switchedOff?_ne _)⟩

/-! ## All settings -/

/-- Every setting is the first that its sources give, and the module files of the file come before
those of the command line. -/
structure Precedence (o : Overrides) (env : Environment) (file : SettingsFile) (directory : String)
    (s : Settings) : Prop where
  arrays : s.capabilities.arrays =
    firstGiven [switchedOff o.arrays, env.flag .arrays, file.arrays] true
  tables : s.capabilities.tables =
    (s.capabilities.arrays &&
      firstGiven [switchedOff o.tables, env.flag .tables, file.tables] true)
  logLevel : s.logLevel =
    firstGiven [o.logLevel, nonEmpty (env Variable.logLevel.name), file.logLevel] "info"
  logFormat : s.logFormat =
    firstGiven [o.logFormat, nonEmpty (env Variable.logFormat.name), file.logFormat] "text"
  modules : s.modules =
    (file.modules.map fun (name, path) => ⟨name, Path.resolve directory path⟩) ++ o.modules

/-- Settings follow the precedence of their sources. A variable gives a flag if it spells one,
and options that were typed give every flag that they set. -/
theorem resolve_precedence (h : Lowering lower) (o : Overrides) (env : Environment)
    (file : SettingsFile) (directory : String) :
    Precedence o env file directory (resolve o env file directory) ∧
      (∀ v b, env.flag v = some b ↔ Spells lower env v b) ∧
      ∀ options, Overrides.ofOptions options = .ok o →
        switchedOff o.arrays = o.arrays ∧ switchedOff o.tables = o.tables := by
  refine ⟨⟨?arrays, ?tables, ?logLevel, ?logFormat, rfl⟩, flag_eq_some_iff h env,
    fun _ => flags_of_options⟩
  case arrays =>
    exact flag_eq_firstGiven _ _ _
  case tables =>
    rw [← flag_eq_firstGiven]
    rfl
  case logLevel =>
    exact text_eq_firstGiven _ _ _ _
  case logFormat =>
    exact text_eq_firstGiven _ _ _ _

/-- Options of a command that sets the level of the log and adds a module file. -/
def someOptions : Value :=
  .mapping [("arrays", .bool true), ("verbose", .bool true), ("module", .list [.str "b=b.mjs"])]

/-- The settings in these options. -/
def someOverrides : Overrides :=
  { Overrides.empty with modules := [⟨"b", "b.mjs"⟩], logLevel := some "debug" }

/-- A variable that switches arrays off. -/
def someVariables : Environment := fun name =>
  if name = "WIREBRIDGE_ARRAYS" then some " Off " else none

/-- A file that switches arrays on and names a module file. -/
def someFile : SettingsFile :=
  { SettingsFile.empty with arrays := some true, modules := [("a", "a.mjs")] }

/-- The variable wins over the file, tables go with arrays, and the command line has the last module
file. -/
theorem resolve_precedence_some :
    Lowering (List.map Char.toLower) ∧
      Precedence someOverrides someVariables someFile "/srv"
        ⟨⟨false, false⟩, [⟨"a", "/srv/a.mjs"⟩, ⟨"b", "b.mjs"⟩], "debug", "text"⟩ ∧
      Spells (List.map Char.toLower) someVariables .arrays false ∧
      Overrides.ofOptions someOptions = .ok someOverrides ∧
      switchedOff someOverrides.arrays = someOverrides.arrays := by
  obtain ⟨hprecedence, hspells, hoptions⟩ :=
    resolve_precedence lowering_map someOverrides someVariables someFile "/srv"
  have hresolve : resolve someOverrides someVariables someFile "/srv" =
      ⟨⟨false, false⟩, [⟨"a", "/srv/a.mjs"⟩, ⟨"b", "b.mjs"⟩], "debug", "text"⟩ := by
    decide
  rw [hresolve] at hprecedence
  have hflag : someVariables.flag .arrays = some false := by decide
  have htyped : Overrides.ofOptions someOptions = .ok someOverrides := rfl
  exact ⟨lowering_map, hprecedence, (hspells _ _).mp hflag, htyped, (hoptions _ htyped).1⟩

/-- A flag that the command line switches on is not the first that is given. -/
theorem resolve_switched_on :
    ¬ ∀ o env file directory, (resolve o env file directory).capabilities.arrays =
      firstGiven [o.arrays, env.flag .arrays, file.arrays] true := by
  intro h
  have hfirst := h { Overrides.empty with arrays := some true }
    (fun name => if name = "WIREBRIDGE_ARRAYS" then some "0" else none) .empty "/"
  revert hfirst
  decide

end Settings
end LineRpc
