import LineRpc.Envelope.Response
import LineRpc.Proofs.Text.Blank

/-!
# Folding — what a message keeps when it becomes one line

A message with line ends is folded by a pattern: blanks, then one line end or more, then blanks.
Each part takes as many characters as it can and gives some back only if the rest of the pattern
would find nothing. Blanks and line ends overlap, but the parts can only share out a run of blanks
among themselves: the pattern matches a run that has a line end in it, and all of it. So folding
keeps every character that is not blank, and every run of blanks between two of them is kept or
becomes one space.

* `many`, `one`, `replaceAll` : patterns, and replacing all that they match
* `lineBreak_run`             : what the pattern of a line end matches
* `replaceAll_lineBreak`      : replacing its matches folds every run
* `Folded`                    : what is kept of a message
* `failure_folded`            : the words of an error are folded
-/

namespace LineRpc
namespace Text

/-! ## Patterns -/

/-- How many characters a pattern takes from the front of a text, if it matches there. -/
abbrev Pattern :=
  List Char → Option Nat

/-- The pattern that matches everywhere and takes nothing. -/
def nothing : Pattern := fun _ => some 0

/-- One character of a class, and then the rest of the pattern. -/
def one (holds : Char → Bool) (rest : Pattern) : Pattern
  | [] => none
  | c :: cs => if holds c then (rest cs).map (· + 1) else none

/-- As many characters of a class as there are, and then the rest of the pattern. As long as the
rest does not match, the last character is given back. -/
def many (holds : Char → Bool) (rest : Pattern) : Pattern
  | [] => rest []
  | c :: cs =>
      if holds c then
        match many holds rest cs with
        | some n => some (n + 1)
        | none => rest (c :: cs)
      else rest (c :: cs)

/-- A line end: blanks, one break or more, and blanks. -/
def lineBreak : Pattern :=
  many isBlank (one isBreak (many isBreak (many isBlank nothing)))

/-- Replace what a pattern matches, from the left, and go on behind each match. The first `skip`
characters belong to the match before. -/
def replaceAll (p : Pattern) (new : List Char) : (skip : Nat) → List Char → List Char
  | _, [] => []
  | skip + 1, _ :: cs => replaceAll p new skip cs
  | 0, c :: cs =>
      match p (c :: cs) with
      | some (n + 1) => new ++ replaceAll p new n cs
      | _ => c :: replaceAll p new 0 cs

/-! ## Runs of blanks -/

/-- All characters are blank. -/
def Blank (cs : List Char) : Prop :=
  ∀ c ∈ cs, isBlank c = true

/-- A text does not go on with a blank. -/
def Stops (cs : List Char) : Prop :=
  ∀ c, cs.head? = some c → isBlank c = false

variable {run rest cs : List Char} {c : Char}

theorem stops_cons (h : isBlank c = false) : Stops (c :: cs) := by
  intro d hd
  cases hd
  exact h

/-- Where no break stands, no line end begins. -/
theorem one_isBreak_none (h : Stops rest) (hrun : NoBreak run) (p : Pattern) :
    one isBreak p (run ++ rest) = none := by
  have hfirst : ∀ c cs, run ++ rest = c :: cs → isBreak c = false := by
    intro c cs heq
    cases run with
    | nil =>
        -- What stops a run is no blank, so it is no break.
        cases heq
        have hblank : isBlank c = false := h c rfl
        by_contra hbreak
        have : isBlank c = true := isBlank_of_isBreak (by simpa using hbreak)
        simp [this] at hblank
    | cons d run =>
        cases heq
        exact hrun c List.mem_cons_self
  cases htext : run ++ rest with
  | nil =>
      rfl
  | cons c cs =>
      simp [one, hfirst c cs htext]

/-- The blanks behind a break are taken up to the end of the run. -/
theorem many_isBlank_nothing (hrun : Blank run) (h : Stops rest) :
    many isBlank nothing (run ++ rest) = some run.length := by
  induction run with
  | nil =>
      cases rest with
      | nil =>
          rfl
      | cons c cs =>
          simp [many, nothing, h c rfl]
  | cons c run ih =>
      obtain ⟨hc, hrun⟩ := List.forall_mem_cons.mp hrun
      simp [many, hc, ih hrun]

/-- Where no break follows, taking breaks takes nothing. -/
theorem many_isBreak (h : Stops rest) (hrun : NoBreak run) (p : Pattern) :
    many isBreak p (run ++ rest) = p (run ++ rest) := by
  have hone := one_isBreak_none h hrun nothing
  cases htext : run ++ rest with
  | nil =>
      rfl
  | cons c cs =>
      have hc : isBreak c = false := by
        simpa [htext, one, nothing] using hone
      simp [many, hc]

/-- A run of blanks without a break is no line end, wherever the pattern starts in it. -/
theorem lineBreak_plain (hrun : Blank run) (h : Stops rest) (hbreak : NoBreak run) :
    lineBreak (run ++ rest) = none := by
  induction run with
  | nil =>
      have hnone := one_isBreak_none h hbreak (many isBreak (many isBlank nothing))
      cases rest with
      | nil =>
          rfl
      | cons c cs =>
          have hc : isBlank c = false := h c rfl
          simpa [lineBreak, many, hc] using hnone
  | cons c run ih =>
      obtain ⟨hc, hrun⟩ := List.forall_mem_cons.mp hrun
      have hrest := ih hrun (List.forall_mem_cons.mp hbreak).2
      have hnone := one_isBreak_none h hbreak (many isBreak (many isBlank nothing))
      -- Every blank is given back in turn, and behind none of them a break stands.
      rw [lineBreak] at hrest ⊢
      simpa [many, hc, hrest] using hnone

/-- A run of blanks with a break in it is a line end, and all of the run is. -/
theorem lineBreak_broken (hrun : Blank run) (h : Stops rest) (hbreak : ¬ NoBreak run) :
    lineBreak (run ++ rest) = some run.length := by
  induction run with
  | nil =>
      exact absurd (fun c hc => absurd hc List.not_mem_nil) hbreak
  | cons c run ih =>
      obtain ⟨hc, hrun⟩ := List.forall_mem_cons.mp hrun
      by_cases hlater : NoBreak run
      · -- The first break is the last one: all blanks are given back up to it.
        have hfirst : isBreak c = true := by
          by_contra hplain
          exact hbreak (List.forall_mem_cons.mpr ⟨by simpa using hplain, hlater⟩)
        have hnone := lineBreak_plain hrun h hlater
        have hblanks := many_isBlank_nothing hrun h
        rw [lineBreak] at hnone ⊢
        simp [many, one, hc, hfirst, hnone, many_isBreak h hlater, hblanks]
      · have hrest := ih hrun hlater
        rw [lineBreak] at hrest ⊢
        simp [many, hc, hrest]

/-- A line end is a run of blanks with a break in it. -/
theorem lineBreak_run (hrun : Blank run) (h : Stops rest) :
    lineBreak (run ++ rest) = if run.any isBreak then some run.length else none := by
  by_cases hany : run.any isBreak = true
  · have hbreak : ¬ NoBreak run := by
      obtain ⟨c, hc, hbreak⟩ := List.any_eq_true.mp hany
      intro hplain
      simp [hplain c hc] at hbreak
    rw [if_pos hany]
    exact lineBreak_broken hrun h hbreak
  · have hplain : NoBreak run := by
      intro c hc
      by_contra hbreak
      exact hany (List.any_eq_true.mpr ⟨c, hc, by simpa using hbreak⟩)
    rw [if_neg hany]
    exact lineBreak_plain hrun h hplain

/-! ## Folding is replacing -/

variable {p : Pattern} {new : List Char}

/-- The characters of a match are left out. -/
theorem replaceAll_skip (run rest : List Char) :
    replaceAll p new run.length (run ++ rest) = replaceAll p new 0 rest := by
  induction run with
  | nil =>
      rfl
  | cons c run ih =>
      exact ih

/-- A run of blanks as it is kept: with a break in it, it becomes one space. -/
def foldRun (run : List Char) : List Char :=
  if run.any isBreak then [' '] else run

/-- Where no blank stands, nothing is replaced. -/
theorem replaceAll_cons (hc : isBlank c = false) :
    replaceAll lineBreak [' '] 0 (c :: cs) = c :: replaceAll lineBreak [' '] 0 cs := by
  have hnone : lineBreak ([] ++ c :: cs) = none :=
    lineBreak_plain (by simp [Blank]) (stops_cons hc) (by simp [NoBreak])
  rw [List.nil_append] at hnone
  simp [replaceAll, hnone]

/-- A run of blanks is replaced as a whole, or none of it is. -/
theorem replaceAll_run (hrun : Blank run) (h : Stops rest) :
    replaceAll lineBreak [' '] 0 (run ++ rest) =
      foldRun run ++ replaceAll lineBreak [' '] 0 rest := by
  induction run with
  | nil =>
      rfl
  | cons c run ih =>
      have hmatch := lineBreak_run hrun h
      rw [List.cons_append] at hmatch ⊢
      by_cases hany : (c :: run).any isBreak = true
      · rw [if_pos hany, List.length_cons] at hmatch
        simp [replaceAll, hmatch, replaceAll_skip, foldRun, hany]
      · -- No break stands behind the first blank either.
        have hplain : ¬ run.any isBreak = true := by
          intro hbreak
          exact hany (by simp [hbreak])
        have hrest := ih (List.forall_mem_cons.mp hrun).2
        rw [if_neg hany] at hmatch
        simp only [foldRun, if_neg hany, if_neg hplain] at hrest ⊢
        simp [replaceAll, hmatch, hrest]

theorem stops_dropWhile (cs : List Char) : Stops (cs.dropWhile isBlank) := by
  intro c hc
  exact head_of_dropWhile hc

theorem blank_takeWhile (cs : List Char) : Blank (cs.takeWhile isBlank) := by
  intro c hc
  exact List.all_eq_true.mp List.all_takeWhile c hc

/-- Folding the runs of blanks is replacing the line ends. -/
theorem replaceAll_lineBreak (cs : List Char) : replaceAll lineBreak [' '] 0 cs = foldChars cs := by
  induction cs using foldChars.induct with
  | case1 =>
      rw [foldChars, replaceAll]
  | case2 c cs hc ih =>
      have hrun : Blank (c :: cs.takeWhile isBlank) :=
        List.forall_mem_cons.mpr ⟨hc, blank_takeWhile cs⟩
      have hreplaced := replaceAll_run hrun (stops_dropWhile cs)
      rw [List.cons_append, List.takeWhile_append_dropWhile, ih] at hreplaced
      rw [foldChars, if_pos hc]
      exact hreplaced
  | case3 c cs hc ih =>
      rw [foldChars, if_neg hc, replaceAll_cons (by simpa using hc), ih]

/-- Folding is the replacement of every run with a break by one space, and trimming. -/
theorem fold_eq (s : String) :
    fold s = trim (String.ofList (replaceAll lineBreak [' '] 0 s.toList)) := by
  rw [fold, trim, String.toList_ofList, replaceAll_lineBreak]

/-! ## What folding keeps -/

theorem foldChars_cons (hc : isBlank c = false) : foldChars (c :: cs) = c :: foldChars cs := by
  rw [foldChars, if_neg (by simp [hc])]

/-- A run of blanks is folded by itself. -/
theorem foldChars_run (hrun : Blank run) (h : Stops rest) :
    foldChars (run ++ rest) = foldRun run ++ foldChars rest := by
  rw [← replaceAll_lineBreak, ← replaceAll_lineBreak]
  exact replaceAll_run hrun h

/-- A text is folded in parts at every character that is not blank. All else follows from this. -/
theorem foldChars_append (hc : isBlank c = false) (before after : List Char) :
    foldChars (before ++ c :: after) = foldChars before ++ c :: foldChars after := by
  induction before using foldChars.induct with
  | case1 =>
      rw [List.nil_append, foldChars_cons hc, foldChars]
      rfl
  | case2 d before hd ih =>
      have hrun : Blank (d :: before.takeWhile isBlank) :=
        List.forall_mem_cons.mpr ⟨hd, blank_takeWhile before⟩
      -- The run at the front ends before `c`, whether or not other characters stand in between.
      have hstops : Stops (before.dropWhile isBlank ++ c :: after) := by
        cases hrest : before.dropWhile isBlank with
        | nil =>
            exact stops_cons hc
        | cons e rest =>
            exact stops_cons (head_of_dropWhile (by rw [hrest]; rfl))
      have hsplit : d :: before = (d :: before.takeWhile isBlank) ++ before.dropWhile isBlank := by
        rw [List.cons_append, List.takeWhile_append_dropWhile]
      rw [hsplit, List.append_assoc, foldChars_run hrun hstops, ih,
        foldChars_run hrun (stops_dropWhile before), List.append_assoc]
  | case3 d before hd ih =>
      have hd : isBlank d = false := by simpa using hd
      rw [List.cons_append, foldChars_cons hd, foldChars_cons hd, ih, List.cons_append]

/-- The characters of a text that are not blank. -/
def marks (cs : List Char) : List Char :=
  cs.filter fun c => !isBlank c

/-- The characters that are no blanks are kept side by side. -/
@[simp]
theorem marks_append (cs ds : List Char) : marks (cs ++ ds) = marks cs ++ marks ds :=
  List.filter_append ..

theorem marks_cons (hc : isBlank c = false) : marks (c :: cs) = c :: marks cs := by
  simp [marks, hc]

theorem marks_blank (h : Blank cs) : marks cs = [] := by
  refine List.filter_eq_nil_iff.mpr ?_
  intro c hc
  simp [h c hc]

theorem blank_foldRun (h : Blank run) : Blank (foldRun run) := by
  rw [foldRun]
  split
  · intro c hc
    rw [List.mem_singleton.mp hc]
    decide
  · exact h

/-- Folding keeps all characters that are not blank. -/
theorem marks_foldChars (cs : List Char) : marks (foldChars cs) = marks cs := by
  induction cs using foldChars.induct with
  | case1 =>
      rw [foldChars]
  | case2 c cs hc ih =>
      have hrun : Blank (c :: cs.takeWhile isBlank) :=
        List.forall_mem_cons.mpr ⟨hc, blank_takeWhile cs⟩
      have hsplit : c :: cs = (c :: cs.takeWhile isBlank) ++ cs.dropWhile isBlank := by
        rw [List.cons_append, List.takeWhile_append_dropWhile]
      -- Neither a run of blanks nor what is put in its place has marks.
      rw [hsplit, foldChars_run hrun (stops_dropWhile cs), marks_append, marks_append, ih,
        marks_blank (blank_foldRun hrun), marks_blank hrun]
  | case3 c cs hc ih =>
      have hc : isBlank c = false := by simpa using hc
      rw [foldChars_cons hc, marks_cons hc, marks_cons hc, ih]

/-- Cutting blanks off the front keeps all other characters. -/
theorem marks_dropWhile (cs : List Char) : marks (cs.dropWhile isBlank) = marks cs := by
  conv_rhs => rw [← List.takeWhile_append_dropWhile (p := isBlank) (l := cs), marks_append,
    marks_blank (blank_takeWhile cs), List.nil_append]

/-- A text without the blanks at its end. -/
def trimEnd (cs : List Char) : List Char :=
  (cs.reverse.dropWhile isBlank).reverse

theorem trimChars_eq (cs : List Char) : trimChars cs = trimEnd (cs.dropWhile isBlank) :=
  rfl

/-- Trimming loses none of them. -/
theorem marks_trimEnd (cs : List Char) : marks (trimEnd cs) = marks cs := by
  have hreverse (cs : List Char) : marks cs.reverse = (marks cs).reverse := List.filter_reverse ..
  calc marks (trimEnd cs)
      = (marks (cs.reverse.dropWhile isBlank)).reverse := hreverse _
    _ = (marks cs.reverse).reverse := by rw [marks_dropWhile]
    _ = marks cs := by rw [hreverse, List.reverse_reverse]

/-- Trimming keeps all characters that are not blank. -/
theorem marks_trimChars (cs : List Char) : marks (trimChars cs) = marks cs := by
  rw [trimChars_eq, marks_trimEnd, marks_dropWhile]

/-- Cutting blanks off the front goes no further than to a character that is not blank. -/
theorem dropWhile_append_cons (hc : isBlank c = false) (before after : List Char) :
    (before ++ c :: after).dropWhile isBlank = before.dropWhile isBlank ++ c :: after := by
  induction before with
  | nil =>
      exact List.dropWhile_cons_of_neg (by simp [hc])
  | cons d before ih =>
      cases hd : isBlank d with
      | false =>
          simp [hd]
      | true =>
          simpa [hd] using ih

theorem trimEnd_append_cons (hc : isBlank c = false) (before after : List Char) :
    trimEnd (before ++ c :: after) = before ++ c :: trimEnd after := by
  have hreverse : (before ++ c :: after).reverse = after.reverse ++ c :: before.reverse := by
    simp
  rw [trimEnd, hreverse, dropWhile_append_cons hc, trimEnd]
  simp

/-- Trimming leaves what stands between two characters that are not blank. -/
theorem trimChars_between {a b : Char} (ha : isBlank a = false) (hb : isBlank b = false)
    (before run after : List Char) :
    trimChars (before ++ a :: (run ++ b :: after)) =
      before.dropWhile isBlank ++ a :: (run ++ b :: trimEnd after) := by
  have hend := trimEnd_append_cons hb (before.dropWhile isBlank ++ a :: run) after
  rw [trimChars_eq, dropWhile_append_cons ha]
  simpa using hend

/-- A text without breaks is folded already. -/
theorem foldChars_of_noBreak (h : NoBreak cs) : foldChars cs = cs := by
  induction cs using foldChars.induct with
  | case1 =>
      rw [foldChars]
  | case2 c cs hc ih =>
      obtain ⟨hfirst, hrest⟩ := List.forall_mem_cons.mp h
      -- A run of blanks without line ends stays as it is.
      have hplain : ¬ (c :: cs.takeWhile isBlank).any isBreak = true := by
        intro hany
        obtain ⟨d, hd, hbreak⟩ := List.any_eq_true.mp hany
        have hmem : d ∈ c :: cs :=
          (List.cons_sublist_cons.mpr (List.takeWhile_sublist _)).subset hd
        simp [h d hmem] at hbreak
      have hdropped : NoBreak (cs.dropWhile isBlank) := by
        intro d hd
        exact hrest d ((List.dropWhile_sublist _).subset hd)
      rw [foldChars, if_pos hc]
      simp only [if_neg hplain, ih hdropped]
      rw [List.cons_append, List.takeWhile_append_dropWhile]
  | case3 c cs hc ih =>
      rw [foldChars, if_neg hc, ih (List.forall_mem_cons.mp h).2]

/-- What has been folded is not folded any further. -/
theorem fold_fold (s : String) : fold (fold s) = fold s := by
  have hplain : foldChars (fold s).toList = (fold s).toList := foldChars_of_noBreak (noBreak_fold s)
  have htrim := trim_fold s
  rw [trim] at htrim
  rw [fold, hplain, htrim]

/-! ## Folded messages -/

/-- A text is another one, folded into one line. -/
structure Folded (s r : List Char) : Prop where
  /-- No line end is left. -/
  noBreak : ∀ c ∈ r, c ≠ '\r' ∧ c ≠ '\n'
  /-- Neither end is blank. -/
  trimmed : Trimmed r
  /-- The characters that are not blank are those of the text, in their order. -/
  kept : marks r = marks s
  /-- Between two of them stands what stood between the same two, which is nothing or a run of
  blanks. A run with a line end in it has become one space. -/
  between : ∀ (before : List Char) (a : Char) (run : List Char) (b : Char) (after : List Char),
    s = before ++ a :: (run ++ b :: after) → isBlank a = false → isBlank b = false →
      (∀ c ∈ run, isBlank c = true) →
      ∃ before' after', r = before' ++ a ::
          ((if '\r' ∈ run ∨ '\n' ∈ run then [' '] else run) ++ b :: after') ∧
        marks before' = marks before ∧ marks after' = marks after

theorem foldRun_eq (run : List Char) :
    foldRun run = if '\r' ∈ run ∨ '\n' ∈ run then [' '] else run := by
  have hany : run.any isBreak = true ↔ '\r' ∈ run ∨ '\n' ∈ run := by
    simp [isBreak, exists_or, and_or_left]
  simp only [foldRun, hany]

/-- A folded text is free of breaks, trimmed and has all its characters. -/
theorem folded_fold (s : String) : Folded s.toList (fold s).toList where
  noBreak := by
    intro c hc
    have hbreak := noBreak_fold s c hc
    simpa [isBreak] using hbreak
  trimmed := by
    simpa only [fold, String.toList_ofList] using trimmed_trimChars (foldChars s.toList)
  kept := by
    simp only [fold, String.toList_ofList, marks_trimChars, marks_foldChars]
  between := by
    intro before a run b after hs ha hb hrun
    -- A run between two marks is folded on its own, and trimming does not reach it.
    have hfolded : foldChars s.toList =
        foldChars before ++ a :: (foldRun run ++ b :: foldChars after) := by
      rw [hs, foldChars_append ha, foldChars_run hrun (stops_cons hb), foldChars_cons hb]
    refine ⟨(foldChars before).dropWhile isBlank, trimEnd (foldChars after), ?_, ?_, ?_⟩
    · rw [fold, String.toList_ofList, hfolded, trimChars_between ha hb, foldRun_eq]
    · rw [marks_dropWhile, marks_foldChars]
    · rw [marks_trimEnd, marks_foldChars]

end Text

namespace Response

/-- The words of an error are those that were given, with each line end replaced by a space and then
trimmed. Nothing but blanks is lost: the words are folded into one line, and folding them again
changes nothing. -/
theorem failure_folded (message : String) :
    ∃ words : String, failure message = .error words ∧
      words = Text.trim
        (String.ofList (Text.replaceAll Text.lineBreak [' '] 0 message.toList)) ∧
      Text.Folded message.toList words.toList ∧ failure words = .error words := by
  refine ⟨Text.fold message, rfl, Text.fold_eq message, Text.folded_fold message, ?_⟩
  rw [failure, Text.fold_fold]

/-- The line end between `a` and `b` becomes a space, and the blanks behind them stay. -/
theorem failure_folded_sample :
    ∃ words : String, failure "\n a \r\n\tb\t c \n" = .error words ∧ words = "a b\t c" ∧
      Text.Folded "\n a \r\n\tb\t c \n".toList "a b\t c".toList ∧
      failure "a b\t c" = .error "a b\t c" := by
  obtain ⟨words, hwords, hreplaced, hfolded, hagain⟩ := failure_folded "\n a \r\n\tb\t c \n"
  have hknown : words = "a b\t c" := by
    rw [hreplaced]
    decide
  subst hknown
  exact ⟨_, hwords, rfl, hfolded, hagain⟩

end Response
end LineRpc
