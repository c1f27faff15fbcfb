import LineRpc.Envelope.Request
import LineRpc.Envelope.Response
import LineRpc.Proofs.Json.ReadBack
import LineRpc.Proofs.Text.Blank

/-!
# Line — a value on a line of its own

The text of a value has no line end in it and no blank at its ends, so the line end that is written
after it is the only one, and cutting the line leaves the text.

* `noBreak_chars`        : no line end stands in a text
* `trimmed_chars`        : no blank stands at its ends
* `readLine?_writeLine`  : every line that is written is read
-/

namespace LineRpc
namespace Json

open Token Text

/-! ## Line ends -/

/-- All characters of words lie in one range of ASCII. -/
theorem toNat_of_isWordChar {c : Char} (h : isWordChar c = true) :
    0x2B ≤ c.toNat ∧ c.toNat ≤ 0x7A := by
  simp only [isWordChar, Char.isAlphanum, Char.isAlpha, Char.isUpper, Char.isLower, Char.isDigit,
    Bool.or_eq_true, Bool.and_eq_true, decide_eq_true_eq, beq_iff_eq, UInt32.le_iff_toNat_le,
    ge_iff_le] at h
  rcases h with ((((⟨h₁, h₂⟩ | ⟨h₁, h₂⟩) | ⟨h₁, h₂⟩) | rfl) | rfl) | rfl
  · exact ⟨le_trans (by decide) h₁, le_trans h₂ (by decide)⟩
  · exact ⟨le_trans (by decide) h₁, le_trans h₂ (by decide)⟩
  · exact ⟨le_trans (by decide) h₁, le_trans h₂ (by decide)⟩
  · decide
  · decide
  · decide

theorem isBlank_of_isWordChar {c : Char} (h : isWordChar c = true) : isBlank c = false := by
  -- The range has no blank at its ends, and none lies in it.
  have hrange := toNat_of_isWordChar h
  simp only [isBlank, Bool.or_eq_false_iff, Bool.and_eq_false_iff, decide_eq_false_iff_not,
    beq_eq_false_iff_ne]
  omega

theorem isBreak_of_isWordChar {c : Char} (h : isWordChar c = true) : isBreak c = false := by
  by_contra hb
  have := isBlank_of_isBreak (by simpa using hb : isBreak c = true)
  rw [isBlank_of_isWordChar h] at this
  cases this

theorem noBreak_hexChar : ∀ n < 0x20,
    isBreak (hexChar (n / 16)) = false ∧ isBreak (hexChar (n % 16)) = false := by
  decide

theorem noBreak_shortEscapes : ∀ e ∈ shortEscapes, isBreak e.2 = false := by
  decide

/-- An escaped character is not a line break, whatever it was before. -/
theorem noBreak_escapeChar (c : Char) : NoBreak (escapeChar c) := by
  intro d hd
  rcases escapeChar_cases c with ⟨l, hl, he⟩ | ⟨hc, ⟨hlow, he⟩ | ⟨hlow, he⟩⟩
  · rw [he, List.mem_cons, List.mem_singleton] at hd
    rcases hd with rfl | rfl
    · rfl
    · exact noBreak_shortEscapes _ hl
  · -- The number of a control character is written in digits.
    rcases noBreak_hexChar c.toNat hlow with ⟨hfirst, hsecond⟩
    rw [he] at hd
    simp only [List.mem_cons, List.not_mem_nil, or_false] at hd
    rcases hd with rfl | rfl | rfl | rfl | rfl | rfl
    · rfl
    · rfl
    · rfl
    · rfl
    · exact hfirst
    · exact hsecond
  · -- What is not escaped is no control character.
    rw [he, List.mem_singleton] at hd
    rw [hd]
    by_contra hbreak
    simp only [isBreak, Bool.not_eq_false, Bool.or_eq_true, beq_iff_eq] at hbreak
    rcases hbreak with rfl | rfl <;> exact hlow (by decide)

theorem noBreak_append {cs ds : List Char} (hc : NoBreak cs) (hd : NoBreak ds) :
    NoBreak (cs ++ ds) := by
  intro c h
  rcases List.mem_append.mp h with h | h
  · exact hc c h
  · exact hd c h

theorem noBreak_cons {c : Char} {cs : List Char} (hc : isBreak c = false) (hcs : NoBreak cs) :
    NoBreak (c :: cs) := by
  intro d h
  rcases List.mem_cons.mp h with rfl | h
  · exact hc
  · exact hcs d h

theorem noBreak_nil : NoBreak [] := by
  intro c h
  cases h

/-- A quoted text has no line break. -/
theorem noBreak_quoteChars (s : String) : NoBreak (quoteChars s) := by
  rw [quoteChars, List.cons_append]
  refine noBreak_cons rfl (noBreak_append ?_ (noBreak_cons rfl noBreak_nil))
  intro c hc
  rcases List.mem_flatMap.mp hc with ⟨d, -, hd⟩
  exact noBreak_escapeChar d c hd

theorem noBreak_numberText (x : Float) : NoBreak (numberText x).toList := by
  rw [numberText]
  split
  · rename_i hx
    intro c hc
    exact isBreak_of_isWordChar ((Number.wordText_render hx).word c hc)
  · intro c hc
    fin_cases hc <;> rfl

theorem noBreak_drop {cs : List Char} (h : NoBreak cs) (n : Nat) : NoBreak (cs.drop n) :=
  fun c hc => h c (List.mem_of_mem_drop hc)

mutual

/-- No line end stands in the text of a value. -/
theorem noBreak_chars : ∀ j : Json, NoBreak (chars j)
  | .null => by
      intro c hc
      fin_cases hc <;> rfl
  | .bool true => by
      intro c hc
      fin_cases hc <;> rfl
  | .bool false => by
      intro c hc
      fin_cases hc <;> rfl
  | .num x => noBreak_numberText x
  | .str s => noBreak_quoteChars s
  | .arr items => by
      rw [chars, List.cons_append]
      exact noBreak_cons rfl
        (noBreak_append (noBreak_drop (noBreak_itemChars items) 1) (noBreak_cons rfl noBreak_nil))
  | .obj entries => by
      rw [chars, List.cons_append]
      exact noBreak_cons rfl
        (noBreak_append (noBreak_drop (noBreak_entryChars entries) 1)
          (noBreak_cons rfl noBreak_nil))

theorem noBreak_itemChars : ∀ js : List Json, NoBreak (itemChars js)
  | [] => noBreak_nil
  | j :: js => by
      rw [itemChars, List.cons_append]
      exact noBreak_cons rfl (noBreak_append (noBreak_chars j) (noBreak_itemChars js))

theorem noBreak_entryChars : ∀ es : List (String × Json), NoBreak (entryChars es)
  | [] => noBreak_nil
  | (k, j) :: es => by
      have hsplit : entryChars ((k, j) :: es) =
          ',' :: (quoteChars k ++ ':' :: (chars j ++ entryChars es)) := by
        simp [entryChars]
      rw [hsplit]
      exact noBreak_cons rfl (noBreak_append (noBreak_quoteChars k)
        (noBreak_cons rfl (noBreak_append (noBreak_chars j) (noBreak_entryChars es))))

end

/-! ## Ends of a text -/

/-- A word needs no trimming. -/
theorem trimmed_word {cs : List Char} (h : ∀ c ∈ cs, isWordChar c = true) : Trimmed cs := by
  constructor
  · intro c hc
    exact isBlank_of_isWordChar (h c (List.mem_of_mem_head? hc))
  · intro c hc
    exact isBlank_of_isWordChar (h c (List.mem_of_mem_getLast? hc))

theorem trimmed_between {a b : Char} (cs : List Char) (ha : isBlank a = false)
    (hb : isBlank b = false) : Trimmed (a :: cs ++ [b]) := by
  constructor
  · intro c hc
    injection hc with hc
    rwa [← hc]
  · intro c hc
    rw [List.getLast?_concat] at hc
    injection hc with hc
    rwa [← hc]

/-- The text of a value is not empty, and no blank stands at its ends. -/
theorem trimmed_chars (j : Json) : Trimmed (chars j) ∧ chars j ≠ [] := by
  cases j with
  | null =>
      exact ⟨trimmed_word (List.all_eq_true.mp rfl), List.cons_ne_nil _ _⟩
  | bool b =>
      cases b
      · exact ⟨trimmed_word (List.all_eq_true.mp rfl), List.cons_ne_nil _ _⟩
      · exact ⟨trimmed_word (List.all_eq_true.mp rfl), List.cons_ne_nil _ _⟩
  | num x =>
      rw [chars, numberText]
      split
      · rename_i hx
        have hw := Number.wordText_render hx
        refine ⟨trimmed_word hw.word, ?_⟩
        rcases hw.start with ⟨c, hc, -⟩
        intro hnil
        rw [hnil] at hc
        cases hc
      · exact ⟨trimmed_word (List.all_eq_true.mp rfl), List.cons_ne_nil _ _⟩
  | str s =>
      exact ⟨trimmed_between _ rfl rfl, List.cons_ne_nil _ _⟩
  | arr items =>
      exact ⟨trimmed_between _ rfl rfl, List.cons_ne_nil _ _⟩
  | obj entries =>
      exact ⟨trimmed_between _ rfl rfl, List.cons_ne_nil _ _⟩

end Json

/-! ## Lines -/

theorem toList_writeLine (j : Json) : (writeLine j).toList = j.chars ++ ['\n'] := by
  rw [writeLine, String.toList_append, Json.render, String.toList_ofList]
  rfl

/-- Trimming a written line gives back the document alone. -/
theorem trim_writeLine (j : Json) : Text.trim (writeLine j) = j.render := by
  rcases Json.trimmed_chars j with ⟨ht, hne⟩
  rw [Text.trim, toList_writeLine, Text.trimChars_line ht hne, Json.render]

/-- Every line that is written is read, as what is left of the value that was written. -/
theorem readLine?_writeLine (j : Json) : readLine? (writeLine j) = some j.settle := by
  rw [readLine?, trim_writeLine, Json.parse?_render]

/-- A line that is written is not passed over as blank. -/
theorem isBlankLine_writeLine (j : Json) : Text.isBlankLine (writeLine j) = false := by
  rcases Json.trimmed_chars j with ⟨ht, hne⟩
  rw [Text.isBlankLine, toList_writeLine]
  cases hj : j.chars with
  | nil =>
      exact absurd hj hne
  | cons c cs =>
      have hc : Text.isBlank c = false := by
        apply ht.first
        rw [hj]
        rfl
      rw [List.cons_append, List.all_cons, hc, Bool.false_and]

end LineRpc
