import Mathlib.Data.List.Basic
import LineRpc.Text.Blank

/-!
# Blank — what trimming and folding leave

Trimming leaves nothing more to trim, and folding leaves no line end: a folded message fits on one
line and has no blanks at its ends.

* `Text.Trimmed`      : a text without blanks at its ends
* `trimChars_trimmed` : such a text stays as it is
* `noBreak_fold`      : no line end is left
* `trim_fold`         : nothing is left to trim
-/

namespace LineRpc
namespace Text

/-- Neither end of a text is blank. -/
structure Trimmed (cs : List Char) : Prop where
  first : ∀ c, cs.head? = some c → isBlank c = false
  last : ∀ c, cs.getLast? = some c → isBlank c = false

/-- No line end stands in a text. -/
def NoBreak (cs : List Char) : Prop :=
  ∀ c ∈ cs, isBreak c = false

/-! ## Trimming -/

theorem dropWhile_of_head {p : Char → Bool} {cs : List Char}
    (h : ∀ c, cs.head? = some c → p c = false) : cs.dropWhile p = cs := by
  cases cs with
  | nil =>
      rfl
  | cons c cs =>
      exact List.dropWhile_cons_of_neg (by simp [h c rfl])

theorem head_of_dropWhile {p : Char → Bool} {cs : List Char} {c : Char}
    (h : (cs.dropWhile p).head? = some c) : p c = false := by
  have hnot := List.head?_dropWhile_not p cs
  rw [h] at hnot
  exact hnot

/-- What was trimmed needs no more trimming. -/
theorem trimmed_trimChars (cs : List Char) : Trimmed (trimChars cs) := by
  constructor
  · intro c hc
    rw [trimChars, List.head?_reverse] at hc
    -- The first character that is left is the first one that was not blank.
    have hsuffix := List.dropWhile_suffix isBlank (l := (cs.dropWhile isBlank).reverse)
    rcases hsuffix with ⟨front, hfront⟩
    have hlast : (cs.dropWhile isBlank).reverse.getLast? = some c := by
      rw [← hfront, List.getLast?_append, hc]
      rfl
    rw [List.getLast?_reverse] at hlast
    exact head_of_dropWhile hlast
  · intro c hc
    rw [trimChars, List.getLast?_reverse] at hc
    exact head_of_dropWhile hc

/-- Trimming leaves trimmed text alone. -/
theorem trimChars_trimmed {cs : List Char} (h : Trimmed cs) : trimChars cs = cs := by
  have hlast : ∀ c, cs.reverse.head? = some c → isBlank c = false := by
    intro c hc
    rw [List.head?_reverse] at hc
    exact h.last c hc
  rw [trimChars, dropWhile_of_head h.first, dropWhile_of_head hlast, List.reverse_reverse]

/-- A line end after a text is cut off. -/
theorem trimChars_line {cs : List Char} (h : Trimmed cs) (hne : cs ≠ []) :
    trimChars (cs ++ ['\n']) = cs := by
  have hfirst : ∀ c, (cs ++ ['\n']).head? = some c → isBlank c = false := by
    intro c hc
    rw [List.head?_append_of_ne_nil _ hne] at hc
    exact h.first c hc
  have hlast : ∀ c, cs.reverse.head? = some c → isBlank c = false := by
    intro c hc
    rw [List.head?_reverse] at hc
    exact h.last c hc
  have hend : isBlank '\n' = true := by decide
  rw [trimChars, dropWhile_of_head hfirst, List.reverse_append, List.reverse_singleton,
    List.singleton_append, List.dropWhile_cons_of_pos hend, dropWhile_of_head hlast,
    List.reverse_reverse]

theorem mem_of_mem_trimChars {cs : List Char} {c : Char} (h : c ∈ trimChars cs) : c ∈ cs := by
  rw [trimChars, List.mem_reverse] at h
  have h₁ := (List.dropWhile_sublist isBlank).subset h
  rw [List.mem_reverse] at h₁
  exact (List.dropWhile_sublist isBlank).subset h₁

/-! ## Folding -/

theorem noBreak_foldChars (cs : List Char) : NoBreak (foldChars cs) := by
  induction cs using foldChars.induct with
  | case1 =>
      intro c hc
      rw [foldChars] at hc
      cases hc
  | case2 c cs hc ih =>
      rw [foldChars, if_pos hc]
      intro d hd
      rcases List.mem_append.mp hd with hd | hd
      · -- A run with a line end has become a space; any other has none.
        split at hd
        · rw [List.mem_singleton.mp hd]
          decide
        · rename_i hrun
          by_contra hbreak
          exact hrun (List.any_eq_true.mpr ⟨d, hd, by simpa using hbreak⟩)
      · exact ih d hd
  | case3 c cs hc ih =>
      rw [foldChars, if_neg hc]
      intro d hd
      rcases List.mem_cons.mp hd with rfl | hd
      · by_contra hbreak
        exact hc (isBlank_of_isBreak (by simpa using hbreak))
      · exact ih d hd

/-- A folded text has no line break. -/
theorem noBreak_fold (s : String) : NoBreak (fold s).toList := by
  intro c hc
  rw [fold, String.toList_ofList] at hc
  exact noBreak_foldChars s.toList c (mem_of_mem_trimChars hc)

theorem trim_fold (s : String) : trim (fold s) = fold s := by
  rw [trim, fold, String.toList_ofList, trimChars_trimmed (trimmed_trimChars _)]

end Text
end LineRpc
