import LineRpc.Proofs.Json.Line

/-!
# Strings — characters that are written as they are

In the text of a value all that is not inside a string is ASCII, and so is what stands for a
character that is escaped. Every other character comes from a string or from a key, where it was. So
characters beyond ASCII can be counted in the strings of a value instead of in its text.

* `Json.words`    : the strings and keys in a value
* `tally`         : how often a test passes in strings
* `countP_chars`  : characters beyond ASCII, in the text and in the strings
-/

namespace LineRpc
namespace Json

open Token

mutual

/-- The strings in a value, its keys among them, in the order in which they are written. -/
def words : Json → List String
  | .str s => [s]
  | .arr items => itemWords items
  | .obj entries => entryWords entries
  | _ => []

def itemWords : List Json → List String
  | [] => []
  | j :: js => words j ++ itemWords js

def entryWords : List (String × Json) → List String
  | [] => []
  | (k, j) :: es => k :: words j ++ entryWords es

end

/-- How many characters in strings pass a test. -/
def tally (p : Char → Bool) (ss : List String) : Nat :=
  (ss.map fun s => s.toList.countP p).sum

/-- A test that no ASCII character passes. -/
def BeyondAscii (p : Char → Bool) : Prop :=
  ∀ c, p c = true → 0x7F < c.toNat

variable {p : Char → Bool}

theorem tally_append (ss ts : List String) : tally p (ss ++ ts) = tally p ss + tally p ts := by
  rw [tally, List.map_append, List.sum_append]
  rfl

theorem tally_cons (s : String) (ss : List String) :
    tally p (s :: ss) = s.toList.countP p + tally p ss := by
  rw [tally, List.map_cons, List.sum_cons]
  rfl

/-- A tally is zero when no character counts. -/
theorem tally_eq_zero {ss : List String} :
    tally p ss = 0 ↔ ∀ s ∈ ss, ∀ c ∈ s.toList, p c = false := by
  simp [tally, List.sum_eq_zero_iff, List.countP_eq_zero]

/-- What lies beyond ASCII does not occur in ASCII text. -/
theorem countP_ascii (hp : BeyondAscii p) {cs : List Char} (h : ∀ c ∈ cs, c.toNat ≤ 0x7F) :
    cs.countP p = 0 := by
  refine List.countP_eq_zero.mpr fun c hc hpass => ?_
  exact absurd (hp c hpass) (not_lt.mpr (h c hc))

theorem test_ascii (hp : BeyondAscii p) {c : Char} (h : c.toNat ≤ 0x7F) : ¬ p c = true :=
  fun hpass => absurd (hp c hpass) (not_lt.mpr h)

theorem hexChar_ascii : ∀ n < 0x20,
    (hexChar (n / 16)).toNat ≤ 0x7F ∧ (hexChar (n % 16)).toNat ≤ 0x7F := by
  decide

theorem shortEscapes_ascii : ∀ e ∈ shortEscapes, e.1.toNat ≤ 0x7F ∧ e.2.toNat ≤ 0x7F := by
  decide

/-- A character is ASCII and so is what is written for it, or it is written as it is. -/
theorem countP_escapeChar (hp : BeyondAscii p) (c : Char) :
    (escapeChar c).countP p = [c].countP p := by
  rcases escapeChar_cases c with ⟨d, hd, he⟩ | ⟨-, ⟨hlow, he⟩ | ⟨-, he⟩⟩
  · obtain ⟨hc, hd⟩ := shortEscapes_ascii _ hd
    rw [he, countP_ascii hp (by simpa using hd), countP_ascii hp (by simpa using hc)]
  · obtain ⟨hfirst, hsecond⟩ := hexChar_ascii c.toNat hlow
    rw [he, countP_ascii hp ?_, countP_ascii hp ?_]
    · simpa using (by omega : c.toNat ≤ 0x7F)
    · simp only [List.forall_mem_cons, hfirst, hsecond, List.not_mem_nil, false_implies,
        implies_true, and_true]
      decide
  · rw [he]

/-- Quoting neither adds nor hides a character beyond ASCII. -/
theorem countP_quoteChars (hp : BeyondAscii p) (s : String) :
    (quoteChars s).countP p = s.toList.countP p := by
  have hquote : ('"' : Char).toNat ≤ 0x7F := by decide
  have hbody (cs : List Char) : (cs.flatMap escapeChar).countP p = cs.countP p := by
    induction cs with
    | nil =>
        rfl
    | cons c cs ih =>
        rw [List.flatMap_cons, List.countP_append, countP_escapeChar hp, ih, ← List.countP_append]
        rfl
  rw [quoteChars, List.cons_append, List.countP_cons_of_neg (test_ascii hp hquote),
    List.countP_append, hbody, List.countP_cons_of_neg (test_ascii hp hquote), List.countP_nil,
    Nat.add_zero]

/-- Words and numbers are ASCII. -/
theorem countP_word (hp : BeyondAscii p) {cs : List Char} (h : cs.all isWordChar = true) :
    cs.countP p = 0 :=
  countP_ascii hp fun c hc =>
    (toNat_of_isWordChar (List.all_eq_true.mp h c hc)).2.trans (by decide)

theorem countP_numberText (hp : BeyondAscii p) (x : Float) : (numberText x).toList.countP p = 0 := by
  rw [numberText]
  split
  · rename_i hx
    exact countP_word hp (List.all_eq_true.mpr (Number.wordText_render hx).word)
  · exact countP_word hp (by decide)

mutual

/-- Characters beyond ASCII are as many in the text of a value as in its strings. -/
theorem countP_chars (hp : BeyondAscii p) : ∀ j : Json, (chars j).countP p = tally p j.words
  | .null => countP_word hp (by decide)
  | .bool true => countP_word hp (by decide)
  | .bool false => countP_word hp (by decide)
  | .num x => countP_numberText hp x
  | .str s => by
      rw [chars, words, countP_quoteChars hp, tally_cons]
      rfl
  | .arr items => by
      -- The comma that is dropped in front is ASCII, so it does not count.
      have hitems : ((itemChars items).drop 1).countP p = (itemChars items).countP p := by
        cases items with
        | nil =>
            rfl
        | cons j js =>
            rw [itemChars, List.cons_append, List.countP_cons_of_neg (test_ascii hp (by decide))]
            rfl
      rw [chars, words, List.cons_append, List.countP_cons_of_neg (test_ascii hp (by decide)),
        List.countP_append, hitems, countP_itemChars hp items,
        List.countP_cons_of_neg (test_ascii hp (by decide)), List.countP_nil, Nat.add_zero]
  | .obj entries => by
      have hentries : ((entryChars entries).drop 1).countP p = (entryChars entries).countP p := by
        cases entries with
        | nil =>
            rfl
        | cons e es =>
            rw [entryChars, List.cons_append, List.cons_append,
              List.countP_cons_of_neg (test_ascii hp (by decide))]
            rfl
      rw [chars, words, List.cons_append, List.countP_cons_of_neg (test_ascii hp (by decide)),
        List.countP_append, hentries, countP_entryChars hp entries,
        List.countP_cons_of_neg (test_ascii hp (by decide)), List.countP_nil, Nat.add_zero]

/-- A list has those of its items. -/
theorem countP_itemChars (hp : BeyondAscii p) :
    ∀ js : List Json, (itemChars js).countP p = tally p (itemWords js)
  | [] => rfl
  | j :: js => by
      rw [itemChars, itemWords, List.cons_append,
        List.countP_cons_of_neg (test_ascii hp (by decide)), List.countP_append, tally_append,
        countP_chars hp j, countP_itemChars hp js]

/-- An object has those of its keys and its members. -/
theorem countP_entryChars (hp : BeyondAscii p) :
    ∀ es : List (String × Json), (entryChars es).countP p = tally p (entryWords es)
  | [] => rfl
  | (k, j) :: es => by
      have hsplit : entryChars ((k, j) :: es) =
          ',' :: (quoteChars k ++ ':' :: (chars j ++ entryChars es)) := by
        simp [entryChars]
      rw [hsplit, entryWords, List.countP_cons_of_neg (test_ascii hp (by decide)),
        List.countP_append, List.countP_cons_of_neg (test_ascii hp (by decide)),
        List.countP_append, List.cons_append, tally_cons, tally_append, countP_quoteChars hp,
        countP_chars hp j, countP_entryChars hp es]

end

end Json
end LineRpc
