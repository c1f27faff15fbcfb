import LineRpc.Json.Parser
import LineRpc.Proofs.Json.Scan
import LineRpc.Proofs.Mapping

/-!
# ReadBack — every written text is read

Reading what was written gives the value again, up to what the text cannot say: a number that is
not finite was written as null, and the negative zero as zero. Keys come out in property order.

* `Json.settle`    : what is left of a value
* `scan?_chars`    : the text of a value has the units of the value
* `run?_tokens`    : the units of a value drive the machine to the value
* `parse?_render`  : the two together
-/

namespace LineRpc
namespace Json

open Token

/-! ## What a text says of a value -/

/-- A number as it is read back. -/
def settleNumber (x : Float) : Json :=
  if x.isFinite then .num (Number.unsignedZero x) else .null

mutual

/-- A value as it is read back. -/
def settle : Json → Json
  | .null => .null
  | .bool b => .bool b
  | .num x => settleNumber x
  | .str s => .str s
  | .arr items => .arr (settleItems items)
  | .obj entries => .obj (Mapping.ofEntries (settleEntries entries))

/-- Items as they are read back. -/
def settleItems : List Json → List Json
  | [] => []
  | j :: js => settle j :: settleItems js

/-- Entries as they are read back. -/
def settleEntries : List (String × Json) → List (String × Json)
  | [] => []
  | (k, j) :: es => (k, settle j) :: settleEntries es

end

/-- A finite number settles to itself, but for the sign of zero. -/
theorem settleNumber_of_isFinite {x : Float} (h : x.isFinite = true) :
    settleNumber x = .num (Number.unsignedZero x) := by
  rw [settleNumber, if_pos h]

theorem settleItems_eq (js : List Json) : settleItems js = js.map settle := by
  induction js with
  | nil =>
      rfl
  | cons j js ih =>
      rw [settleItems, ih, List.map_cons]

theorem settleEntries_eq (es : List (String × Json)) :
    settleEntries es = Mapping.mapValues settle es := by
  induction es with
  | nil =>
      rfl
  | cons e es ih =>
      rcases e with ⟨k, j⟩
      rw [settleEntries, ih, Mapping.mapValues_cons]

/-- An object in order settles member by member. -/
theorem settle_obj {es : List (String × Json)} (h : Mapping.Ordered es) :
    settle (.obj es) = .obj (Mapping.mapValues settle es) := by
  rw [settle, settleEntries_eq, Mapping.ofEntries_of_ordered (Mapping.ordered_mapValues h)]

/-- A list of settled documents is settled. -/
theorem settle_arr_fixed {js : List Json} (h : ∀ j ∈ js, settle j = j) :
    settle (.arr js) = .arr js := by
  have hmap : js.map settle = js := by
    conv_rhs => rw [← List.map_id js]
    exact List.map_congr_left h
  rw [settle, settleItems_eq, hmap]

theorem settle_obj_fixed {es : List (String × Json)} (ho : Mapping.Ordered es)
    (h : ∀ e ∈ es, settle e.2 = e.2) : settle (.obj es) = .obj es := by
  rw [settle_obj ho, Mapping.mapValues_fixed h]

theorem settle_single (k : String) (j : Json) : settle (.obj [(k, j)]) = .obj [(k, settle j)] :=
  settle_obj (List.pairwise_singleton _ _)

theorem settle_single_fixed {k : String} {j : Json} (h : settle j = j) :
    settle (.obj [(k, j)]) = .obj [(k, j)] := by
  rw [settle_single, h]

/-! ## Units of a value -/

/-- The unit of a number. -/
def numberToken (x : Float) : Token :=
  if x.isFinite then .num (Number.unsignedZero x) else .null

mutual

/-- The units of a value. -/
def tokens : Json → List Token
  | .null => [.null]
  | .bool b => [.bool b]
  | .num x => [numberToken x]
  | .str s => [.str s]
  | .arr items => .leftBracket :: (itemTokens items).drop 1 ++ [.rightBracket]
  | .obj entries => .leftBrace :: (entryTokens entries).drop 1 ++ [.rightBrace]

/-- The units of items, each with a comma in front. -/
def itemTokens : List Json → List Token
  | [] => []
  | j :: js => .comma :: tokens j ++ itemTokens js

/-- The units of entries, each with a comma in front. -/
def entryTokens : List (String × Json) → List Token
  | [] => []
  | (k, j) :: es => .comma :: .str k :: .colon :: tokens j ++ entryTokens es

end

/-! ## Scanning -/

theorem wordEnds_itemChars (js : List Json) (rest : List Char) :
    WordEnds (itemChars js ++ ']' :: rest) := by
  cases js with
  | nil =>
      exact wordEnds_cons (by decide)
  | cons j js =>
      exact wordEnds_cons (by decide)

theorem wordEnds_entryChars (es : List (String × Json)) (rest : List Char) :
    WordEnds (entryChars es ++ '}' :: rest) := by
  cases es with
  | nil =>
      exact wordEnds_cons (by decide)
  | cons e es =>
      exact wordEnds_cons (by decide)

/-- A word that reads as a number is a number. -/
theorem word?_number {cs : List Char} {x : Float} (h : Number.WordText cs)
    (hx : number? cs = some x) : word? cs = some (.num x) := by
  rcases h.start with ⟨c, hc, hstart⟩
  have hne (d : Char) (ds : List Char) (hd : d.isDigit = false) (hm : d ≠ '-') : cs ≠ d :: ds := by
    rintro rfl
    injection hc with hc
    subst hc
    rcases hstart with hs | hs
    · rw [hd] at hs
      cases hs
    · exact hm hs
  rw [word?, if_neg (hne _ _ (by decide) (by decide)), if_neg (hne _ _ (by decide) (by decide)),
    if_neg (hne _ _ (by decide) (by decide)), hx, Option.map_some]

theorem scan?_null {rest : List Char} (hr : WordEnds rest) :
    scan? ("null".toList ++ rest) = (scan? rest).map (.null :: ·) := by
  have hlist : "null".toList = ['n', 'u', 'l', 'l'] := rfl
  rw [hlist]
  exact scan?_word (List.all_eq_true.mp rfl) (by simp) rfl hr

theorem scan?_bool (b : Bool) {rest : List Char} (hr : WordEnds rest) :
    scan? (chars (.bool b) ++ rest) = (scan? rest).map (.bool b :: ·) := by
  have htrue : chars (.bool true) = ['t', 'r', 'u', 'e'] := rfl
  have hfalse : chars (.bool false) = ['f', 'a', 'l', 's', 'e'] := rfl
  cases b with
  | false =>
      rw [hfalse]
      exact scan?_word (List.all_eq_true.mp rfl) (by simp) rfl hr
  | true =>
      rw [htrue]
      exact scan?_word (List.all_eq_true.mp rfl) (by simp) rfl hr

/-- The scanner finds each number that is written. -/
theorem scan?_number (x : Float) {rest : List Char} (hr : WordEnds rest) :
    scan? ((numberText x).toList ++ rest) = (scan? rest).map (numberToken x :: ·) := by
  rw [numberText, numberToken]
  split
  · rename_i hx
    have hw := Number.wordText_render hx
    rcases hw.start with ⟨c, hc, -⟩
    refine scan?_word hw.word ?_ (word?_number hw (Number.number?_render hx)) hr
    intro hnil
    rw [hnil] at hc
    cases hc
  · exact scan?_null hr

-- What follows a value must not go on with a word, or a number and what follows would be one unit.
mutual

/-- The text of a value has the units of the value. -/
theorem scan?_chars : ∀ (j : Json) {rest : List Char}, WordEnds rest →
    scan? (chars j ++ rest) = (scan? rest).map (tokens j ++ ·)
  | .null, _, hr => scan?_null hr
  | .bool b, _, hr => scan?_bool b hr
  | .num x, _, hr => scan?_number x hr
  | .str s, rest, _ => scan?_quote s rest
  | .arr [], rest, _ => by
      change scan? ('[' :: ']' :: rest) = _
      rw [scan?_punctuation _ rfl rfl, scan?_punctuation _ rfl rfl, Option.map_map]
      rfl
  | .arr (j :: js), rest, _ => by
      -- The first item has no comma in front, so it is taken apart from the others.
      have hsplit : chars (.arr (j :: js)) ++ rest =
          '[' :: (chars j ++ (itemChars js ++ ']' :: rest)) := by
        simp [chars, itemChars]
      rw [hsplit, scan?_punctuation _ rfl rfl, scan?_chars j (wordEnds_itemChars js rest),
        scan?_itemChars js rest, scan?_punctuation _ rfl rfl]
      simp only [Option.map_map, tokens, itemTokens]
      congr 1
      funext ts
      simp
  | .obj [], rest, _ => by
      change scan? ('\x7b' :: '\x7d' :: rest) = _
      rw [scan?_punctuation _ rfl rfl, scan?_punctuation _ rfl rfl, Option.map_map]
      rfl
  | .obj ((k, j) :: es), rest, _ => by
      have hsplit : chars (.obj ((k, j) :: es)) ++ rest =
          '\x7b' :: (quoteChars k ++ ':' :: (chars j ++ (entryChars es ++ '\x7d' :: rest))) := by
        simp [chars, entryChars]
      rw [hsplit, scan?_punctuation _ rfl rfl, scan?_quote, scan?_punctuation _ rfl rfl,
        scan?_chars j (wordEnds_entryChars es rest), scan?_entryChars es rest,
        scan?_punctuation _ rfl rfl]
      simp only [Option.map_map, tokens, entryTokens]
      congr 1
      funext ts
      simp

/-- The scanner finds the items of a list, up to the closing bracket. -/
theorem scan?_itemChars : ∀ (js : List Json) (rest : List Char),
    scan? (itemChars js ++ ']' :: rest) = (scan? (']' :: rest)).map (itemTokens js ++ ·)
  | [], rest => by simp [itemChars, itemTokens]
  | j :: js, rest => by
      have hsplit : itemChars (j :: js) ++ ']' :: rest =
          ',' :: (chars j ++ (itemChars js ++ ']' :: rest)) := by
        simp [itemChars]
      rw [hsplit, scan?_punctuation _ rfl rfl, scan?_chars j (wordEnds_itemChars js rest),
        scan?_itemChars js rest]
      simp only [Option.map_map, itemTokens]
      congr 1
      funext ts
      simp

/-- The scanner finds the members of an object, up to the closing brace. -/
theorem scan?_entryChars : ∀ (es : List (String × Json)) (rest : List Char),
    scan? (entryChars es ++ '\x7d' :: rest) = (scan? ('\x7d' :: rest)).map (entryTokens es ++ ·)
  | [], rest => by simp [entryChars, entryTokens]
  | (k, j) :: es, rest => by
      have hsplit : entryChars ((k, j) :: es) ++ '\x7d' :: rest =
          ',' :: (quoteChars k ++ ':' :: (chars j ++ (entryChars es ++ '\x7d' :: rest))) := by
        simp [entryChars]
      rw [hsplit, scan?_punctuation _ rfl rfl, scan?_quote, scan?_punctuation _ rfl rfl,
        scan?_chars j (wordEnds_entryChars es rest), scan?_entryChars es rest]
      simp only [Option.map_map, entryTokens]
      congr 1
      funext ts
      simp

end

/-! ## The machine -/

theorem run?_cons (s : State) (t : Token) (ts : List Token) :
    run? s (t :: ts) = (step? s t).bind fun s' => run? s' ts :=
  rfl

/-- No value begins with the end of a list. -/
theorem tokens_eq_cons (j : Json) : ∃ t ts, tokens j = t :: ts ∧ t ≠ .rightBracket := by
  cases j with
  | null =>
      exact ⟨_, _, rfl, by simp⟩
  | bool b =>
      exact ⟨_, _, rfl, by simp⟩
  | num x =>
      refine ⟨_, _, rfl, ?_⟩
      rw [numberToken]
      split <;> simp
  | str s =>
      exact ⟨_, _, rfl, by simp⟩
  | arr items =>
      exact ⟨_, _, rfl, by simp⟩
  | obj entries =>
      exact ⟨_, _, rfl, by simp⟩

/-- A first item is read like any other value. -/
theorem run?_item (j : Json) (stack : List Frame) (ts : List Token) :
    run? (.item (.arr [] :: stack)) (tokens j ++ ts) =
      run? (.value (.arr [] :: stack)) (tokens j ++ ts) := by
  rcases tokens_eq_cons j with ⟨t, ts', ht, hne⟩
  have hstep : step? (.item (.arr [] :: stack)) t = step? (.value (.arr [] :: stack)) t := by
    cases t <;> first | rfl | exact absurd rfl hne
  rw [ht, List.cons_append, run?_cons, run?_cons, hstep]

/-- A number token is a settled number. -/
theorem step?_number (x : Float) (stack : List Frame) :
    step? (.value stack) (numberToken x) = some (.done (settleNumber x) stack) := by
  rw [numberToken, settleNumber]
  split <;> rfl

-- The stack below a value is left as it is, so the items of a list can be taken one by one.
mutual

/-- The units of a value drive the machine to the value. -/
theorem run?_tokens : ∀ (j : Json) (stack : List Frame) (ts : List Token),
    run? (.value stack) (tokens j ++ ts) = run? (.done (settle j) stack) ts
  | .null, _, _ => rfl
  | .bool _, _, _ => rfl
  | .num x, stack, ts => by
      change run? (.value stack) (numberToken x :: ts) = _
      rw [run?_cons, step?_number]
      rfl
  | .str _, _, _ => rfl
  | .arr [], _, _ => rfl
  | .arr (j :: js), stack, ts => by
      have hsplit : tokens (.arr (j :: js)) ++ ts =
          .leftBracket :: (tokens j ++ (itemTokens js ++ .rightBracket :: ts)) := by
        simp [tokens, itemTokens]
      rw [hsplit, run?_cons]
      -- The list is open with nothing in it when its first item is read.
      change run? (.item (.arr [] :: stack)) _ = _
      rw [run?_item, run?_tokens j, run?_itemTokens js]
      rfl
  | .obj [], _, _ => rfl
  | .obj ((k, j) :: es), stack, ts => by
      have hsplit : tokens (.obj ((k, j) :: es)) ++ ts =
          .leftBrace :: .str k :: .colon ::
            (tokens j ++ (entryTokens es ++ .rightBrace :: ts)) := by
        simp [tokens, entryTokens]
      rw [hsplit]
      change run? (.value (.obj [] k :: stack)) _ = _
      rw [run?_tokens j, run?_entryTokens es]
      rfl

/-- The machine gathers the items of a list, settled. -/
theorem run?_itemTokens : ∀ (js : List Json) (v : Json) (items : List Json) (stack : List Frame)
    (ts : List Token),
    run? (.done v (.arr items :: stack)) (itemTokens js ++ .rightBracket :: ts) =
      run? (.done (.arr ((v :: items).reverse ++ settleItems js)) stack) ts
  | [], v, items, stack, ts => by
      rw [settleItems, List.append_nil]
      rfl
  | j :: js, v, items, stack, ts => by
      have hsplit : itemTokens (j :: js) ++ .rightBracket :: ts =
          .comma :: (tokens j ++ (itemTokens js ++ .rightBracket :: ts)) := by
        simp [itemTokens]
      rw [hsplit]
      change run? (.value (.arr (v :: items) :: stack)) _ = _
      rw [run?_tokens j, run?_itemTokens js, settleItems, @List.reverse_cons _ (settle j) (v :: items),
        List.append_assoc]
      rfl

/-- The machine gathers the members of an object, settled and set one by one. -/
theorem run?_entryTokens : ∀ (es : List (String × Json)) (v : Json) (entries : Mapping Json)
    (k : String) (stack : List Frame) (ts : List Token),
    run? (.done v (.obj entries k :: stack)) (entryTokens es ++ .rightBrace :: ts) =
      run? (.done (.obj ((settleEntries es).foldl (fun m e => Mapping.set m e.1 e.2)
        (Mapping.set entries k v))) stack) ts
  | [], _, _, _, _, _ => rfl
  | (k', j) :: es, v, entries, k, stack, ts => by
      have hsplit : entryTokens ((k', j) :: es) ++ .rightBrace :: ts =
          .comma :: .str k' :: .colon ::
            (tokens j ++ (entryTokens es ++ .rightBrace :: ts)) := by
        simp [entryTokens]
      rw [hsplit]
      change run? (.value (.obj (Mapping.set entries k v) k' :: stack)) _ = _
      rw [run?_tokens j, run?_entryTokens es]
      rfl

end

/-- Every written text is read, as what is left of the value that was written. -/
theorem parse?_render (j : Json) : parse? (render j) = some (settle j) := by
  have hscan := scan?_chars j wordEnds_nil
  have hrun := run?_tokens j [] []
  rw [List.append_nil] at hscan hrun
  rw [parse?, render, String.toList_ofList, hscan, scan?, Option.map_some, Option.bind_some,
    List.append_nil, ofTokens?, hrun]
  rfl

end Json
end LineRpc
