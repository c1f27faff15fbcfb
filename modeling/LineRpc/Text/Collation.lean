import LineRpc.Text.Collation.Ideographs
import LineRpc.Text.Collation.Variants
import LineRpc.Text.Decomposition

/-!
# Collation — the order of names for readers

Names are ordered as a reader of English expects: punctuation before symbols before digits before
letters, letters by the alphabet, and one script after the other. Marks on letters decide only between
names with the same letters, and forms such as capitals only between names with the same letters and
marks, small letters first.

- `Collation.weights` : the weights of a character
- `Collation.key`     : the weights of a name, by their kind
- `Collation.le`      : the order of names
-/

namespace LineRpc
namespace Collation

/-- The weights of a character: its place among letters, which a mark does not have, its place among
marks, and the rank of its form. -/
structure Weight where
  letter : Nat
  mark : Nat
  form : Nat
  deriving DecidableEq, Repr

/-- The place among marks of a letter without a mark. -/
def unmarked : Nat :=
  1

/-! ## Plain English -/

def isPlain (c : Nat) : Bool :=
  c < 0x80

/-- The weights of a character of plain English; control characters have none. -/
def plainWeights (c : Nat) : List Weight :=
  let char := Char.ofNat c
  if char.isUpper then [⟨postPlace char.toLower, unmarked, Form.capital.rank⟩]
  else if posts.contains char then [⟨postPlace char, unmarked, Form.usual⟩]
  else []

/-! ## All characters -/

def within (first last c : Nat) : Bool :=
  first ≤ c && c ≤ last

/-- The character that stands between two names, before all others. -/
def separator : Nat :=
  0xFFFE

/-- The character that stands for one that cannot be written, after all others. -/
def replacement : Nat :=
  0xFFFD

/-- The character that stands for the end of all characters. -/
def farthest : Nat :=
  0xFFFF

/-- The place of a character that is in no table. Such characters come after all ideographs, by their
numbers, but for the three that have a place of their own at one of the ends. -/
def strayPlace (c : Nat) : Nat :=
  if c = separator then 1
  else if c = replacement then afterIdeographs + firstVariantMark
  else if c = farthest then afterIdeographs + firstVariantMark + 1
  else afterIdeographs + c

/-- The rank of a letter in its usual form. -/
def usualRank (c : Nat) : Nat :=
  if within 0x3041 0x3096 c then Form.usualSyllable else Form.usual

/-- How often a form can be a form of another; the tables need two. -/
def maxForms : Nat :=
  3

/-- The weights of a character. What is a form of others has their weights with its own rank. -/
def weights : (depth : Nat) → Nat → List Weight
  | depth, c =>
      if isPlain c then plainWeights c
      else if firstVariantMark ≤ c then
        [⟨0, unmarked + 1 + markPlaces + (c - firstVariantMark), Form.usual⟩]
      else if ignoredTable.contains c then []
      else
        match (placeTable.find? c).or (ideographTable.find? c), markTable.find? c,
          variantTable.find? c with
        | some s, _, _ => [⟨s.value + (c - s.first), unmarked, usualRank c⟩]
        | none, some s, _ => [⟨0, unmarked + 1 + s.value, Form.usual⟩]
        | none, none, none => [⟨strayPlace c, unmarked, Form.usual⟩]
        | none, none, some s =>
            match depth with
            | 0 => []
            | depth + 1 =>
                let (form, image) := s.value
                (Span.image ⟨s.first, s.last, image⟩ c).flatMap fun d =>
                  (weights depth d).map fun w => { w with form := form.apply w.form }

/-! ## Neighbours -/

/-- Join a character with what follows it, as far as pairs count as one. Marks that do not join are
passed over, as long as none at the same place of the letter has been. -/
def join (c : Nat) : (passed : List Nat) → List Nat → Nat × List Nat
  | passed, [] => (c, passed.reverse)
  | passed, d :: ds =>
      let free := match passed with
        | [] => true
        | p :: _ => Decomposition.classOf p < Decomposition.classOf d
      match if free then pair? c d else none with
      | some e => join e passed ds
      | none =>
          if Decomposition.classOf d = 0 then (c, passed.reverse ++ d :: ds)
          else join c (d :: passed) ds

/-- Join all characters that count as one. Each step takes one character. A second round takes up
marks that were passed over before the character behind them was joined. -/
def joinAll : (steps : Nat) → List Nat → List Nat
  | 0, cs => cs
  | _, [] => []
  | steps + 1, c :: cs =>
      let (d, ds) := join c [] cs
      let (e, es) := join d [] ds
      e :: joinAll steps es

/-- Whether a vowel that is written before a consonant stands before one. -/
def leads (vowel consonant : Nat) : Bool :=
  (within 0xE40 0xE44 vowel && within 0xE01 0xE2E consonant) ||
  (within 0xEC0 0xEC4 vowel && (within 0xE81 0xEAE consonant || within 0xEDC 0xEDF consonant)) ||
  ([0xAAB5, 0xAAB6, 0xAAB9, 0xAABB, 0xAABC].contains vowel && within 0xAA80 0xAAAF consonant) ||
  ([0x19B5, 0x19B6, 0x19B7, 0x19BA].contains vowel && within 0x1980 0x19AB consonant)

/-- Put vowels that are written before their consonants behind them. -/
def swapVowels : List Nat → List Nat
  | c :: d :: cs => if leads c d then d :: c :: swapVowels cs else c :: swapVowels (d :: cs)
  | cs => cs

/-- The characters of a name as they count. -/
def prepare (cs : List Nat) : List Nat :=
  if cs.all isPlain then cs
  else
    let parts := Decomposition.apart cs
    swapVowels (joinAll parts.length parts)

/-! ## Names -/

/-- The key of a name: all places among letters, then all places among marks, then all ranks. -/
def key (name : String) : List Nat × List Nat × List Nat :=
  let ws := (prepare (name.toList.map Char.toNat)).flatMap (weights maxForms)
  ((ws.map (·.letter)).filter (· ≠ 0), ws.map (·.mark), ws.map (·.form))

/-- Names in order: by letters, then by marks, then by forms. -/
def le (a b : String) : Bool :=
  let (p, s, t) := key a
  let (p', s', t') := key b
  match compare p p' with
  | .lt => true
  | .gt => false
  | .eq =>
      match compare s s' with
      | .lt => true
      | .gt => false
      | .eq => compare t t' != .gt

end Collation
end LineRpc
