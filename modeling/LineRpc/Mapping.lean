/-!
# Mapping — keyed values in property order

A mapping holds each key once. Keys that are canonical decimal integers below `4294967295` stand
first, by their number; all other keys follow in the order in which they were first set. Setting a
key again keeps its place and takes the new value.

- `Mapping.index?`   : the number of an index key
- `Mapping.set`      : set one key
- `Mapping.ofEntries`: set the keys of a list one after the other
- `Mapping.Ordered`  : the lists of entries that a mapping can hold
-/

namespace LineRpc

/-- The entries of a mapping, in property order. -/
abbrev Mapping (α : Type) :=
  List (String × α)

namespace Mapping

variable {α : Type}

/-! ## Index keys -/

def maxIndex : Nat :=
  4294967294

/-- The number behind a key that is a canonical decimal integer up to `maxIndex`. -/
def index? (key : String) : Option Nat :=
  let digits := key.toList
  if digits.isEmpty || !digits.all Char.isDigit then none
  else if digits.length ≠ 1 ∧ digits.head? = some '0' then none
  -- The largest index has ten digits, so longer keys need not be counted out.
  else if 10 < digits.length then none
  else
    let n := digits.foldl (fun acc c => acc * 10 + (c.toNat - '0'.toNat)) 0
    if n ≤ maxIndex then some n else none

/-- Whether a new key with the number `i`, if it has one, goes in front of a key that is already
there. -/
def goesBefore : (i : Option Nat) → (old : String) → Bool
  | none, _ => false
  | some i, old =>
      match index? old with
      | none => true
      | some j => i < j

def precedes (new old : String) : Bool :=
  goesBefore (index? new) old

/-! ## Reading and setting -/

def keys (m : Mapping α) : List String :=
  m.map Prod.fst

def get? (m : Mapping α) (key : String) : Option α :=
  m.lookup key

def contains (m : Mapping α) (key : String) : Bool :=
  (get? m key).isSome

/-- Set a key with the number `i`, if it has one: in its old place, or else in property order. -/
def place (i : Option Nat) (key : String) (a : α) : Mapping α → Mapping α
  | [] => [(key, a)]
  | (k, b) :: m =>
      if k = key then (key, a) :: m
      else if goesBefore i k then (key, a) :: (k, b) :: m
      else (k, b) :: place i key a m

/-- Set one key: in its old place if it has one, else in property order. -/
def set (m : Mapping α) (key : String) (a : α) : Mapping α :=
  place (index? key) key a m

def ofEntries (entries : List (String × α)) : Mapping α :=
  entries.foldl (fun m e => set m e.1 e.2) []

def reservedKey : String :=
  "__proto__"

/-- Later entries come after earlier ones: an index key stands only before larger index keys and
other keys, and no key stands twice. -/
def Ordered (m : Mapping α) : Prop :=
  m.Pairwise fun a b => a.1 ≠ b.1 ∧ precedes b.1 a.1 = false

end Mapping
end LineRpc
