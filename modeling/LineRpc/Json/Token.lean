/-!
# Token — the lexical units of a JSON text

A text is cut into punctuation, words and strings. White space between them is the space, the tab
and the two line ends only.

- `Json.Token`       : the units
- `Json.Token.scan?` : the units of a text, if it is made of units only
-/

namespace LineRpc
namespace Json

inductive Token
  | leftBrace
  | rightBrace
  | leftBracket
  | rightBracket
  | colon
  | comma
  | null
  | bool (b : Bool)
  | num (x : Float)
  | str (s : String)

namespace Token

/-! ## Strings -/

def hexDigit? (c : Char) : Option Nat :=
  let n := c.toNat
  if 0x30 ≤ n ∧ n ≤ 0x39 then some (n - 0x30)
  else if 0x41 ≤ n ∧ n ≤ 0x46 then some (n - 0x41 + 10)
  else if 0x61 ≤ n ∧ n ≤ 0x66 then some (n - 0x61 + 10)
  else none

def hex4? (a b c d : Char) : Option Nat := do
  let a ← hexDigit? a
  let b ← hexDigit? b
  let c ← hexDigit? c
  let d ← hexDigit? d
  pure (a * 0x1000 + b * 0x100 + c * 0x10 + d)

def escape? : Char → Option Char
  | '"' => some '"'
  | '\\' => some '\\'
  | '/' => some '/'
  | 'b' => some '\x08'
  | 'f' => some '\x0c'
  | 'n' => some '\n'
  | 'r' => some '\r'
  | 't' => some '\t'
  | _ => none

/-- What one step of reading a string gives: a character, or a code unit that was written as an
escape and may be half of a character. -/
inductive Piece
  | char (c : Char)
  | unit (n : Nat)
  deriving Repr, DecidableEq

/-- Read a string after its opening quote: its pieces and the text after the closing quote. -/
def pieces? : List Char → Option (List Piece × List Char)
  | [] => none
  | '"' :: rest => some ([], rest)
  | '\\' :: 'u' :: a :: b :: c :: d :: rest =>
      match hex4? a b c d with
      | none => none
      | some n => (pieces? rest).map fun (ps, t) => (.unit n :: ps, t)
  | '\\' :: c :: rest =>
      match escape? c with
      | none => none
      | some e => (pieces? rest).map fun (ps, t) => (.char e :: ps, t)
  | c :: rest =>
      -- A control character must be escaped, and a backslash that comes here begins no escape.
      if c.toNat < 0x20 ∨ c = '\\' then none
      else (pieces? rest).map fun (ps, t) => (.char c :: ps, t)

/-- Reading a string uses up at least its closing quote. -/
theorem length_of_pieces? {cs rest : List Char} {ps : List Piece}
    (h : pieces? cs = some (ps, rest)) : rest.length < cs.length := by
  fun_induction pieces? cs generalizing ps rest <;>
    grind [List.length_cons, Option.map_eq_some_iff]

def isHigh (n : Nat) : Bool :=
  0xD800 ≤ n && n ≤ 0xDBFF

def isLow (n : Nat) : Bool :=
  0xDC00 ≤ n && n ≤ 0xDFFF

/-- The character that two halves stand for together. -/
def joinHalves (high low : Nat) : Char :=
  Char.ofNat (0x10000 + (high - 0xD800) * 0x400 + (low - 0xDC00))

/-- The character put in place of a half that stands alone, which strings cannot hold. -/
def loneHalf : Char :=
  Char.ofNat 0xFFFD

def ofUnit (n : Nat) : Char :=
  if isLow n then loneHalf else Char.ofNat n

/-- Put pieces together. `high` is a first half that still waits for its second. -/
def assemble : (high : Option Nat) → List Piece → List Char
  | none, [] => []
  | some _, [] => [loneHalf]
  | none, .char c :: ps => c :: assemble none ps
  | some _, .char c :: ps => loneHalf :: c :: assemble none ps
  | none, .unit n :: ps =>
      if isHigh n then assemble (some n) ps else ofUnit n :: assemble none ps
  | some high, .unit n :: ps =>
      -- Without its second half the first one is given up, and this unit may be a first half again.
      if isLow n then joinHalves high n :: assemble none ps
      else if isHigh n then loneHalf :: assemble (some n) ps
      else loneHalf :: ofUnit n :: assemble none ps

/-! ## Numbers and words -/

def decimal (digits : List Char) : Nat :=
  digits.foldl (fun acc c => acc * 10 + (c.toNat - '0'.toNat)) 0

/-- Read an exponent after its mark: an optional sign and one digit or more. -/
def exponent? (cs : List Char) : Option Int :=
  let (negative, digits) : Bool × List Char :=
    match cs with
    | '+' :: ds => (false, ds)
    | '-' :: ds => (true, ds)
    | ds => (false, ds)
  if digits.isEmpty || !digits.all Char.isDigit then none
  else some (if negative then -(decimal digits : Int) else decimal digits)

/-- The nearest number to `digits * 10 ^ exponent`. -/
def nearest (digits : Nat) (exponent : Int) : Float :=
  Float.ofScientific digits (exponent < 0) exponent.natAbs

/-- Read a number without its sign: an integer part without needless zeros, then a fraction and an
exponent, each of which may be missing. -/
def unsigned? (cs : List Char) : Option Float :=
  let whole := cs.takeWhile Char.isDigit
  let rest := cs.dropWhile Char.isDigit
  -- A zero in front stands alone.
  if whole.isEmpty || (whole.length ≠ 1 && whole.head? = some '0') then none
  else
    let fraction? : Option (List Char × List Char) :=
      match rest with
      | '.' :: ds =>
          -- A point has digits after it.
          let digits := ds.takeWhile Char.isDigit
          if digits.isEmpty then none else some (digits, ds.dropWhile Char.isDigit)
      | ds => some ([], ds)
    match fraction? with
    | none => none
    | some (fraction, rest) =>
        let digits := decimal (whole ++ fraction)
        let places : Int := fraction.length
        match rest with
        | [] => some (nearest digits (-places))
        | c :: ds =>
            if c = 'e' ∨ c = 'E' then (exponent? ds).map fun e => nearest digits (e - places)
            else none

/-- Read a whole word as a number. -/
def number? : List Char → Option Float
  | '-' :: cs => (unsigned? cs).map (-·)
  | cs => unsigned? cs

def isWordChar (c : Char) : Bool :=
  c.isAlphanum || c == '+' || c == '-' || c == '.'

def word? (cs : List Char) : Option Token :=
  if cs = ['n', 'u', 'l', 'l'] then some .null
  else if cs = ['t', 'r', 'u', 'e'] then some (.bool true)
  else if cs = ['f', 'a', 'l', 's', 'e'] then some (.bool false)
  else (number? cs).map .num

/-! ## Whole texts -/

def isSpace (c : Char) : Bool :=
  c == ' ' || c == '\t' || c == '\n' || c == '\r'

def punctuation? : Char → Option Token
  | '{' => some .leftBrace
  | '}' => some .rightBrace
  | '[' => some .leftBracket
  | ']' => some .rightBracket
  | ':' => some .colon
  | ',' => some .comma
  | _ => none

/-- The units of a text, or nothing if some part of it is no unit. -/
def scan? : List Char → Option (List Token)
  | [] => some []
  | c :: cs =>
      if isSpace c then scan? cs
      else
        match punctuation? c with
        | some t => (scan? cs).map (t :: ·)
        | none =>
            if c = '"' then
              match _h : pieces? cs with
              | none => none
              | some (ps, rest) =>
                  (scan? rest).map (.str (String.ofList (assemble none ps)) :: ·)
            else
              -- A word goes as far as its characters go and is right or wrong as a whole.
              match word? (c :: cs.takeWhile isWordChar) with
              | none => none
              | some t => (scan? (cs.dropWhile isWordChar)).map (t :: ·)
termination_by cs => cs.length
decreasing_by
  · simp
  · simp
  · have := length_of_pieces? _h
    simp only [List.length_cons]
    omega
  · have := (List.dropWhile_sublist isWordChar (l := cs)).length_le
    simp only [List.length_cons]
    omega

end Token
end Json
end LineRpc
