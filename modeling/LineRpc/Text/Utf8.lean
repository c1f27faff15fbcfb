/-!
# Utf8 — reading octets as text

Input arrives as octets. A well-formed sequence gives its character; of an ill-formed one, each
longest prefix that could still have become a character, or else the single octet, gives U+FFFD.

- `Utf8.decode` : the text of a list of octets, whatever they are
- `Utf8.whole`  : octets without an unfinished character at their end
-/

namespace LineRpc
namespace Utf8

/-- What the first octet of a sequence asks for: how many octets follow, the bits it contributes
itself, and the range of the octet after it. -/
structure Lead where
  following : Nat
  bits : Nat
  low : Nat
  high : Nat
  deriving Repr, DecidableEq

/-- The lead of a sequence of two octets or more. The narrower ranges of the second octet keep out
overlong forms, surrogates, and values beyond U+10FFFF. -/
def lead? (b : UInt8) : Option Lead :=
  let n := b.toNat
  if 0xC2 ≤ n ∧ n ≤ 0xDF then some ⟨1, n - 0xC0, 0x80, 0xBF⟩
  else if n = 0xE0 then some ⟨2, 0, 0xA0, 0xBF⟩
  else if n = 0xED then some ⟨2, 13, 0x80, 0x9F⟩
  else if 0xE1 ≤ n ∧ n ≤ 0xEF then some ⟨2, n - 0xE0, 0x80, 0xBF⟩
  else if n = 0xF0 then some ⟨3, 0, 0x90, 0xBF⟩
  else if 0xF1 ≤ n ∧ n ≤ 0xF3 then some ⟨3, n - 0xF0, 0x80, 0xBF⟩
  else if n = 0xF4 then some ⟨3, 4, 0x80, 0x8F⟩
  else none

def replacement : Char :=
  Char.ofNat 0xFFFD

/-- Take up to `count` continuation octets, the first of them between `low` and `high`. Gives the
value so far when all were there, and the octets that were not taken. -/
def continue? : (count : Nat) → (acc low high : Nat) → List UInt8 → Option Nat × List UInt8
  | 0, acc, _, _, bs => (some acc, bs)
  | _ + 1, _, _, _, [] => (none, [])
  | count + 1, acc, low, high, b :: bs =>
      if low ≤ b.toNat ∧ b.toNat ≤ high then
        continue? count (acc * 64 + (b.toNat - 0x80)) 0x80 0xBF bs
      else
        (none, b :: bs)

theorem length_continue? (count acc low high : Nat) (bs : List UInt8) :
    (continue? count acc low high bs).2.length ≤ bs.length := by
  fun_induction continue? count acc low high bs with
  | case1 => simp
  | case2 => simp
  | case3 _ _ _ _ _ _ _ ih => simp only [List.length_cons]; omega
  | case4 => simp

/-- The text of a list of octets, with U+FFFD for what is no text. -/
def decodeChars : List UInt8 → List Char
  | [] => []
  | b :: bs =>
      if b.toNat < 0x80 then
        Char.ofNat b.toNat :: decodeChars bs
      else
        match lead? b with
        | none => replacement :: decodeChars bs
        | some l =>
            let taken := continue? l.following l.bits l.low l.high bs
            (match taken.1 with
              | some n => Char.ofNat n
              | none => replacement) :: decodeChars taken.2
termination_by bs => bs.length
decreasing_by
  · simp
  · simp
  · have := length_continue? l.following l.bits l.low l.high bs
    simp only [List.length_cons]
    omega

/-! ## The end of a stream -/

def isContinuation (b : UInt8) : Bool :=
  0x80 ≤ b.toNat && b.toNat ≤ 0xBF

/-- The length of the sequence that an octet announces by its leading bits, whether or not such a
sequence can be well-formed. -/
def announced (b : UInt8) : Nat :=
  let n := b.toNat
  if 0xC0 ≤ n ∧ n ≤ 0xDF then 2
  else if 0xE0 ≤ n ∧ n ≤ 0xEF then 3
  else if 0xF0 ≤ n ∧ n ≤ 0xF7 then 4
  else 1

/-- The number of octets at the end that wait for more: an octet that announces a sequence, and
fewer octets after it than announced. -/
def unfinished (bs : List UInt8) : Nat :=
  let tail := bs.reverse.takeWhile isContinuation
  match bs.reverse.drop tail.length with
  | [] => 0
  | b :: _ => if tail.length + 1 < announced b then tail.length + 1 else 0

/-- The octets of a stream that is over: an unfinished sequence at the end does not count. -/
def whole (bs : List UInt8) : List UInt8 :=
  bs.take (bs.length - unfinished bs)

/-- The text of a list of octets, with U+FFFD for what is no text. -/
def decode (bs : List UInt8) : String :=
  String.ofList (decodeChars bs)

end Utf8
end LineRpc
