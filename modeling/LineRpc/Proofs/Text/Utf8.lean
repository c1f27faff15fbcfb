import Mathlib.Tactic.IntervalCases
import Mathlib.Data.List.Basic
import LineRpc.Text.Utf8

/-!
# Utf8 — a text is read back from its octets

Every character is written as one to four octets, and these are read as the same character whatever
comes after them. The octets of a text that ends with a line end are a whole input: nothing at their
end waits for more.

* `Utf8.decodeChars_encodeChar` : one character
* `Utf8.decodeChars_encode`     : a text
* `Utf8.whole_line`             : the end of a line
-/

namespace LineRpc
namespace Utf8

/-! ## One character -/

/-- A lead and the octets that it asks for give a character, and the rest is left. -/
theorem decodeChars_sequence {b : UInt8} {bs rest : List UInt8} {l : Lead} {n : Nat}
    (hb : 0x80 ≤ b.toNat) (hl : lead? b = some l)
    (htaken : continue? l.following l.bits l.low l.high bs = (some n, rest)) :
    decodeChars (b :: bs) = Char.ofNat n :: decodeChars rest := by
  have hnot : ¬ b.toNat < 0x80 := Nat.not_lt.mpr hb
  rw [decodeChars, if_neg hnot, hl]
  simp only [htaken]

theorem toNat_ofNat {n : Nat} (h : n < 256) : (UInt8.ofNat n).toNat = n :=
  UInt8.toNat_ofNat_of_lt' h

/-- An octet in range goes on with the sequence. -/
theorem continue?_cons {n count acc low high : Nat} {bs : List UInt8} (hn : n < 256)
    (h : low ≤ n ∧ n ≤ high) :
    continue? (count + 1) acc low high (UInt8.ofNat n :: bs) =
      continue? count (acc * 64 + (n - 0x80)) 0x80 0xBF bs := by
  simp [continue?, toNat_ofNat hn, h]

theorem lead?_two {n : Nat} (h : 0xC2 ≤ n ∧ n ≤ 0xDF) :
    lead? (UInt8.ofNat n) = some ⟨1, n - 0xC0, 0x80, 0xBF⟩ := by
  have hn : (UInt8.ofNat n).toNat = n := toNat_ofNat (by omega)
  simp [lead?, hn, h]

/-- The lead of three octets keeps out what two octets could say, and the surrogates. -/
theorem lead?_three {n : Nat} (h : 0xE0 ≤ n ∧ n ≤ 0xEF) :
    lead? (UInt8.ofNat n) = some ⟨2, n - 0xE0, if n = 0xE0 then 0xA0 else 0x80,
      if n = 0xED then 0x9F else 0xBF⟩ := by
  have hn : (UInt8.ofNat n).toNat = n := toNat_ofNat (by omega)
  have htwo : ¬ (0xC2 ≤ n ∧ n ≤ 0xDF) := by omega
  have hrange : 0xE1 ≤ n ∧ n ≤ 0xEF ↔ n ≠ 0xE0 := by omega
  by_cases he : n = 0xE0
  · subst he
    rfl
  · by_cases hd : n = 0xED
    · subst hd
      rfl
    · simp only [lead?, hn, if_neg htwo, if_neg he, if_neg hd, if_pos (hrange.mpr he)]

/-- The lead of four octets keeps out what three octets could say, and what is no character. -/
theorem lead?_four {n : Nat} (h : 0xF0 ≤ n ∧ n ≤ 0xF4) :
    lead? (UInt8.ofNat n) = some ⟨3, n - 0xF0, if n = 0xF0 then 0x90 else 0x80,
      if n = 0xF4 then 0x8F else 0xBF⟩ := by
  obtain ⟨hlow, hhigh⟩ := h
  interval_cases n <;> rfl

variable (n₁ n₂ n₃ n₄ : Nat)

theorem le_toNat_ofNat {n : Nat} (h : 0x80 ≤ n ∧ n < 256) : 0x80 ≤ (UInt8.ofNat n).toNat := by
  simpa [toNat_ofNat h.2] using h.1

/-- A sequence of two octets is one character. -/
theorem decodeChars_two (h₁ : 0xC2 ≤ n₁ ∧ n₁ ≤ 0xDF) (h₂ : 0x80 ≤ n₂ ∧ n₂ ≤ 0xBF)
    (bs : List UInt8) :
    decodeChars (UInt8.ofNat n₁ :: UInt8.ofNat n₂ :: bs) =
      Char.ofNat ((n₁ - 0xC0) * 64 + (n₂ - 0x80)) :: decodeChars bs := by
  refine decodeChars_sequence (le_toNat_ofNat (by omega)) (lead?_two h₁) ?_
  exact continue?_cons (by omega) h₂

theorem decodeChars_three (h₁ : 0xE0 ≤ n₁ ∧ n₁ ≤ 0xEF)
    (h₂ : (if n₁ = 0xE0 then 0xA0 else 0x80) ≤ n₂ ∧ n₂ ≤ if n₁ = 0xED then 0x9F else 0xBF)
    (h₃ : 0x80 ≤ n₃ ∧ n₃ ≤ 0xBF) (bs : List UInt8) :
    decodeChars (UInt8.ofNat n₁ :: UInt8.ofNat n₂ :: UInt8.ofNat n₃ :: bs) =
      Char.ofNat (((n₁ - 0xE0) * 64 + (n₂ - 0x80)) * 64 + (n₃ - 0x80)) :: decodeChars bs := by
  have hsmall : n₂ < 256 := by
    split_ifs at h₂ <;> omega
  refine decodeChars_sequence (le_toNat_ofNat (by omega)) (lead?_three h₁) ?_
  exact (continue?_cons hsmall h₂).trans (continue?_cons (by omega) h₃)

theorem decodeChars_four (h₁ : 0xF0 ≤ n₁ ∧ n₁ ≤ 0xF4)
    (h₂ : (if n₁ = 0xF0 then 0x90 else 0x80) ≤ n₂ ∧ n₂ ≤ if n₁ = 0xF4 then 0x8F else 0xBF)
    (h₃ : 0x80 ≤ n₃ ∧ n₃ ≤ 0xBF) (h₄ : 0x80 ≤ n₄ ∧ n₄ ≤ 0xBF) (bs : List UInt8) :
    decodeChars (UInt8.ofNat n₁ :: UInt8.ofNat n₂ :: UInt8.ofNat n₃ :: UInt8.ofNat n₄ :: bs) =
      Char.ofNat ((((n₁ - 0xF0) * 64 + (n₂ - 0x80)) * 64 + (n₃ - 0x80)) * 64 + (n₄ - 0x80)) ::
        decodeChars bs := by
  have hsmall : n₂ < 256 := by
    split_ifs at h₂ <;> omega
  refine decodeChars_sequence (le_toNat_ofNat (by omega)) (lead?_four h₁) ?_
  exact (continue?_cons hsmall h₂).trans
    ((continue?_cons (by omega) h₃).trans (continue?_cons (by omega) h₄))

/-- The octets of a character are read as the character, whatever comes after them. -/
theorem decodeChars_encodeChar (c : Char) (bs : List UInt8) :
    decodeChars (String.utf8EncodeChar c ++ bs) = c :: decodeChars bs := by
  have hchar : Char.ofNat c.val.toNat = c := Char.ofNat_toNat c
  have hvalid : c.val.toNat < 0xD800 ∨ 0xDFFF < c.val.toNat ∧ c.val.toNat < 0x110000 := c.valid
  generalize hv : c.val.toNat = v at hchar hvalid
  simp only [String.utf8EncodeChar, hv]
  by_cases h₁ : v ≤ 0x7F
  · -- One octet is the character itself.
    have hb : (UInt8.ofNat v).toNat = v := toNat_ofNat (by omega)
    have hlow : v < 0x80 := by omega
    simp only [if_pos h₁, List.singleton_append, decodeChars, hb, if_pos hlow, hchar]
  by_cases h₂ : v ≤ 0x7FF
  · have hread := decodeChars_two (v / 64 % 32 + 192) (v % 64 + 128) (by omega)
      (by omega) bs
    have hvalue : (v / 64 % 32 + 192 - 0xC0) * 64 + (v % 64 + 128 - 0x80) = v := by omega
    simpa only [if_neg h₁, if_pos h₂, hvalue, hchar, List.cons_append,
      List.nil_append] using hread
  by_cases h₃ : v ≤ 0xFFFF
  · have hread := decodeChars_three (v / 4096 % 16 + 224) (v / 64 % 64 + 128)
      (v % 64 + 128) (by omega) (by split_ifs <;> omega) (by omega) bs
    have hvalue : ((v / 4096 % 16 + 224 - 0xE0) * 64 + (v / 64 % 64 + 128 - 0x80)) * 64 +
        (v % 64 + 128 - 0x80) = v := by omega
    simpa only [if_neg h₁, if_neg h₂, if_pos h₃, hvalue, hchar, List.cons_append,
      List.nil_append] using hread
  · have hread := decodeChars_four (v / 262144 % 8 + 240) (v / 4096 % 64 + 128)
      (v / 64 % 64 + 128) (v % 64 + 128) (by omega) (by split_ifs <;> omega)
      (by omega) (by omega) bs
    have hvalue : (((v / 262144 % 8 + 240 - 0xF0) * 64 + (v / 4096 % 64 + 128 - 0x80)) * 64 +
        (v / 64 % 64 + 128 - 0x80)) * 64 + (v % 64 + 128 - 0x80) = v := by omega
    simpa only [if_neg h₁, if_neg h₂, if_neg h₃, hvalue, hchar, List.cons_append,
      List.nil_append] using hread

/-! ## A text -/

/-- The octets of a text. -/
def encode (s : String) : List UInt8 :=
  s.toUTF8.data.toList

/-- A text is encoded character by character. -/
theorem encode_eq (s : String) : encode s = s.toList.flatMap String.utf8EncodeChar := by
  have htext : (String.ofList s.toList).toByteArray = s.toList.utf8Encode :=
    String.toByteArray_ofList
  have hchars : s.toByteArray = (s.toList.flatMap String.utf8EncodeChar).toByteArray := by
    simpa [List.utf8Encode] using htext
  simp [encode, hchars]

/-- An encoded text is read back. -/
theorem decodeChars_encode (s : String) : decodeChars (encode s) = s.toList := by
  have hchars (cs : List Char) : decodeChars (cs.flatMap String.utf8EncodeChar) = cs := by
    induction cs with
    | nil =>
        simp [decodeChars]
    | cons c cs ih =>
        simp [decodeChars_encodeChar, ih]
  simpa [encode_eq] using hchars s.toList

/-- Nothing waits for more after an octet that is a character of its own. -/
theorem whole_concat {b : UInt8} (hb : b.toNat < 0x80) (bs : List UInt8) :
    whole (bs ++ [b]) = bs ++ [b] := by
  have hcontinuation : isContinuation b = false := by
    have : ¬ 0x80 ≤ b.toNat := Nat.not_le.mpr hb
    simp [isContinuation, this]
  have hannounced : announced b = 1 := by
    have h₂ : ¬ (0xC0 ≤ b.toNat ∧ b.toNat ≤ 0xDF) := by omega
    have h₃ : ¬ (0xE0 ≤ b.toNat ∧ b.toNat ≤ 0xEF) := by omega
    have h₄ : ¬ (0xF0 ≤ b.toNat ∧ b.toNat ≤ 0xF7) := by omega
    simp only [announced, if_neg h₂, if_neg h₃, if_neg h₄]
  have hnone : unfinished (bs ++ [b]) = 0 := by
    simp [unfinished, hcontinuation, hannounced]
  simp [whole, hnone, List.take_of_length_le]

/-- A line with its end is a whole input. -/
theorem whole_line (s : String) : whole (encode (s ++ "\n")) = encode (s ++ "\n") := by
  have hend : encode (s ++ "\n") = encode s ++ [10] := by
    have hchar : String.utf8EncodeChar '\n' = [10] := by decide
    simp [encode_eq, hchar]
  simpa [hend] using whole_concat (b := 10) (by decide) (encode s)

end Utf8
end LineRpc
