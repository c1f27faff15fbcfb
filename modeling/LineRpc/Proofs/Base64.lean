import LineRpc.Base64

/-!
# Base64 — octets survive their text

Every group of characters gives back the octets that it was written for. Which texts are read at all
is said by a grammar: four characters of the alphabet are twenty-four bits, that is three octets,
and only the last group may be short, filled up with `=`.

* `value?_digit`         : a character of the alphabet has the number it was written for
* `decodeChars?_encode`  : characters give back the octets
* `decode?_encode`       : the text gives back the octets
* `Spells`               : the texts that spell octets
* `decode?_eq_some`      : exactly these texts are read, and as these octets
-/

namespace LineRpc
namespace Base64

/-- A character of the alphabet has the number that it was written for, and is no filling. -/
theorem value?_digit : ∀ n < 64, value? (digit n) = some n ∧ digit n ≠ '=' := by
  decide

variable (a b c : UInt8)

/-- The first octet of a group comes back from its first two digits. -/
theorem first_eq : first (a.toNat / 4) (a.toNat % 4 * 16 + b.toNat / 16) = a := by
  have hb : b.toNat < 256 := b.toNat_lt
  apply UInt8.toNat_inj.mp
  rw [first, UInt8.toNat_ofNat']
  have ha : a.toNat < 256 := a.toNat_lt
  omega

/-- The second comes back from the second and third digit. -/
theorem second_eq :
    second (a.toNat % 4 * 16 + b.toNat / 16) (b.toNat % 16 * 4 + c.toNat / 64) = b := by
  have hb : b.toNat < 256 := b.toNat_lt
  have hc : c.toNat < 256 := c.toNat_lt
  apply UInt8.toNat_inj.mp
  rw [second, UInt8.toNat_ofNat']
  omega

theorem third_eq : third (b.toNat % 16 * 4 + c.toNat / 64) (c.toNat % 64) = c := by
  have hc : c.toNat < 256 := c.toNat_lt
  apply UInt8.toNat_inj.mp
  rw [third, UInt8.toNat_ofNat']
  omega

/-- Four characters of which the last is no filling are one group, and the rest is read after
it. -/
theorem decodeChars?_group {w x y z : Char} (rest : List Char) (hy : y ≠ '=') (hz : z ≠ '=') :
    decodeChars? (w :: x :: y :: z :: rest) = (do
      let p ← value? w
      let q ← value? x
      let r ← value? y
      let s ← value? z
      let bs ← decodeChars? rest
      pure (first p q :: second q r :: third r s :: bs)) := by
  rw [decodeChars?]
  · intro hy' _ _
    exact hy hy'
  · intro hz' _
    exact hz hz'

/-- Characters give back the octets that they were written for. -/
theorem decodeChars?_encode (bs : Octets) : decodeChars? (encodeChars bs) = some bs := by
  induction bs using encodeChars.induct with
  | case1 =>
      rfl
  | case2 a =>
      -- One octet at the end: two characters, the low bits of the second are zero.
      have ha : a.toNat < 256 := a.toNat_lt
      have hp := (value?_digit (a.toNat / 4) (by omega)).1
      have hq := (value?_digit (a.toNat % 4 * 16) (by omega)).1
      have hfirst := first_eq a 0
      simp only [encodeChars, decodeChars?, hp, hq]
      simpa using hfirst
  | case3 a b =>
      -- Two octets at the end: three characters.
      have ha : a.toNat < 256 := a.toNat_lt
      have hb : b.toNat < 256 := b.toNat_lt
      have hp := (value?_digit (a.toNat / 4) (by omega)).1
      have hq := (value?_digit (a.toNat % 4 * 16 + b.toNat / 16) (by omega)).1
      rcases value?_digit (b.toNat % 16 * 4) (by omega) with ⟨hr, hne⟩
      have hfirst := first_eq a b
      have hsecond := second_eq a b 0
      rw [encodeChars, decodeChars?]
      · simp only [hp, hq, hr, Option.bind_eq_bind, Option.bind_some]
        simpa [hfirst] using hsecond
      · exact hne
  | case4 a b c rest ih =>
      -- A full group has no filling, so the rest is read after it.
      have ha : a.toNat < 256 := a.toNat_lt
      have hb : b.toNat < 256 := b.toNat_lt
      have hc : c.toNat < 256 := c.toNat_lt
      have hp := (value?_digit (a.toNat / 4) (by omega)).1
      have hq := (value?_digit (a.toNat % 4 * 16 + b.toNat / 16) (by omega)).1
      rcases value?_digit (b.toNat % 16 * 4 + c.toNat / 64) (by omega) with ⟨hr, hy⟩
      rcases value?_digit (c.toNat % 64) (by omega) with ⟨hs, hz⟩
      rw [encodeChars, decodeChars?_group _ hy hz]
      simp only [hp, hq, hr, hs, ih, Option.bind_eq_bind, Option.bind_some, first_eq a b,
        second_eq a b c, third_eq b c]
      rfl

/-- The text gives back the octets that it was written for. -/
theorem decode?_encode (bs : Octets) : decode? (encode bs) = some bs := by
  rw [decode?, encode, String.toList_ofList, decodeChars?_encode]

/-! ## The grammar -/

/-- The alphabet; a character stands for its place. -/
def alphabet : List Char :=
  "ABCDEFGHIJKLMNOPQRSTUVWXYZabcdefghijklmnopqrstuvwxyz0123456789+/".toList

/-- Characters that spell octets. The bits of a group come in the order of its characters; those of
a short group that no octet uses may be anything. -/
inductive Spells : List Char → Octets → Prop
  | nil : Spells [] []
  | one {w x : Char} {p q : Nat} {a : UInt8} (hw : alphabet[p]? = some w) (hx : alphabet[q]? = some x)
      (bits : (p * 64 + q) / 16 = a.toNat) : Spells [w, x, '=', '='] [a]
  | two {w x y : Char} {p q r : Nat} {a b : UInt8} (hw : alphabet[p]? = some w)
      (hx : alphabet[q]? = some x) (hy : alphabet[r]? = some y)
      (bits : ((p * 64 + q) * 64 + r) / 4 = a.toNat * 256 + b.toNat) : Spells [w, x, y, '='] [a, b]
  | three {w x y z : Char} {p q r s : Nat} {a b c : UInt8} {rest : List Char} {bs : Octets}
      (hw : alphabet[p]? = some w) (hx : alphabet[q]? = some x) (hy : alphabet[r]? = some y)
      (hz : alphabet[s]? = some z)
      (bits : ((p * 64 + q) * 64 + r) * 64 + s = (a.toNat * 256 + b.toNat) * 256 + c.toNat)
      (more : Spells rest bs) : Spells (w :: x :: y :: z :: rest) (a :: b :: c :: bs)

/-- A character with a number is the one that is written for it. -/
theorem digit_of_value? {c : Char} {n : Nat} (h : value? c = some n) : n < 64 ∧ digit n = c := by
  have hchar {k : Nat} (hk : k = c.toNat) : Char.ofNat k = c := by
    rw [hk, Char.ofNat_toNat]
  have hupper : 'A'.toNat = 0x41 := rfl
  have hlower : 'a'.toNat = 0x61 := rfl
  have hdigit : '0'.toNat = 0x30 := rfl
  simp only [value?] at h
  -- The three ranges of the alphabet, and the two characters at its end.
  split at h
  · cases h
    refine ⟨by omega, ?_⟩
    rw [digit, if_pos (by omega)]
    exact hchar (by omega)
  split at h
  · cases h
    refine ⟨by omega, ?_⟩
    rw [digit, if_neg (by omega), if_pos (by omega)]
    exact hchar (by omega)
  split at h
  · cases h
    refine ⟨by omega, ?_⟩
    rw [digit, if_neg (by omega), if_neg (by omega), if_pos (by omega)]
    exact hchar (by omega)
  split at h
  · rename_i hplus
    cases h
    exact ⟨by omega, hplus.symm⟩
  split at h
  · rename_i hslash
    cases h
    exact ⟨by omega, hslash.symm⟩
  · cases h

/-- Each of the sixty-four values has one digit, which has that value. -/
theorem alphabet_digit : ∀ n < 64, alphabet[n]? = some (digit n) ∧ value? (digit n) = some n := by
  decide +kernel

theorem length_alphabet : alphabet.length = 64 := by
  decide

/-- The characters that have a number are those of the alphabet, each at its place. -/
theorem value?_eq_some {c : Char} {n : Nat} : value? c = some n ↔ alphabet[n]? = some c := by
  constructor
  · intro h
    obtain ⟨hn, hc⟩ := digit_of_value? h
    rw [(alphabet_digit n hn).1, hc]
  · intro h
    have hn : n < 64 := by
      rw [← length_alphabet]
      exact (List.getElem?_eq_some_iff.mp h).1
    obtain ⟨hat, hvalue⟩ := alphabet_digit n hn
    rw [hat, Option.some_inj] at h
    rw [← h, hvalue]

theorem lt_of_alphabet {c : Char} {n : Nat} (h : alphabet[n]? = some c) : n < 64 :=
  (digit_of_value? (value?_eq_some.mpr h)).1

theorem ne_filling {c : Char} {n : Nat} (h : alphabet[n]? = some c) : c ≠ '=' := by
  rintro rfl
  cases value?_eq_some.mpr h

section Bits

-- The octets of a group, from the numbers of its characters.
variable {p q r s : Nat} {a b c : UInt8}

/-- Two digits hold one octet and four bits that are dropped. -/
theorem oneOctet_iff (hp : p < 64) (hq : q < 64) : first p q = a ↔ (p * 64 + q) / 16 = a.toNat := by
  rw [first, ← UInt8.toNat_inj, UInt8.toNat_ofNat']
  omega

theorem twoOctets_iff (hp : p < 64) (hq : q < 64) (hr : r < 64) :
    first p q = a ∧ second q r = b ↔
      ((p * 64 + q) * 64 + r) / 4 = a.toNat * 256 + b.toNat := by
  have hb := b.toNat_lt
  rw [oneOctet_iff hp hq, second, ← UInt8.toNat_inj, UInt8.toNat_ofNat']
  omega

/-- Four digits hold three octets, with no bit to spare. -/
theorem threeOctets_iff (hp : p < 64) (hq : q < 64) (hr : r < 64) (hs : s < 64) :
    first p q = a ∧ second q r = b ∧ third r s = c ↔
      ((p * 64 + q) * 64 + r) * 64 + s = (a.toNat * 256 + b.toNat) * 256 + c.toNat := by
  have hc := c.toNat_lt
  rw [← and_assoc, twoOctets_iff hp hq hr, third, ← UInt8.toNat_inj, UInt8.toNat_ofNat']
  omega

end Bits

/-- What is read is spelled: the octets of a group are its bits. -/
theorem spells_of_decodeChars? {cs : List Char} {bs : Octets} (h : decodeChars? cs = some bs) :
    Spells cs bs := by
  induction cs using decodeChars?.induct generalizing bs with
  | case1 =>
      cases h
      exact .nil
  | case2 w x =>
      simp only [decodeChars?, Option.bind_eq_bind, Option.bind_eq_some_iff, value?_eq_some,
        Option.pure_def, Option.some_inj] at h
      obtain ⟨p, hp, q, hq, rfl⟩ := h
      exact .one hp hq ((oneOctet_iff (lt_of_alphabet hp) (lt_of_alphabet hq)).mp rfl)
  | case3 w x y hy =>
      rw [decodeChars?] at h
      · simp only [Option.bind_eq_bind, Option.bind_eq_some_iff, value?_eq_some, Option.pure_def,
          Option.some_inj] at h
        obtain ⟨p, hp, q, hq, r, hr, rfl⟩ := h
        have hbits := twoOctets_iff (a := first p q) (b := second q r) (lt_of_alphabet hp)
          (lt_of_alphabet hq) (lt_of_alphabet hr)
        exact .two hp hq hr (hbits.mp ⟨rfl, rfl⟩)
      · exact hy
  | case4 w x y z rest hy hz ih =>
      rw [decodeChars?] at h
      · simp only [Option.bind_eq_bind, Option.bind_eq_some_iff, value?_eq_some, Option.pure_def,
          Option.some_inj] at h
        obtain ⟨p, hp, q, hq, r, hr, s, hs, more, hmore, rfl⟩ := h
        have hbits := threeOctets_iff (a := first p q) (b := second q r) (c := third r s)
          (lt_of_alphabet hp) (lt_of_alphabet hq) (lt_of_alphabet hr) (lt_of_alphabet hs)
        exact .three hp hq hr hs (hbits.mp ⟨rfl, rfl, rfl⟩) (ih hmore)
      · exact hy
      · exact hz
  | case5 cs hnil hone htwo hthree =>
      -- Nothing else is read.
      rw [decodeChars?] at h
      · cases h
      · exact hnil
      · exact hone
      · exact htwo
      · exact hthree

/-- What is spelled is read. -/
theorem decodeChars?_of_spells {cs : List Char} {bs : Octets} (h : Spells cs bs) :
    decodeChars? cs = some bs := by
  -- The last group is read by itself, and the groups before it have no filling.
  induction h with
  | one hw hx bits =>
      have hgroup := (oneOctet_iff (lt_of_alphabet hw) (lt_of_alphabet hx)).mpr bits
      simp [decodeChars?, value?_eq_some.mpr hw, value?_eq_some.mpr hx, hgroup]
  | two hw hx hy bits =>
      obtain ⟨ha, hb⟩ := (twoOctets_iff (lt_of_alphabet hw) (lt_of_alphabet hx)
        (lt_of_alphabet hy)).mpr bits
      rw [decodeChars?]
      · simp [value?_eq_some.mpr hw, value?_eq_some.mpr hx, value?_eq_some.mpr hy, ha, hb]
      · exact ne_filling hy
  | three hw hx hy hz bits more ih =>
      obtain ⟨ha, hb, hc⟩ := (threeOctets_iff (lt_of_alphabet hw) (lt_of_alphabet hx)
        (lt_of_alphabet hy) (lt_of_alphabet hz)).mpr bits
      rw [decodeChars?_group _ (ne_filling hy) (ne_filling hz)]
      simp [value?_eq_some.mpr hw, value?_eq_some.mpr hx, value?_eq_some.mpr hy,
        value?_eq_some.mpr hz, ha, hb, hc, ih]
  | nil =>
      rfl

/-- Exactly the texts of the grammar are read, as the octets that they spell. -/
theorem decode?_eq_some {text : String} {bs : Octets} :
    decode? text = some bs ↔ Spells text.toList bs := by
  constructor
  · intro h
    exact spells_of_decodeChars? h
  · intro h
    exact decodeChars?_of_spells h

/-- There are fewer octets than characters. -/
theorem Spells.length_le {cs : List Char} {bs : Octets} (h : Spells cs bs) :
    bs.length ≤ cs.length := by
  induction h with
  | three _ _ _ _ _ _ ih =>
      simp only [List.length_cons]
      omega
  | _ =>
      simp

end Base64
end LineRpc
