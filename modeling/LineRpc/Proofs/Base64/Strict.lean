import Mathlib.Algebra.Group.Nat.Hom
import Mathlib.Data.List.Basic
import LineRpc.Codec.Decode
import LineRpc.Proofs.Base64

/-!
# Strict — which texts are base64, and which of them are written

A text is strict base64 if it is made of groups of four characters of the alphabet, where the last
group may have two characters and two fillings, or three characters and one. Every such text is
read, and no other. Four characters are three octets, less one octet for every filling. The last
character before the filling has bits that no octet uses, two for every filling; the text is the one
that is written for its octets exactly if these bits are zero.

* `Strict`             : groups of four characters and an ending
* `UnusedZero`         : the bits that no octet uses are zero
* `exists_spells_iff`  : strict texts are those that spell octets
* `Spells.length_eq`   : the number of octets of a text
* `encodeChars_eq_iff` : which texts are written
* `octets_strict`      : reading in a field, for every text
-/

namespace LineRpc
namespace Base64

/-! ## Strict texts -/

/-- How a text may end after its full groups. -/
inductive Ending : List Char → Prop
  | full : Ending []
  | twoFillings {w x : Char} (hw : w ∈ alphabet) (hx : x ∈ alphabet) : Ending [w, x, '=', '=']
  | oneFilling {w x y : Char} (hw : w ∈ alphabet) (hx : x ∈ alphabet) (hy : y ∈ alphabet) :
      Ending [w, x, y, '=']

/-- Groups of four characters of the alphabet, and an ending. -/
def Strict (cs : List Char) : Prop :=
  ∃ (groups : List (List Char)) (ending : List Char), cs = groups.flatten ++ ending ∧
    (∀ g ∈ groups, g.length = 4 ∧ ∀ c ∈ g, c ∈ alphabet) ∧ Ending ending

/-- The last character before the filling ends in zeros: two of them for every filling. -/
def UnusedZero (cs : List Char) : Prop :=
  ∀ c n, (cs.takeWhile (· ≠ '=')).getLast? = some c → alphabet[n]? = some c →
    n % 4 ^ cs.count '=' = 0

variable {cs : List Char} {bs : Octets}

/-- A full group in front of a strict text leaves it strict. -/
theorem Strict.cons {w x y z : Char} (hw : w ∈ alphabet) (hx : x ∈ alphabet) (hy : y ∈ alphabet)
    (hz : z ∈ alphabet) (h : Strict cs) : Strict (w :: x :: y :: z :: cs) := by
  obtain ⟨groups, ending, rfl, hgroups, hending⟩ := h
  refine ⟨[w, x, y, z] :: groups, ending, rfl, ?_, hending⟩
  exact List.forall_mem_cons.mpr ⟨⟨rfl, by simp [hw, hx, hy, hz]⟩, hgroups⟩

/-- What spells octets is strict. -/
theorem Spells.strict (h : Spells cs bs) : Strict cs := by
  induction h with
  | nil =>
      exact ⟨[], [], rfl, by simp, .full⟩
  | one hw hx bits =>
      exact ⟨[], _, rfl, by simp,
        .twoFillings (List.mem_of_getElem? hw) (List.mem_of_getElem? hx)⟩
  | two hw hx hy bits =>
      exact ⟨[], _, rfl, by simp, .oneFilling (List.mem_of_getElem? hw)
        (List.mem_of_getElem? hx) (List.mem_of_getElem? hy)⟩
  | three hw hx hy hz bits more ih =>
      exact ih.cons (List.mem_of_getElem? hw) (List.mem_of_getElem? hx) (List.mem_of_getElem? hy)
        (List.mem_of_getElem? hz)

/-- An ending spells the octets of its bits. -/
theorem Ending.exists_spells (h : Ending cs) : ∃ bs, Spells cs bs := by
  cases h with
  | full =>
      exact ⟨[], .nil⟩
  | twoFillings hw hx =>
      obtain ⟨p, hp⟩ := List.mem_iff_getElem?.mp hw
      obtain ⟨q, hq⟩ := List.mem_iff_getElem?.mp hx
      exact ⟨_, .one hp hq ((oneOctet_iff (lt_of_alphabet hp) (lt_of_alphabet hq)).mp rfl)⟩
  | oneFilling hw hx hy =>
      obtain ⟨p, hp⟩ := List.mem_iff_getElem?.mp hw
      obtain ⟨q, hq⟩ := List.mem_iff_getElem?.mp hx
      obtain ⟨r, hr⟩ := List.mem_iff_getElem?.mp hy
      have hbits := twoOctets_iff (a := first p q) (b := second q r) (lt_of_alphabet hp)
        (lt_of_alphabet hq) (lt_of_alphabet hr)
      exact ⟨_, .two hp hq hr (hbits.mp ⟨rfl, rfl⟩)⟩

/-- A full group spells three octets in front of those of the rest. -/
theorem Spells.exists_group {g : List Char} (hg : g.length = 4) (hall : ∀ c ∈ g, c ∈ alphabet)
    (h : Spells cs bs) : ∃ bs', Spells (g ++ cs) bs' := by
  match g, hg with
  | [w, x, y, z], _ =>
    simp only [List.mem_cons, List.not_mem_nil, or_false, forall_eq_or_imp, forall_eq] at hall
    obtain ⟨hw, hx, hy, hz⟩ := hall
    obtain ⟨p, hp⟩ := List.mem_iff_getElem?.mp hw
    obtain ⟨q, hq⟩ := List.mem_iff_getElem?.mp hx
    obtain ⟨r, hr⟩ := List.mem_iff_getElem?.mp hy
    obtain ⟨s, hs⟩ := List.mem_iff_getElem?.mp hz
    have hbits := threeOctets_iff (a := first p q) (b := second q r) (c := third r s)
      (lt_of_alphabet hp) (lt_of_alphabet hq) (lt_of_alphabet hr) (lt_of_alphabet hs)
    exact ⟨_, .three hp hq hr hs (hbits.mp ⟨rfl, rfl, rfl⟩) h⟩

/-- Exactly the strict texts spell octets. -/
theorem exists_spells_iff : (∃ bs, Spells cs bs) ↔ Strict cs := by
  constructor
  · rintro ⟨bs, h⟩
    exact h.strict
  · rintro ⟨groups, ending, rfl, hgroups, hending⟩
    induction groups with
    | nil =>
        exact hending.exists_spells
    | cons g groups ih =>
        obtain ⟨⟨hlength, hall⟩, hrest⟩ := List.forall_mem_cons.mp hgroups
        obtain ⟨bs, hbs⟩ := ih hrest
        obtain ⟨bs', hbs'⟩ := hbs.exists_group hlength hall
        exact ⟨bs', by simpa using hbs'⟩

/-! ## Octets and characters -/

/-- Four characters are three octets, less one octet for every filling. -/
theorem Spells.length_eq (h : Spells cs bs) : 4 * (bs.length + cs.count '=') = 3 * cs.length := by
  induction h with
  | nil =>
      rfl
  | one hw hx bits =>
      simp [ne_filling hw, ne_filling hx]
  | two hw hx hy bits =>
      simp [ne_filling hw, ne_filling hx, ne_filling hy]
  | three hw hx hy hz bits more ih =>
      simp only [List.length_cons, List.count_cons, beq_iff_eq, ne_filling hw, ne_filling hx,
        ne_filling hy, ne_filling hz, if_false]
      omega

/-- A character is written for a number exactly if it is the character of that number. -/
theorem digit_eq_iff {c : Char} {n k : Nat} (h : alphabet[n]? = some c) (hk : k < 64) :
    digit k = c ↔ k = n := by
  constructor
  · rintro rfl
    have hvalue := (alphabet_digit k hk).2
    rw [value?_eq_some.mpr h, Option.some_inj] at hvalue
    exact hvalue.symm
  · rintro rfl
    exact (digit_of_value? (value?_eq_some.mpr h)).2

/-- Whether the unused bits are zero is seen at the number of the last character. -/
theorem unusedZero_iff {c : Char} {n : Nat} (hlast : (cs.takeWhile (· ≠ '=')).getLast? = some c)
    (hn : alphabet[n]? = some c) : UnusedZero cs ↔ n % 4 ^ cs.count '=' = 0 := by
  constructor
  · intro h
    exact h c n hlast hn
  · intro h c' n' hlast' hn'
    cases hlast.symm.trans hlast'
    -- A character of the alphabet has one number.
    have hvalue := value?_eq_some.mpr hn
    rw [value?_eq_some.mpr hn', Option.some_inj] at hvalue
    rwa [hvalue]

/-- What spells octets does not start with a filling. -/
theorem Spells.start (h : Spells cs bs) : cs = [] ∨ ∃ c rest, cs = c :: rest ∧ c ≠ '=' := by
  cases h with
  | nil =>
      exact .inl rfl
  | one hw hx bits =>
      exact .inr ⟨_, _, rfl, ne_filling hw⟩
  | two hw hx hy bits =>
      exact .inr ⟨_, _, rfl, ne_filling hw⟩
  | three hw hx hy hz bits more =>
      exact .inr ⟨_, _, rfl, ne_filling hw⟩

/-- A full group in front of a text does not change its last bits. -/
theorem unusedZero_group {w x y z : Char} (hw : w ≠ '=') (hx : x ≠ '=') (hy : y ≠ '=')
    (hz : z ≠ '=') (h : Spells cs bs) :
    UnusedZero (w :: x :: y :: z :: cs) ↔ UnusedZero cs := by
  rcases h.start with rfl | ⟨c, rest, rfl, hc⟩
  · -- Without a filling all bits are used.
    simp [UnusedZero, hw, hx, hy, hz, Nat.mod_one]
  · simp [UnusedZero, hw, hx, hy, hz, hc]

/-- A text is written for its octets exactly if the bits that no octet uses are zero. -/
theorem encodeChars_eq_iff (h : Spells cs bs) : encodeChars bs = cs ↔ UnusedZero cs := by
  induction h with
  | nil =>
      simp [encodeChars, UnusedZero]
  | @one w x p q a hw hx bits =>
      have hlast : ([w, x, '=', '='].takeWhile (· ≠ '=')).getLast? = some x := by
        simp [ne_filling hw, ne_filling hx]
      have hcount : [w, x, '=', '='].count '=' = 2 := by
        simp [ne_filling hw, ne_filling hx]
      have hq := lt_of_alphabet hx
      have ha := a.toNat_lt
      rw [unusedZero_iff hlast hx, hcount, encodeChars]
      simp only [List.cons.injEq, and_true]
      rw [digit_eq_iff hw (by omega), digit_eq_iff hx (by omega)]
      omega
  | @two w x y p q r a b hw hx hy bits =>
      have hlast : ([w, x, y, '='].takeWhile (· ≠ '=')).getLast? = some y := by
        simp [ne_filling hw, ne_filling hx, ne_filling hy]
      have hcount : [w, x, y, '='].count '=' = 1 := by
        simp [ne_filling hw, ne_filling hx, ne_filling hy]
      have hq := lt_of_alphabet hx
      have hr := lt_of_alphabet hy
      have ha := a.toNat_lt
      have hb := b.toNat_lt
      rw [unusedZero_iff hlast hy, hcount, encodeChars]
      simp only [List.cons.injEq, and_true]
      rw [digit_eq_iff hw (by omega), digit_eq_iff hx (by omega), digit_eq_iff hy (by omega)]
      omega
  | @three w x y z p q r s a b c rest bs hw hx hy hz bits more ih =>
      have hq := lt_of_alphabet hx
      have hr := lt_of_alphabet hy
      have hs := lt_of_alphabet hz
      have ha := a.toNat_lt
      have hb := b.toNat_lt
      have hc := c.toNat_lt
      rw [unusedZero_group (ne_filling hw) (ne_filling hx) (ne_filling hy) (ne_filling hz) more,
        ← ih, encodeChars]
      simp only [List.cons.injEq]
      rw [digit_eq_iff hw (by omega), digit_eq_iff hx (by omega), digit_eq_iff hy (by omega),
        digit_eq_iff hz (by omega)]
      -- All bits of a full group are used, so its characters are those of its octets.
      have hgroup : a.toNat / 4 = p ∧ a.toNat % 4 * 16 + b.toNat / 16 = q ∧
          b.toNat % 16 * 4 + c.toNat / 64 = r ∧ c.toNat % 64 = s := by
        omega
      simp only [hgroup, true_and]

end Base64

/-! ## Reading in a field -/

namespace Codec

open Base64 (Spells Strict UnusedZero)

/-- Strict reading accepts exactly the spellings of some octets, and gives those. -/
theorem octets_eq_ok {field text : String} {bs : Octets} :
    octets field text = .ok bs ↔ Spells text.toList bs := by
  rw [← Base64.decode?_eq_some, octets]
  cases Base64.decode? text with
  | none =>
      simp
  | some bs' =>
      simp

/-- What is not strict is refused, and the refusal names the field. -/
theorem octets_refused {field text : String} (h : ¬ Strict text.toList) :
    octets field text = .error (.badBase64 field) := by
  rw [octets]
  cases hread : Base64.decode? text with
  | none =>
      rfl
  | some bs =>
      exact absurd (Base64.decode?_eq_some.mp hread).strict h

/-- Writing gives the same text back exactly when its unused bits are zero. -/
theorem encode_eq_iff {text : String} {bs : Octets} (h : Spells text.toList bs) :
    Base64.encode bs = text ↔ UnusedZero text.toList := by
  rw [← Base64.encodeChars_eq_iff h, Base64.encode, ← String.toList_inj, String.toList_ofList]

/-- Octets come back from their text. A text is read in a field exactly if it is strict, and is
refused with the name of the field if not. It has three quarters as many octets as characters, less
one for every filling, and it is what is written for its octets exactly if its unused bits are zero.
-/
theorem octets_strict (field : String) :
    (∀ bs, octets field (Base64.encode bs) = .ok bs) ∧
    ∀ text : String,
      ((∃ bs, octets field text = .ok bs) ↔ Strict text.toList) ∧
      (¬ Strict text.toList → octets field text = .error (.badBase64 field)) ∧
      ∀ bs, octets field text = .ok bs →
        4 * (bs.length + text.toList.count '=') = 3 * text.length ∧
        (Base64.encode bs = text ↔ UnusedZero text.toList) := by
  refine ⟨?_, ?_⟩
  · intro bs
    exact octets_eq_ok.mpr (Base64.decode?_eq_some.mp (Base64.decode?_encode bs))
  · intro text
    refine ⟨?_, octets_refused, ?_⟩
    · simp only [octets_eq_ok]
      exact Base64.exists_spells_iff
    · intro bs h
      have hspells := octets_eq_ok.mp h
      refine ⟨?_, encode_eq_iff hspells⟩
      rw [← String.length_toList]
      exact hspells.length_eq

/-- A text whose last character has a bit that no octet uses is read, but another one is written for
its octet. Without its filling it is not read. -/
theorem octets_strict_loose :
    octets "f" "QR==" = .ok [65] ∧ Strict "QR==".toList ∧ ¬ UnusedZero "QR==".toList ∧
      Base64.encode [65] = "QQ==" ∧ octets "f" "QQ==" = .ok [65] ∧
      ¬ Strict "QR".toList ∧ octets "f" "QR" = .error (.badBase64 "f") := by
  have hread : octets "f" "QR==" = .ok [65] := by
    rfl
  have hwritten : Base64.encode [65] = "QQ==" := by
    rfl
  obtain ⟨hback, htexts⟩ := octets_strict "f"
  obtain ⟨hstrict, -, hbits⟩ := htexts "QR=="
  obtain ⟨hshort, hrefused, -⟩ := htexts "QR"
  have hloose : ¬ UnusedZero "QR==".toList := by
    intro hzero
    have hsame := (hbits [65] hread).2.mpr hzero
    rw [hwritten] at hsame
    exact absurd hsame (by decide)
  have hnot : ¬ Strict "QR".toList := by
    intro h
    obtain ⟨bs, hbs⟩ := hshort.mpr h
    cases hbs
  refine ⟨hread, hstrict.mp ⟨_, hread⟩, hloose, hwritten, ?_, hnot, hrefused hnot⟩
  rw [← hwritten]
  exact hback [65]

end Codec
end LineRpc
