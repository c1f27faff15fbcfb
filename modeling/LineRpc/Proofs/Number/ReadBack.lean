import LineRpc.Number.Printer
import LineRpc.Proofs.Number.Nearest
import LineRpc.Proofs.Number.Shortest

/-!
# ReadBack — the text of a finite number is read as that number

A decimal is written in one of four layouts. The reader takes each of them apart into the same
digits and the same power of ten, up to zeros that move from one to the other.

* `toList_write`    : the four layouts
* `unsigned?_write` : the decimal that is read has the value of the one written
* `number?_render`  : a finite number is read back, the negative zero as zero
-/

namespace LineRpc
namespace Number

open Json.Token (decimal unsigned? number? exponent? nearest isWordChar)
open Float.Model Float.Model.UnpackedFloat

/-! ## Digits -/

/-- A list of decimal digits. -/
def Digits (cs : List Char) : Prop :=
  ∀ c ∈ cs, c.isDigit = true

theorem decimal_eq (cs : List Char) : decimal cs = Nat.ofDigitChars 10 cs 0 := by
  simp only [decimal, Nat.ofDigitChars_eq_foldl, mul_comm]

/-- Digits written after others shift those to the left. -/
theorem decimal_append (cs ds : List Char) :
    decimal (cs ++ ds) = 10 ^ ds.length * decimal cs + decimal ds := by
  rw [decimal_eq, decimal_eq, decimal_eq, Nat.ofDigitChars_append,
    Nat.ofDigitChars_eq_ofDigitChars_zero]

/-- The digits of a number spell that number. -/
@[simp]
theorem decimal_toDigits (n : Nat) : decimal (Nat.toDigits 10 n) = n := by
  rw [decimal_eq, Nat.ofDigitChars_toDigits (by norm_num) (by norm_num)]

@[simp]
theorem decimal_zeros (n : Nat) : decimal (List.replicate n '0') = 0 := by
  rw [decimal_eq, Nat.ofDigitChars_replicate_zero, mul_zero]

theorem digits_toDigits (n : Nat) : Digits (Nat.toDigits 10 n) := by
  intro c hc
  exact Nat.isDigit_of_mem_toDigits (by norm_num) (by norm_num) hc

theorem digits_zeros (n : Nat) : Digits (List.replicate n '0') := by
  intro c hc
  rw [List.eq_of_mem_replicate hc]
  rfl

theorem Digits.append {cs ds : List Char} (hc : Digits cs) (hd : Digits ds) :
    Digits (cs ++ ds) := by
  intro c h
  rcases List.mem_append.mp h with h | h
  · exact hc c h
  · exact hd c h

theorem Digits.take {cs : List Char} (h : Digits cs) (n : Nat) : Digits (cs.take n) :=
  fun c hc => h c (List.mem_of_mem_take hc)

theorem Digits.drop {cs : List Char} (h : Digits cs) (n : Nat) : Digits (cs.drop n) :=
  fun c hc => h c (List.mem_of_mem_drop hc)

/-- A positive number does not start with a zero. -/
theorem head?_toDigits {n : Nat} (h : 0 < n) : (Nat.toDigits 10 n).head? ≠ some '0' := by
  induction n using Nat.strong_induction_on with
  | h n ih =>
      rw [Nat.toDigits_eq_if (by norm_num)]
      split
      · interval_cases n <;> decide
      · rw [List.head?_append_of_ne_nil _ Nat.toDigits_ne_nil]
        exact ih (n / 10) (by omega) (by omega)

/-! ## Taking a text apart -/

/-- Digits without a needless zero at the start. -/
structure Whole (cs : List Char) : Prop where
  digits : Digits cs
  ne_nil : cs ≠ []
  noZero : cs.length = 1 ∨ cs.head? ≠ some '0'

/-- A text that does not go on with a digit. -/
def Ends (cs : List Char) : Prop :=
  ∀ c, cs.head? = some c → c.isDigit = false

/-- A run of digits ends where they do. -/
theorem span_digits {cs rest : List Char} (h : Digits cs) (hr : Ends rest) :
    (cs ++ rest).takeWhile Char.isDigit = cs ∧ (cs ++ rest).dropWhile Char.isDigit = rest := by
  rw [List.takeWhile_append_of_pos h, List.dropWhile_append_of_pos h]
  cases rest with
  | nil =>
      simp
  | cons c rest =>
      have hc : c.isDigit = false := hr c rfl
      simp [hc]

theorem whole_test {cs : List Char} (h : Whole cs) :
    (cs.isEmpty || (cs.length ≠ 1 && cs.head? = some '0')) = false := by
  have hne := h.ne_nil
  rcases h.noZero with h₁ | h₁ <;> simp [hne, h₁]

/-- Digits alone are read as the nearest double. -/
theorem unsigned?_whole {cs : List Char} (h : Whole cs) :
    unsigned? cs = some (nearest (decimal cs) 0) := by
  rcases @span_digits cs [] h.digits (by simp [Ends]) with ⟨ht, hd⟩
  rw [List.append_nil] at ht hd
  simp only [unsigned?, ht, hd, whole_test h]
  simp

/-- An exponent scales what stands before it. -/
theorem unsigned?_exponent {cs es : List Char} (h : Whole cs) :
    unsigned? (cs ++ 'e' :: es) = (exponent? es).map (nearest (decimal cs)) := by
  rcases @span_digits cs ('e' :: es) h.digits (by simp [Ends]) with ⟨ht, hd⟩
  simp only [unsigned?, ht, hd, whole_test h]
  simp

/-- Digits after the point count as tenths of those before. -/
theorem unsigned?_fraction {cs ds : List Char} (h : Whole cs) (hf : Digits ds) (hne : ds ≠ []) :
    unsigned? (cs ++ '.' :: ds) = some (nearest (decimal (cs ++ ds)) (-ds.length)) := by
  rcases @span_digits cs ('.' :: ds) h.digits (by simp [Ends]) with ⟨ht, hd⟩
  rcases @span_digits ds [] hf (by simp [Ends]) with ⟨ht', hd'⟩
  rw [List.append_nil] at ht' hd'
  simp only [unsigned?, ht, hd, ht', hd', whole_test h]
  simp [hne]

theorem unsigned?_fraction_exponent {cs ds es : List Char} (h : Whole cs) (hf : Digits ds)
    (hne : ds ≠ []) :
    unsigned? (cs ++ '.' :: (ds ++ 'e' :: es)) =
      (exponent? es).map fun x => nearest (decimal (cs ++ ds)) (x - ds.length) := by
  rcases @span_digits cs ('.' :: (ds ++ 'e' :: es)) h.digits (by simp [Ends]) with ⟨ht, hd⟩
  rcases @span_digits ds ('e' :: es) hf (by simp [Ends]) with ⟨ht', hd'⟩
  simp only [unsigned?, ht, hd, ht', hd', whole_test h]
  simp [hne]

/-- A positive exponent is read back. -/
theorem exponent?_plus (n : Nat) : exponent? ('+' :: Nat.toDigits 10 n) = some (n : Int) := by
  have hall : (Nat.toDigits 10 n).all Char.isDigit = true := List.all_eq_true.mpr (digits_toDigits n)
  simp [exponent?, hall, Nat.toDigits_ne_nil]

theorem exponent?_minus (n : Nat) : exponent? ('-' :: Nat.toDigits 10 n) = some (-(n : Int)) := by
  have hall : (Nat.toDigits 10 n).all Char.isDigit = true := List.all_eq_true.mpr (digits_toDigits n)
  simp [exponent?, hall, Nat.toDigits_ne_nil]

/-! ## Layouts -/

/-- The four layouts: digits and zeros, a point between the digits, a point before them, or an
exponent. -/
theorem toList_write (f : Layout) (d : Decimal) :
    let digits := Nat.toDigits 10 d.digits
    (∃ n : Nat, d.exponent = n ∧ (f.write d).toList = digits ++ List.replicate n '0') ∨
    (∃ p : Nat, 0 < p ∧ p < digits.length ∧ d.exponent = -(digits.drop p).length ∧
      (f.write d).toList = digits.take p ++ '.' :: digits.drop p) ∨
    (∃ n : Nat, d.exponent = -(n + digits.length : Nat) ∧
      (f.write d).toList = ['0'] ++ '.' :: (List.replicate n '0' ++ digits)) ∨
    (∃ x : Int, d.exponent = x - (digits.drop 1).length ∧
      (f.write d).toList = digits.take 1 ++
        ((if (digits.drop 1).isEmpty then [] else '.' :: digits.drop 1) ++
          'e' :: (if x < 0 then '-' else '+') :: Nat.toDigits 10 x.natAbs)) := by
  have hlen : 0 < (Nat.toDigits 10 d.digits).length := Nat.length_toDigits_pos
  simp only [Layout.write]
  generalize Nat.toDigits 10 d.digits = digits at hlen ⊢
  -- The layout follows from where the point falls: behind the digits, among them, before them, or
  -- far away.
  split
  · rename_i h
    left
    exact ⟨d.exponent.toNat, by omega, by simp⟩
  split
  · rename_i h
    right
    left
    refine ⟨((digits.length : Int) + d.exponent).toNat, by omega, by omega, ?_, by simp⟩
    rw [List.length_drop]
    omega
  split
  · rename_i h
    right
    right
    left
    exact ⟨(-((digits.length : Int) + d.exponent)).toNat, by omega, by simp⟩
  · right
    right
    right
    refine ⟨(digits.length : Int) + d.exponent - 1, ?_, by simp⟩
    rw [List.length_drop]
    omega

variable {d : Decimal}

theorem whole_toDigits {n : Nat} (h : 0 < n) : Whole (Nat.toDigits 10 n) :=
  ⟨digits_toDigits n, Nat.toDigits_ne_nil, Or.inr (head?_toDigits h)⟩

theorem whole_zero : Whole ['0'] :=
  ⟨by simp [Digits], by simp, Or.inl rfl⟩

theorem Whole.take {cs : List Char} (h : Whole cs) {n : Nat} (hn : 0 < n) : Whole (cs.take n) := by
  refine ⟨h.digits.take n, ?_, ?_⟩
  · have := h.ne_nil
    simp [this]
    omega
  · rcases h.noZero with h₁ | h₁
    · left
      rw [List.length_take, h₁]
      omega
    · right
      rwa [List.head?_take, if_neg (by omega)]

theorem Whole.append {cs ds : List Char} (h : Whole cs) (hne : cs.head? ≠ some '0')
    (hd : Digits ds) : Whole (cs ++ ds) := by
  refine ⟨h.digits.append hd, by simp [h.ne_nil], Or.inr ?_⟩
  rwa [List.head?_append_of_ne_nil _ h.ne_nil]

/-- The decimal that is read has the value of the one written. -/
theorem unsigned?_write (f : Layout) (h : 0 < d.digits) :
    ∃ (D : Nat) (x : Int), unsigned? (f.write d).toList = some (nearest D x) ∧ 0 < D ∧
      (D : ℚ) * 10 ^ x = d.digits * 10 ^ d.exponent := by
  have hw := whole_toDigits h
  have hdec := decimal_toDigits d.digits
  rcases toList_write f d with ⟨n, he, ht⟩ | ⟨p, hp, hlt, he, ht⟩ | ⟨n, he, ht⟩ | ⟨x, he, ht⟩
  · -- The zeros make the digits larger and the power of ten one.
    refine ⟨10 ^ n * d.digits, 0, ?_, by positivity, ?_⟩
    · rw [ht, unsigned?_whole (hw.append (head?_toDigits h) (digits_zeros n)), decimal_append,
        decimal_zeros, hdec, List.length_replicate, add_zero]
    · rw [he, zpow_natCast, zpow_zero]
      push_cast
      ring
  · -- The point moves out of the digits and into the power of ten.
    have hne : (Nat.toDigits 10 d.digits).drop p ≠ [] := by
      simpa using hlt
    refine ⟨d.digits, d.exponent, ?_, h, rfl⟩
    rw [ht, unsigned?_fraction (hw.take hp) (hw.digits.drop p) hne, List.take_append_drop, hdec, he]
  · -- Zeros in front of the digits do not count.
    refine ⟨d.digits, d.exponent, ?_, h, rfl⟩
    rw [ht, unsigned?_fraction whole_zero ((digits_zeros n).append hw.digits)
      (by simp [hw.ne_nil]), decimal_append, decimal_append, decimal_zeros, hdec, he,
      List.length_append, List.length_replicate]
    have hzero : decimal ['0'] = 0 := rfl
    rw [hzero, mul_zero, mul_zero, zero_add, zero_add]
  · -- The written exponent counts from the first digit on.
    have hexp : exponent? ((if x < 0 then '-' else '+') :: Nat.toDigits 10 x.natAbs) = some x := by
      rcases lt_or_ge x 0 with hx | hx
      · rw [if_pos hx, exponent?_minus, Int.ofNat_natAbs_of_nonpos (by omega), neg_neg]
      · rw [if_neg (by omega), exponent?_plus, Int.natAbs_of_nonneg hx]
    refine ⟨d.digits, d.exponent, ?_, h, rfl⟩
    have hone : Whole ((Nat.toDigits 10 d.digits).take 1) := hw.take (by norm_num)
    rw [ht]
    split
    · rename_i hnil
      have hnil' : (Nat.toDigits 10 d.digits).drop 1 = [] := List.isEmpty_iff.mp hnil
      have hall : (Nat.toDigits 10 d.digits).take 1 = Nat.toDigits 10 d.digits := by
        have := List.take_append_drop 1 (Nat.toDigits 10 d.digits)
        rwa [hnil', List.append_nil] at this
      rw [List.nil_append, unsigned?_exponent hone, hexp, hall, hdec, he, hnil']
      simp
    · rename_i hnil
      have hnil' : (Nat.toDigits 10 d.digits).drop 1 ≠ [] := by simpa using hnil
      rw [List.cons_append, unsigned?_fraction_exponent hone (hw.digits.drop 1) hnil', hexp,
        List.take_append_drop, hdec, he]
      rfl

/-! ## Texts of numbers -/

/-- What the text of a finite number looks like to the scanner. -/
structure WordText (cs : List Char) : Prop where
  start : ∃ c, cs.head? = some c ∧ (c.isDigit = true ∨ c = '-')
  word : ∀ c ∈ cs, isWordChar c = true

theorem isWordChar_of_isDigit {c : Char} (h : c.isDigit = true) : isWordChar c = true := by
  simp [isWordChar, Char.isAlphanum, h]

theorem Digits.word {cs : List Char} (h : Digits cs) : ∀ c ∈ cs, isWordChar c = true :=
  fun c hc => isWordChar_of_isDigit (h c hc)

theorem Whole.start {cs : List Char} (h : Whole cs) (rest : List Char) :
    ∃ c, (cs ++ rest).head? = some c ∧ c.isDigit = true := by
  have hd := h.digits
  cases cs with
  | nil =>
      exact absurd rfl h.ne_nil
  | cons c cs =>
      exact ⟨c, rfl, hd c (by simp)⟩

theorem start_write (f : Layout) (h : 0 < d.digits) :
    ∃ c, (f.write d).toList.head? = some c ∧ c.isDigit = true := by
  have hw := whole_toDigits h
  rcases toList_write f d with ⟨n, -, ht⟩ | ⟨p, hp, -, -, ht⟩ | ⟨n, -, ht⟩ | ⟨x, -, ht⟩
  · rw [ht]
    exact hw.start _
  · rw [ht]
    exact (hw.take hp).start _
  · rw [ht]
    exact whole_zero.start _
  · rw [ht]
    exact (hw.take (by norm_num)).start _

theorem word_write (f : Layout) (h : 0 < d.digits) :
    ∀ c ∈ (f.write d).toList, isWordChar c = true := by
  have hw := (whole_toDigits h).digits
  have hpoint : isWordChar '.' = true := by decide
  have hmark : isWordChar 'e' = true := by decide
  have hplus : isWordChar '+' = true := by decide
  have hminus : isWordChar '-' = true := by decide
  have hzero : isWordChar '0' = true := by decide
  intro c hc
  -- Every layout is made of digits, a point and an exponent.
  rcases toList_write f d with ⟨n, -, ht⟩ | ⟨p, -, -, -, ht⟩ | ⟨n, -, ht⟩ | ⟨x, -, ht⟩
  · rw [ht] at hc
    exact (hw.append (digits_zeros n)).word c hc
  · rw [ht, List.mem_append, List.mem_cons] at hc
    rcases hc with hc | rfl | hc
    · exact (hw.take p).word c hc
    · exact hpoint
    · exact (hw.drop p).word c hc
  · rw [ht, List.mem_append, List.mem_singleton, List.mem_cons] at hc
    rcases hc with rfl | rfl | hc
    · exact hzero
    · exact hpoint
    · exact ((digits_zeros n).append hw).word c hc
  · rw [ht, List.mem_append, List.mem_append, List.mem_cons, List.mem_cons] at hc
    rcases hc with hc | hc | rfl | rfl | hc
    · exact (hw.take 1).word c hc
    · split at hc
      · simp at hc
      · rcases List.mem_cons.mp hc with rfl | hc
        · exact hpoint
        · exact (hw.drop 1).word c hc
    · exact hmark
    · split
      · exact hminus
      · exact hplus
    · exact (digits_toDigits _).word c hc

/-! ## Signs -/

theorem scaled?_finite {x : Float} {s : Sign} {m : Nat} {e : Int} {hp : 0 < m}
    (h : x.toModel.unpack = .finite s m e hp) : scaled? x = some ⟨s.apply m, e⟩ := by
  rw [scaled?, h]

theorem neg_ofModel {m : Nat} {e : Int} (hc : Canonical m e) :
    -Float.ofModel (Float.Model.pack (.finite .positive m e hc.pos)) =
      Float.ofModel (Float.Model.pack (.finite .negative m e hc.pos)) := by
  change Float.ofModel (Float.Model.pack (Float.Model.pack _).unpack.neg) = _
  rw [unpack_pack_finite hc.pos hc]
  rfl

/-- The text of a positive or negative number. -/
theorem render_finite {x : Float} {s : Sign} {m : Nat} {e : Int} {hp : 0 < m}
    (h : x.toModel.unpack = .finite s m e hp) :
    render x = (match s with
      | .positive => standard.write (shortest m e)
      | .negative => "-" ++ standard.write (shortest m e)) := by
  rw [render, scaled?_finite h]
  cases s with
  | positive =>
      have hpos : ¬ (Sign.positive.apply (m : Int) = 0) ∧ ¬ (Sign.positive.apply (m : Int) < 0) := by
        simp only [Sign.apply]
        omega
      simp only [if_neg hpos.1, if_neg hpos.2]
      rfl
  | negative =>
      have hneg : ¬ (Sign.negative.apply (m : Int) = 0) ∧ Sign.negative.apply (m : Int) < 0 := by
        simp only [Sign.apply]
        omega
      have habs : (Sign.negative.apply (m : Int)).natAbs = m := by
        simp only [Sign.apply]
        omega
      simp only [if_neg hneg.1, if_pos hneg.2, habs]

/-- What is read for the shortest decimal of a number. -/
theorem unsigned?_shortest {m : Nat} {e : Int} (hc : Canonical m e) :
    unsigned? (standard.write (shortest m e)).toList =
      some (Float.ofModel (Float.Model.pack (.finite .positive m e hc.pos))) := by
  rcases unsigned?_write standard (shortest_digits_pos hc) with ⟨D, x, hread, hD, hvalue⟩
  have hr := rounds_shortest hc
  rw [← hvalue] at hr
  rw [hread, nearest_eq hD hc hr]

theorem number?_of_start {cs : List Char} (h : ∃ c, cs.head? = some c ∧ c.isDigit = true) :
    number? cs = unsigned? cs := by
  rcases h with ⟨c, hc, hd⟩
  unfold number?
  split
  · injection hc with hc
    subst hc
    cases hd
  · rfl

/-- A finite number other than zero is read back. -/
theorem number?_render_finite {x : Float} {s : Sign} {m : Nat} {e : Int} {hp : 0 < m}
    (h : x.toModel.unpack = .finite s m e hp) : number? (render x).toList = some x := by
  have hc := canonical_of_unpack h
  rw [render_finite h]
  cases s with
  | positive =>
      rw [number?_of_start (start_write standard (shortest_digits_pos hc)), unsigned?_shortest hc,
        ofModel_pack_of_unpack h]
  | negative =>
      rw [String.toList_append]
      change number? ('-' :: (standard.write (shortest m e)).toList) = _
      rw [number?, unsigned?_shortest hc, Option.map_some, neg_ofModel hc, ofModel_pack_of_unpack h]

/-! ## The text of a finite number -/

/-- A number with the negative zero taken for zero. -/
def unsignedZero (x : Float) : Float :=
  if isNegativeZero x then 0 else x

theorem render_zero {x : Float} {s : Sign} (h : x.toModel.unpack = .zero s) : render x = "0" := by
  rw [render, scaled?, h]
  rfl

theorem finite_cases {x : Float} (h : x.isFinite = true) :
    (∃ s, x.toModel.unpack = .zero s) ∨ ∃ s m e hp, x.toModel.unpack = .finite s m e hp := by
  have hu : x.toModel.unpack.isFinite = true := h
  cases hx : x.toModel.unpack with
  | notANumber =>
      rw [hx] at hu
      cases hu
  | infinity s =>
      rw [hx] at hu
      cases hu
  | zero s =>
      exact Or.inl ⟨s, rfl⟩
  | finite s m e hp =>
      exact Or.inr ⟨s, m, e, hp, rfl⟩

theorem unpack_zero : (0 : Float).toModel.unpack = .zero .positive := by
  rfl

/-- A zero loses its sign. -/
theorem unsignedZero_of_zero {x : Float} {s : Sign} (h : x.toModel.unpack = .zero s) :
    unsignedZero x = 0 := by
  rw [unsignedZero]
  cases s with
  | positive =>
      rw [if_neg (by simp [isNegativeZero, h])]
      exact eq_of_unpack_eq (h.trans unpack_zero.symm)
  | negative =>
      rw [if_pos (by simp [isNegativeZero, h])]

theorem unsignedZero_of_finite {x : Float} {s : Sign} {m : Nat} {e : Int} {hp : 0 < m}
    (h : x.toModel.unpack = .finite s m e hp) : unsignedZero x = x := by
  rw [unsignedZero, if_neg (by simp [isNegativeZero, h])]

/-- A finite number is read back from its text, the negative zero as zero. -/
theorem number?_render {x : Float} (h : x.isFinite = true) :
    number? (render x).toList = some (unsignedZero x) := by
  rcases finite_cases h with ⟨s, hs⟩ | ⟨s, m, e, hp, hf⟩
  · rw [render_zero hs, unsignedZero_of_zero hs]
    rfl
  · rw [number?_render_finite hf, unsignedZero_of_finite hf]

/-- The text of a finite number is one word that starts with a digit or a sign. -/
theorem wordText_render {x : Float} (h : x.isFinite = true) : WordText (render x).toList := by
  rcases finite_cases h with ⟨s, hs⟩ | ⟨s, m, e, hp, hf⟩
  · rw [render_zero hs]
    exact ⟨⟨'0', rfl, Or.inl rfl⟩, whole_zero.digits.word⟩
  · have hd := shortest_digits_pos (canonical_of_unpack hf)
    rw [render_finite hf]
    cases s with
    | positive =>
        rcases start_write standard hd with ⟨c, hc, hdigit⟩
        exact ⟨⟨c, hc, Or.inl hdigit⟩, word_write standard hd⟩
    | negative =>
        rw [String.toList_append]
        refine ⟨⟨'-', rfl, Or.inr rfl⟩, ?_⟩
        intro c hc
        rcases List.mem_append.mp hc with hc | hc
        · rw [List.mem_singleton.mp hc]
          rfl
        · exact word_write standard hd c hc

end Number
end LineRpc
