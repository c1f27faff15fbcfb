import LineRpc.Proofs.NDArray.Exact

/-!
# Storage — integers modulo the width of their kind

An integer kind of `b` bits keeps an integer modulo `2 ^ b`: of all integers that are congruent to
it, the one in the range of the kind. Its octets are those of its two's complement, the lowest
first. A kind of 64 bits takes exact integers, every other kind takes the nearest number of an exact
integer, which is the integer itself below `2 ^ 53`.

* `Dtype.taken`           : the integer that is stored for an element
* `Dtype.Keeps`           : what is left of an integer in a kind
* `Octets.TwosComplement` : the octets of an integer
* `allocate_ofNat`        : room for elements that are counted
* `keeps_integer_wrap`    : what is read from the octets of an integer is what is left of it
* `twosComplement_wrap`   : and the octets are those of its two's complement
* `fill_modular`          : filling room, reading it back, and storing what was read
-/

namespace LineRpc

/-! ## Room -/

namespace Number

variable {x : Float} {n : Nat}

/-- A number that is as much as a natural number is that natural number. -/
theorem integer?_of_amount (h : Amount x (n : ℚ)) (hn : n < 2 ^ 53) : integer? x = some (n : Int) := by
  rcases Nat.eq_zero_or_pos n with rfl | hpos
  · rcases amount_cases h with ⟨-, s, hs⟩ | ⟨m, e, hp, -, hvalue, hone⟩ | ⟨htop, -⟩
    · simp [integer?, scaled?, hs]
    · have hzero : (0 : ℚ) = m * 2 ^ e := by exact_mod_cast hvalue
      linarith
    · exact absurd htop WithTop.coe_ne_top
  · have hone : (1 : ℚ) ≤ n := by exact_mod_cast hpos
    obtain ⟨m, e, hp, hunpack, hvalue, -⟩ := amount_parts h hone
    rw [← ofNat_of_unpack hunpack hvalue.symm]
    exact integer?_ofNat hn

/-- What is zero or more is not minus one or less. -/
theorem not_le_neg_one {v : WithTop ℚ} (h : Amount x v) : ¬ x ≤ -1 := by
  have hone : (-1 : Float).toModel.unpack = .finite .negative (2 ^ 52) (-52) (by positivity) := by
    have hpositive : (1 : Float).toModel.unpack = .finite .positive (2 ^ 52) (-52) (by positivity) :=
      unpack_ofNat (n := 1) (by norm_num) (by norm_num)
    rw [unpack_neg, hpositive]
    rfl
  change ¬ decide (x.toModel ≤ (-1 : Float).toModel) = true
  rw [decide_eq_true_iff]
  change ¬ (x.toModel.unpack.compare (-1 : Float).toModel.unpack).any Ordering.isLE = true
  rw [hone]
  rcases amount_cases h with ⟨-, s, hs⟩ | ⟨m, e, hp, hm, -, -⟩ | ⟨-, hinf⟩
  · simp [hs, Float.Model.UnpackedFloat.compare]
  · simp [hm, Float.Model.UnpackedFloat.compare]
  · simp [hinf, Float.Model.UnpackedFloat.compare]

end Number

namespace Dtype

variable {d : Dtype} {x : Scalar} {xs : List Scalar} {i j : Int} {n : Nat} {bs : Octets}

/-- Elements that are counted get room for just as many, as long as memory is found. -/
theorem allocate_ofNat (h : n * d.itemSize < 2 ^ 53) :
    d.allocate (Float.ofNat n) =
      if n * d.itemSize ≤ 8589934592 then .ok n else .error .outOfMemory := by
  have hsize : d.itemSize < 2 ^ 53 := by cases d <;> decide
  have hn : n < 2 ^ 53 := lt_of_le_of_lt (Nat.le_mul_of_pos_right n d.itemSize_pos) h
  have hoctets : Number.Amount (Float.ofNat n * Float.ofNat d.itemSize) ((n * d.itemSize : Nat) : ℚ) :=
    Number.amount_mul_kept (Number.amount_ofNat hn) (Number.amount_ofNat hsize) h
  have hroom : (Number.truncate (Float.ofNat n * Float.ofNat d.itemSize)).toNat = n * d.itemSize := by
    rw [Number.truncate_of_integer? (Number.integer?_of_amount hoctets h), Int.toNat_natCast]
  -- Numbers are compared as the natural numbers that they are.
  have hless {k : Nat} (hk : k < 2 ^ 53) :
      Float.ofNat k < Float.ofNat n * Float.ofNat d.itemSize ↔ k < n * d.itemSize := by
    rw [Number.lt_iff_of_amount (Number.amount_ofNat hk) hoctets]
    exact_mod_cast Iff.rfl
  have hcount : ¬ (Float.ofNat n * Float.ofNat d.itemSize ≤ -1 ∨
      Float.ofNat n * Float.ofNat d.itemSize > Float.ofInt Number.maxSafe) := by
    rintro (hneg | hlarge)
    · exact Number.not_le_neg_one hoctets hneg
    · have := (hless (k := 9007199254740991) (by norm_num)).mp hlarge
      omega
  rw [allocate]
  simp only [if_neg hcount, hroom, Nat.mul_mod_left, ne_eq, not_true, if_false,
    Nat.mul_div_cancel n d.itemSize_pos]
  split
  · rename_i hmemory
    have := (hless (k := 8589934592) (by norm_num)).mp hmemory
    rw [if_neg (by omega)]
  · rename_i hmemory
    have : ¬ 8589934592 < n * d.itemSize :=
      fun hlarge => hmemory ((hless (k := 8589934592) (by norm_num)).mpr hlarge)
    rw [if_pos (by omega)]

end Dtype

/-! ## Octets of integers -/

namespace Octets

/-- Octets are stored from the lowest on. -/
theorem getElem?_ofNat {count n k : Nat} {b : UInt8} (h : (ofNat count n)[k]? = some b) :
    k < count ∧ b.toNat = n / 256 ^ k % 256 := by
  induction count generalizing n k with
  | zero =>
      cases h
  | succ count ih =>
      cases k with
      | zero =>
          cases h
          refine ⟨Nat.zero_lt_succ count, ?_⟩
          rw [UInt8.toNat_ofNat', pow_zero, Nat.div_one]
          omega
      | succ k =>
          obtain ⟨hk, hb⟩ := ih h
          refine ⟨Nat.succ_lt_succ hk, ?_⟩
          rw [hb, Nat.div_div_eq_div_mul, pow_succ']

/-- The octets of an integer in two's complement, the lowest first: each has the next eight bits. -/
def TwosComplement (i : Int) (bs : Octets) : Prop :=
  ∀ k b, bs[k]? = some b → (b.toNat : Int) = i / 256 ^ k % 256

end Octets

namespace Dtype

variable {d : Dtype} {x : Scalar} {xs : List Scalar} {i j : Int} {n : Nat} {bs : Octets}

/-- The bits of one element. -/
def bits (d : Dtype) : Nat :=
  8 * d.itemSize

/-- The integers of a kind are counted modulo its width. -/
theorem modulus_eq_two_pow (d : Dtype) : (d.modulus : Int) = 2 ^ d.bits := by
  rw [modulus_eq, bits, pow_mul]
  norm_num

/-- What is left of an integer in a kind: the only integer in the range of the kind that is
congruent to it modulo the width. -/
def Keeps (d : Dtype) (i j : Int) : Prop :=
  ∀ k, d.Holds k ∧ k ≡ i [ZMOD 2 ^ d.bits] ↔ k = j

/-- What is read from the octets of an integer is what is left of it. -/
theorem keeps_integer_wrap (d : Dtype) (i : Int) : d.Keeps i (d.integer (d.wrap i)) := by
  intro k
  rw [← modulus_eq_two_pow]
  constructor
  · rintro ⟨hholds, hcongruent⟩
    -- Congruent integers have the same octets, and the one in the range is read from them.
    have hsame : d.wrap k = d.wrap i := by
      rw [wrap, wrap, hcongruent]
    rw [← hsame, integer_wrap hholds]
  · rintro rfl
    refine ⟨holds_integer (length_wrap d i), ?_⟩
    rw [Int.ModEq, integer_emod, toNat_wrap, Int.emod_emod]

/-- An octet is the same when higher ones are taken away first. -/
theorem emod_ediv_emod (i : Int) {k count : Nat} (hk : k < count) :
    i % 256 ^ count / 256 ^ k % 256 = i / 256 ^ k % 256 := by
  obtain ⟨t, rfl⟩ : ∃ t, count = k + (t + 1) := ⟨count - k - 1, by omega⟩
  have hsplit : i = i % 256 ^ (k + (t + 1)) + 256 ^ k * (256 * (256 ^ t * (i / 256 ^ (k + (t + 1))))) := by
    conv_lhs => rw [← Int.emod_add_mul_ediv i (256 ^ (k + (t + 1)))]
    ring
  conv_rhs =>
    rw [hsplit, Int.add_mul_ediv_left _ _ (by positivity), Int.add_mul_emod_self_left]

/-- The octets of an integer are those of the two's complement of what is left of it. -/
theorem twosComplement_wrap (d : Dtype) (i : Int) :
    Octets.TwosComplement (d.integer (d.wrap i)) (d.wrap i) := by
  intro k b hb
  obtain ⟨hk, hvalue⟩ := Octets.getElem?_ofNat hb
  have hpos : (0 : Int) < d.modulus := by exact_mod_cast d.modulus_pos
  have hmodulus : (d.modulus : Int) = 256 ^ d.itemSize := by
    rw [modulus_eq]
    norm_num
  have hleft : d.integer (d.wrap i) % d.modulus = i % d.modulus := by
    rw [integer_emod, toNat_wrap, Int.emod_emod]
  calc (b.toNat : Int)
      = i % d.modulus / 256 ^ k % 256 := by
        rw [hvalue]
        push_cast
        rw [Int.toNat_of_nonneg (Int.emod_nonneg i hpos.ne')]
    _ = d.integer (d.wrap i) / 256 ^ k % 256 := by
        rw [← hleft, hmodulus, emod_ediv_emod _ hk]

/-! ## What is stored -/

/-- The integer that is stored for an element. A kind of 64 bits takes exact integers, every other
kind takes the integer part of the nearest number. -/
def taken (d : Dtype) (x : Scalar) : Option Int :=
  if d.isWide then x.integer? else some (Number.truncate x.toNumber)

/-- Integers are taken as they are, but beyond `2 ^ 53` an exact one is taken as the nearest number
in a kind that is not of 64 bits. -/
theorem taken_of_integer? (hx : x.integer? = some i)
    (h : d.isWide = true ∨ (∃ n, x = .num n) ∨ i.natAbs < 2 ^ 53) : d.taken x = some i := by
  rw [taken]
  split
  · exact hx
  · rename_i hw
    -- Either the number was given, or the exact integer is small enough to be one.
    have hnumber : Number.integer? x.toNumber = some i := by
      cases x with
      | num n =>
          exact hx
      | int k =>
          cases hx
          refine Number.integer?_ofInt ?_
          simpa [hw] using h
    rw [Number.truncate_of_integer? hnumber]

/-- What is taken is stored modulo the width. -/
theorem store_of_taken (hd : d.Integral) (h : d.taken x = some i) : d.store x = .ok (d.wrap i) := by
  cases hw : d.isWide with
  | true =>
      rw [taken, if_pos hw] at h
      exact store_wide hw h
  | false =>
      rw [taken, if_neg (by simp [hw]), Option.some_inj] at h
      rw [store_narrow hd hw, h]

/-- Just integers can be stored in a kind of 64 bits. -/
theorem exists_store_iff (hw : d.isWide = true) : (∃ g, d.store x = .ok g) ↔ ∃ i, x.integer? = some i := by
  constructor
  · rintro ⟨g, hg⟩
    cases x with
    | int i =>
        exact ⟨i, rfl⟩
    | num n =>
        cases hn : Number.integer? n with
        | some i =>
            exact ⟨i, hn⟩
        | none =>
            -- What is no integer is refused.
            cases d with
            | i64 | u64 => simp [store, hn] at hg
            | _ => cases hw
  · rintro ⟨i, hi⟩
    exact ⟨_, store_wide hw hi⟩

/-! ## Many elements -/

/-- Elements of which integers are taken are stored one after the other. -/
theorem storeAll_of_taken (hd : d.Integral) {is : List Int}
    (h : List.Forall₂ (fun x i => d.taken x = some i) xs is) :
    d.storeAll xs = .ok (is.map d.wrap).flatten := by
  have hgroups : xs.mapM d.store = .ok (is.map d.wrap) := by
    refine mapM_eq_ok.mpr ?_
    rw [List.forall₂_map_right_iff]
    exact h.imp fun x i hx => store_of_taken hd hx
  rw [storeAll, hgroups]
  rfl

/-- Each group of octets is read as the integer that is left in it. -/
theorem loadAll_wrap (hd : d.Integral) (is : List Int) :
    d.loadAll (is.map d.wrap).flatten = is.map fun i => d.ofInteger (d.integer (d.wrap i)) := by
  induction is with
  | nil =>
      simp [loadAll]
  | cons i is ih =>
      have hlength : (d.wrap i).length = 1 * d.itemSize := by
        rw [length_wrap, Nat.one_mul]
      rw [List.map_cons, List.flatten_cons, loadAll_append hlength, ih,
        loadAll_of_length (length_wrap d i), load_eq hd]
      rfl

/-- Elements can be stored together if each of them can. -/
theorem exists_storeAll_iff :
    (∃ bs, d.storeAll xs = .ok bs) ↔ ∀ x ∈ xs, ∃ g, d.store x = .ok g := by
  rw [← exists_mapM]
  constructor
  · rintro ⟨bs, hbs⟩
    obtain ⟨groups, hgroups, -⟩ := ok_of_bind hbs
    exact ⟨groups, hgroups⟩
  · rintro ⟨groups, hgroups⟩
    refine ⟨groups.flatten, ?_⟩
    rw [storeAll, hgroups]
    rfl

/-- Room is not filled by values that are not as many, or that cannot all be stored. -/
theorem fill_eq_error_iff {size : Nat} :
    (∃ e, d.fill size xs = .error e) ↔ xs.length ≠ size ∨ ¬ ∀ x ∈ xs, ∃ g, d.store x = .ok g := by
  rw [← exists_storeAll_iff, fill]
  split
  · rename_i hlength
    exact ⟨fun _ => .inl hlength, fun _ => ⟨_, rfl⟩⟩
  · rename_i hlength
    cases hstored : d.storeAll xs with
    | error e =>
        simp
    | ok bs =>
        simpa using hlength

/-- Whatever is wrong with filling, a value or their number is out of range. -/
theorem isKind_of_fill {size : Nat} {e : ArrayError} (h : d.fill size xs = .error e) :
    e.isKind = false := by
  rw [fill] at h
  split at h
  · cases h
    rfl
  · obtain ⟨n, rfl⟩ := error_of_storeAll h
    rfl

/-- Octets that are read as an array of one dimension are stored again as they were. -/
theorem ofScalars_fromBytes (hd : d.Integral) (hwhole : bs.length % d.itemSize = 0)
    (hfits : bs.length < 2 ^ 53) :
    ∃ a : NDArray, NDArray.fromBytes d bs [] = .ok a ∧
      NDArray.ofScalars a.elements d none = .ok a ∧ a.octets = bs := by
  have hlength : bs.length = bs.length / d.itemSize * d.itemSize :=
    (Nat.div_mul_cancel (Nat.dvd_of_mod_eq_zero hwhole)).symm
  have hcount : bs.length / d.itemSize < 2 ^ 53 := lt_of_le_of_lt (Nat.div_le_self _ _) hfits
  have hc := NDArray.checkShape_ofNat hcount
  refine ⟨⟨d, [Float.ofNat (bs.length / d.itemSize)], bs⟩, ?_, ?_, rfl⟩
  · rw [NDArray.fromBytes, if_neg (by omega)]
    exact NDArray.exists_ofOctets hlength hc
  · exact NDArray.ofScalars_loadAll hd hlength hc

/-- An integer kind of `b` bits stores integers modulo `2 ^ b`. As many elements as there is room
for are kept at their places, in octets of two's complement, and are read back as what is left of
them. Octets that are read are stored again as they were. A kind of 64 bits refuses what is no
integer, and nothing else but another number of values. -/
theorem fill_modular (hd : d.Integral) :
    (∀ x i, x.integer? = some i →
      d.isWide = true ∨ (∃ n, x = .num n) ∨ i.natAbs < 2 ^ 53 → d.taken x = some i) ∧
    (∀ xs is, List.Forall₂ (fun x i => d.taken x = some i) xs is →
      (xs.length * d.itemSize ≤ 8589934592 →
        d.allocate (Float.ofNat xs.length) = .ok xs.length) ∧
      ∃ (js : List Int) (groups : List Octets), d.fill xs.length xs = .ok groups.flatten ∧
        List.Forall₂ d.Keeps is js ∧
        List.Forall₂ (fun j g => g.length = d.itemSize ∧ Octets.TwosComplement j g) js groups ∧
        d.loadAll groups.flatten = js.map d.ofInteger) ∧
    (∀ bs, bs.length % d.itemSize = 0 → bs.length < 2 ^ 53 →
      ∃ a b : NDArray, NDArray.fromBytes d bs [] = .ok a ∧
        NDArray.ofScalars a.elements d none = .ok b ∧ b.octets = bs) ∧
    ∀ size xs, (∀ e, d.fill size xs = .error e → e.isKind = false) ∧
      (d.isWide = true → ((∃ e, d.fill size xs = .error e) ↔
        xs.length ≠ size ∨ ∃ n, .num n ∈ xs ∧ Number.isInteger n = false)) := by
  refine ⟨?_, ?_, ?_, ?_⟩
  · intro x i hx h
    exact taken_of_integer? hx h
  · intro xs is h
    refine ⟨?_, is.map fun i => d.integer (d.wrap i), is.map d.wrap, ?_, ?_, ?_, ?_⟩
    · intro hroom
      rw [allocate_ofNat (by omega), if_pos hroom]
    · rw [fill, if_neg (by simp), storeAll_of_taken hd h]
    · simp only [List.forall₂_map_right_iff, List.forall₂_same]
      exact fun i _ => keeps_integer_wrap d i
    · simp only [List.forall₂_map_right_iff, List.forall₂_map_left_iff, List.forall₂_same]
      exact fun i _ => ⟨length_wrap d i, twosComplement_wrap d i⟩
    · rw [loadAll_wrap hd, List.map_map]
      rfl
  · intro bs hwhole hfits
    obtain ⟨a, ha, hb, hoctets⟩ := ofScalars_fromBytes hd hwhole hfits
    exact ⟨a, a, ha, hb, hoctets⟩
  · intro size xs
    refine ⟨fun e he => isKind_of_fill he, ?_⟩
    intro hw
    rw [fill_eq_error_iff]
    -- A value that cannot be stored is a number that is no integer.
    have hbroken : (¬ ∀ x ∈ xs, ∃ g, d.store x = .ok g) ↔
        ∃ n, .num n ∈ xs ∧ Number.isInteger n = false := by
      simp only [exists_store_iff hw, not_forall]
      constructor
      · rintro ⟨x, hx, hnone⟩
        cases x with
        | int i =>
            exact absurd ⟨i, rfl⟩ hnone
        | num n =>
            refine ⟨n, hx, ?_⟩
            rw [Number.isInteger, ← Bool.not_eq_true, Option.isSome_iff_exists]
            exact hnone
      · rintro ⟨n, hn, hinteger⟩
        refine ⟨_, hn, ?_⟩
        rw [Number.isInteger, ← Bool.not_eq_true, Option.isSome_iff_exists] at hinteger
        exact hinteger
    rw [hbroken]

/-- A negative number and an exact integer that is too large by one width, as elements of two
octets. -/
theorem fill_modular_twoOctets :
    Dtype.Integral .i16 ∧ Dtype.fill .i16 2 [.num (-1), .int 65537] = .ok [255, 255, 1, 0] ∧
      Keeps .i16 (-1) (-1) ∧ Keeps .i16 65537 1 ∧
      Dtype.loadAll .i16 [255, 255, 1, 0] = [ofInteger .i16 (-1), ofInteger .i16 1] := by
  have hd : Dtype.Integral .i16 := by decide
  have hfilled : Dtype.fill .i16 2 [.num (-1), .int 65537] = .ok [255, 255, 1, 0] := by
    decide +kernel
  obtain ⟨htaken, hstored, -, -⟩ := fill_modular hd
  have hnegative : Dtype.taken .i16 (.num (-1)) = some (-1) :=
    htaken _ _ (by decide +kernel) (.inr (.inl ⟨_, rfl⟩))
  have hexact : Dtype.taken .i16 (.int 65537) = some 65537 :=
    htaken _ _ rfl (.inr (.inr (by decide)))
  obtain ⟨-, js, groups, hfill, hkeeps, -, hload⟩ :=
    hstored [.num (-1), .int 65537] [-1, 65537] (.cons hnegative (.cons hexact .nil))
  have hoctets : groups.flatten = [255, 255, 1, 0] := Except.ok.inj (hfill.symm.trans hfilled)
  rw [hoctets] at hload
  match js, hkeeps with
  | [j, k], .cons hj (.cons hk .nil) =>
    -- What is left is the only integer in the range that is congruent.
    obtain rfl : -1 = j := (hj (-1)).mp ⟨by decide, rfl⟩
    obtain rfl : 1 = k := (hk 1).mp ⟨by decide, by decide⟩
    exact ⟨hd, hfilled, hj, hk, hload⟩

/-- An exact integer beyond `2 ^ 53` is taken as the nearest number by a kind of one octet, and so
another integer is stored than what is left of it. -/
theorem fill_roundedInteger :
    Dtype.Integral .u8 ∧ (Scalar.int 9007199254740993).integer? = some 9007199254740993 ∧
      Dtype.allocate .u8 1 = .ok 1 ∧ Dtype.fill .u8 1 [.int 9007199254740993] = .ok [0] ∧
      Dtype.loadAll .u8 [0] = [ofInteger .u8 0] ∧ Keeps .u8 9007199254740993 1 ∧
      ¬ Keeps .u8 9007199254740993 0 := by
  have hkeeps : Keeps .u8 9007199254740993 1 := keeps_integer_wrap .u8 9007199254740993
  refine ⟨by decide, rfl, by decide +kernel, by decide +kernel, by decide +kernel, hkeeps, ?_⟩
  intro h
  have hone : (1 : Int) = 0 := (h 1).mp ((hkeeps 1).mpr rfl)
  cases hone

end Dtype
end LineRpc
