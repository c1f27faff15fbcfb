import LineRpc.Library.Math
import LineRpc.Proofs.Dtype
import LineRpc.Proofs.Library.Arguments
import LineRpc.Proofs.Number.Dyadic

/-!
# Divisors — the greatest common divisor of any number of arguments

The greatest common divisor is built up argument by argument: what has been found so far is divided
by the next one until nothing remains. It divides all arguments, and every common divisor divides
it, so neither the order nor the signs of the arguments count. As a divisor of numbers it is a
number too, so it is returned exactly, however large the arguments are.

* `GreatestDivisor`      : divides all, and is divided by all that do
* `greatest_euclid`      : one more argument
* `greatest_gcdOf`       : all arguments
* `GreatestDivisor.kept` : the divisor is a number
* `gcd_greatest`         : what is answered, and what is refused
-/

namespace LineRpc
namespace Math

open Number

/-! ## Common divisors -/

/-- A natural number that divides all of some integers, and that is divided by whatever divides all
of them. -/
structure GreatestDivisor (g : Nat) (is : List Int) : Prop where
  divides : ∀ i ∈ is, (g : Int) ∣ i
  greatest : ∀ d : Int, (∀ i ∈ is, d ∣ i) → d ∣ (g : Int)

namespace GreatestDivisor

variable {g h : Nat} {is js : List Int}

/-- There is only one. -/
theorem unique (hg : GreatestDivisor g is) (hh : GreatestDivisor h is) : g = h := by
  have hle := hh.greatest g hg.divides
  have hge := hg.greatest h hh.divides
  exact Nat.dvd_antisymm (Int.natCast_dvd_natCast.mp hle) (Int.natCast_dvd_natCast.mp hge)

/-- Zeros only, or no integers at all, are divided by everything. -/
theorem eq_zero (hg : GreatestDivisor g is) (h : ∀ i ∈ is, i = 0) : g = 0 := by
  have hzero : (0 : Int) ∣ g := hg.greatest 0 fun i hi => by rw [h i hi]
  exact_mod_cast Int.zero_dvd.mp hzero

/-- What divides integers divides their sizes, so that is all that counts of them. -/
theorem of_sizes (hg : GreatestDivisor g is)
    (h : (js.map Int.natAbs).Perm (is.map Int.natAbs)) : GreatestDivisor g js := by
  have hdivides (d : Int) : (∀ i ∈ js, d ∣ i) ↔ ∀ i ∈ is, d ∣ i := by
    have hsizes (ks : List Int) : (∀ i ∈ ks, d ∣ i) ↔ ∀ n ∈ ks.map Int.natAbs, d.natAbs ∣ n := by
      simp only [List.forall_mem_map, Int.natAbs_dvd_natAbs]
    rw [hsizes, hsizes]
    exact forall_congr' fun n => imp_congr_left h.mem_iff
  exact ⟨(hdivides g).mpr hg.divides, fun d hd => hg.greatest d ((hdivides d).mp hd)⟩

end GreatestDivisor

/-! ## Repeated division -/

/-- Dividing with remainder keeps the common divisors, and it ends with one of them. -/
theorem euclid_eq (a b : Nat) : euclid a b = Nat.gcd a b := by
  fun_induction euclid a b with
  | case1 a =>
      exact (Nat.gcd_zero_right a).symm
  | case2 a b hb ih =>
      calc euclid b (a % b) = Nat.gcd b (a % b) := ih
        _ = Nat.gcd (a % b) b := Nat.gcd_comm _ _
        _ = Nat.gcd b a := (Nat.gcd_rec b a).symm
        _ = Nat.gcd a b := Nat.gcd_comm _ _

/-- One more integer: the divisor so far takes its part in. -/
theorem greatest_euclid {g : Nat} {is : List Int} (h : GreatestDivisor g is) (i : Int) :
    GreatestDivisor (euclid g i.natAbs) (is ++ [i]) := by
  rw [euclid_eq]
  constructor
  · intro j hj
    rcases List.mem_append.mp hj with hold | hnew
    · exact (Int.natCast_dvd_natCast.mpr (Nat.gcd_dvd_left _ _)).trans (h.divides j hold)
    · rw [List.mem_singleton.mp hnew, ← Int.dvd_natAbs]
      exact Int.natCast_dvd_natCast.mpr (Nat.gcd_dvd_right _ _)
  · intro d hd
    have hold : d ∣ (g : Int) := h.greatest d fun j hj => hd j (List.mem_append_left _ hj)
    have hnew : d ∣ i := hd i (List.mem_append_right _ (List.mem_singleton_self i))
    exact Int.dvd_coe_gcd hold hnew

/-- All integers, one after the other. -/
theorem greatest_foldl {g : Nat} {is : List Int} (h : GreatestDivisor g is) (xs : List Float) :
    GreatestDivisor (xs.foldl (fun g x => euclid g (toInt x).natAbs) g) (is ++ xs.map toInt) := by
  induction xs generalizing g is with
  | nil =>
      simpa using h
  | cons x xs ih =>
      have hrest := ih (greatest_euclid h (toInt x))
      rwa [List.append_assoc] at hrest

/-- The fold gives the greatest divisor of all the numbers. -/
theorem greatest_gcdOf (xs : List Float) : GreatestDivisor (gcdOf xs) (xs.map toInt) := by
  have hstart : GreatestDivisor 0 [] := ⟨by simp, fun d _ => dvd_zero d⟩
  exact greatest_foldl hstart xs

/-- The greatest common divisor of numbers is a number. -/
theorem GreatestDivisor.kept {g : Nat} {is : List Int} (h : GreatestDivisor g is)
    (hkept : ∀ i ∈ is, Kept i.natAbs) : Kept g := by
  by_cases hzero : ∀ i ∈ is, i = 0
  · rw [h.eq_zero hzero]
    exact ⟨⟨0, 0, by norm_num, rfl⟩, by positivity⟩
  · obtain ⟨i, hi, hne⟩ : ∃ i ∈ is, i ≠ 0 := by simpa using hzero
    exact (hkept i hi).of_dvd (Int.natAbs_pos.mpr hne) (Int.natCast_dvd.mp (h.divides i hi))

/-! ## The function -/

variable {args : List Value} {is : List Int}

/-- Arguments that count as integers are accepted one by one. -/
theorem numbers_of_whole (h : args.map Value.whole? = is.map some) :
    ∃ xs, args.mapM (Args.integer "gcd") = .ok xs ∧ xs.map toInt = is ∧
      ∀ i ∈ is, Kept i.natAbs := by
  induction args generalizing is with
  | nil =>
      obtain rfl : is = [] := by simpa using h
      exact ⟨[], rfl, rfl, by simp⟩
  | cons v args ih =>
      obtain ⟨i, rest, rfl, hi, hrest⟩ := List.map_eq_cons_iff.mp h.symm
      obtain ⟨x, hx, rfl⟩ := Args.integer_of_whole? "gcd" hi.symm
      obtain ⟨xs, hxs, rfl, hkept⟩ := ih hrest.symm
      have hint := (Args.whole?_of_integer hx).2
      exact ⟨x :: xs, mapM_eq_ok.mpr (.cons hx (mapM_eq_ok.mp hxs)), rfl,
        List.forall_mem_cons.mpr ⟨kept_of_integer? hint, hkept⟩⟩

/-- What is answered for integers. -/
theorem gcd_of_whole (h : args.map Value.whole? = is.map some) :
    ∃ g, gcd args = .ok (.num (Float.ofNat g)) ∧ GreatestDivisor g is ∧ Kept g := by
  obtain ⟨xs, hxs, rfl, hkept⟩ := numbers_of_whole h
  have hgreatest := greatest_gcdOf xs
  refine ⟨gcdOf xs, ?_, hgreatest, hgreatest.kept hkept⟩
  change (args.mapM (Args.integer "gcd")).bind _ = _
  rw [hxs]
  rfl

/-- What is refused: an argument that counts as no integer. -/
theorem refused_of_gcd {e : CallError} (h : gcd args = .error e) :
    (∃ v ∈ args, v.whole? = none) ∧ e.errorClass = .type := by
  rcases error_of_bind h with hargs | ⟨xs, -, hdone⟩
  · obtain ⟨v, hv, hinteger⟩ := exists_of_mapM_error hargs
    obtain ⟨hwhole, hclass⟩ := Args.isKind_of_integer hinteger
    exact ⟨⟨v, hv, hwhole⟩, hclass⟩
  · cases hdone

/-- The divisor is refused exactly when some argument is no whole number. -/
theorem exists_gcd_error_iff :
    (∃ e, gcd args = .error e) ↔ ∃ v ∈ args, v.whole? = none := by
  constructor
  · rintro ⟨e, he⟩
    exact (refused_of_gcd he).1
  · rintro ⟨v, hv, hwhole⟩
    cases hgcd : gcd args with
    | error e =>
        exact ⟨e, rfl⟩
    | ok r =>
        -- All arguments were accepted, this one among them.
        obtain ⟨xs, hxs, -⟩ := ok_of_bind hgcd
        obtain ⟨x, hx⟩ := exists_mapM.mp ⟨xs, hxs⟩ v hv
        cases hwhole.symm.trans (Args.whole?_of_integer hx).1

/-- For any number of arguments that count as integers, of any size, the answer is their greatest
common divisor, as a number that is just this integer and has no sign; arguments of the same sizes
in any order have the same answer. If an argument counts as no integer, and only then, the call is
refused with an error about its kind. -/
theorem gcd_greatest (args : List Value) :
    (∀ is : List Int, args.map Value.whole? = is.map some →
      ∃ (r : Float) (g : Nat), gcd args = .ok (.num r) ∧ integer? r = some (g : Int) ∧
        isNegativeZero r = false ∧ GreatestDivisor g is ∧ ((∀ i ∈ is, i = 0) → g = 0) ∧
        ∀ (args' : List Value) (is' : List Int), args'.map Value.whole? = is'.map some →
          (is'.map Int.natAbs).Perm (is.map Int.natAbs) → gcd args' = gcd args) ∧
    ((∃ e, gcd args = .error e) ↔ ∃ v ∈ args, v.whole? = none) ∧
    (∀ e, gcd args = .error e → e.errorClass = .type) := by
  refine ⟨fun is h => ?_, exists_gcd_error_iff, fun e he => (refused_of_gcd he).2⟩
  obtain ⟨g, hgcd, hgreatest, hkept⟩ := gcd_of_whole h
  obtain ⟨hexact, hsign⟩ := ofNat_kept hkept
  refine ⟨Float.ofNat g, g, hgcd, hexact, hsign, hgreatest, hgreatest.eq_zero, ?_⟩
  intro args' is' h' hsizes
  -- The divisors depend on the sizes only, so the greatest one is the same.
  obtain ⟨g', hgcd', hgreatest', -⟩ := gcd_of_whole h'
  rw [hgcd', hgcd, (hgreatest.of_sizes hsizes).unique hgreatest']

/-- A negative number, one beyond `2 ^ 53` and a truth value that counts as zero; and a text, which
counts as no integer. -/
theorem gcd_greatest_mixed :
    [Value.num (-12), .num 9007199254740996, .bool false].map Value.whole? =
        [-12, 9007199254740996, 0].map some ∧
      (∃ r, gcd [.num (-12), .num 9007199254740996, .bool false] = .ok (.num r) ∧
        integer? r = some 12) ∧
      ∃ e, gcd [.num 4, .str "6"] = .error e ∧ e.errorClass = .type := by
  have hwhole : [Value.num (-12), .num 9007199254740996, .bool false].map Value.whole? =
      [-12, 9007199254740996, 0].map some := by decide +kernel
  have htwelve : GreatestDivisor 12 [-12, 9007199254740996, 0] := by
    refine ⟨by decide, fun d hd => ?_⟩
    exact Int.dvd_neg.mp (hd (-12) (by decide))
  obtain ⟨r, g, hr, hg, -, hgreatest, -⟩ := (gcd_greatest _).1 _ hwhole
  obtain rfl := hgreatest.unique htwelve
  obtain ⟨-, hrefused, hkind⟩ := gcd_greatest [.num 4, .str "6"]
  obtain ⟨e, he⟩ := hrefused.mpr ⟨.str "6", by simp, rfl⟩
  exact ⟨hwhole, ⟨r, hr, hg⟩, e, he, hkind e he⟩

end Math
end LineRpc
