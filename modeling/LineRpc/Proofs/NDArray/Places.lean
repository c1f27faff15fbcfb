import LineRpc.Proofs.NDArray.Exact
import LineRpc.Proofs.Number.Integers

/-!
# Places — where the elements of an index lie

An index has a number for every axis, each of them less than the axis is long. In row-major order
the last axis runs fastest, so the place of an index is that of its first part, times the volume of
the other axes, and the place of the rest. Indices and places are as many: every place below the
volume belongs to just one index.

* `Inside`          : indices of a box
* `place`           : the row-major place of an index
* `existsUnique_of_lt_volume` : every place belongs to one index
* `Reads`           : numbers that are an index
* `exists_at_place` : an element stands at the place of every index
* `element_eq_ok`   : elements are read at the places of their indices, and no other
-/

namespace LineRpc
namespace NDArray

/-! ## Places -/

/-- One natural number for every axis, less than the axis is long. -/
def Inside (dims index : List Nat) : Prop :=
  List.Forall₂ (· < ·) index dims

/-- The row-major place of an index: the last axis runs fastest. -/
def place : (dims index : List Nat) → Nat
  | _ :: dims, i :: index => i * volume dims + place dims index
  | _, _ => 0

/-- The first index counts in whole parts. -/
@[simp]
theorem place_cons (d i : Nat) (dims index : List Nat) :
    place (d :: dims) (i :: index) = i * volume dims + place dims index :=
  rfl

variable {dims index index' : List Nat} {n : Nat}

theorem inside_cons {d : Nat} :
    Inside (d :: dims) index ↔ ∃ i rest, index = i :: rest ∧ i < d ∧ Inside dims rest := by
  constructor
  · intro h
    cases h with
    | cons hi hrest =>
        exact ⟨_, _, rfl, hi, hrest⟩
  · rintro ⟨i, rest, rfl, hi, hrest⟩
    exact .cons hi hrest

/-- The place of an index is that of an element. -/
theorem place_lt_volume (h : Inside dims index) : place dims index < volume dims := by
  induction h with
  | nil =>
      exact Nat.one_pos
  | @cons i d index dims hi _ ih =>
      exact place_lt hi ih

/-- The first part of an index is the quotient of its place, the place of the rest is what remains.
-/
theorem div_mod_place {d i : Nat} (h : Inside dims index) :
    place (d :: dims) (i :: index) / volume dims = i ∧
      place (d :: dims) (i :: index) % volume dims = place dims index := by
  have hlt := place_lt_volume h
  have hpos : 0 < volume dims := Nat.zero_lt_of_lt hlt
  rw [place_cons, Nat.add_comm, Nat.add_mul_div_right _ _ hpos, Nat.add_mul_mod_self_right,
    Nat.div_eq_of_lt hlt, Nat.mod_eq_of_lt hlt, Nat.zero_add]
  exact ⟨rfl, rfl⟩

/-- Different indices have different places. -/
theorem place_injective (h : Inside dims index) (h' : Inside dims index')
    (heq : place dims index = place dims index') : index = index' := by
  induction h generalizing index' with
  | nil =>
      cases h'
      rfl
  | @cons i d index dims _ hrest ih =>
      obtain ⟨i', rest', rfl, -, hrest'⟩ := inside_cons.mp h'
      -- Equal places have the same quotient and the same remainder by the volume of the other axes.
      obtain ⟨hdiv, hmod⟩ := div_mod_place (d := d) (i := i) hrest
      obtain ⟨hdiv', hmod'⟩ := div_mod_place (d := d) (i := i') hrest'
      rw [heq] at hdiv hmod
      rw [ih hrest' (hmod.symm.trans hmod'), hdiv.symm.trans hdiv']

/-- Every place of an element is that of an index. -/
theorem exists_place (h : n < volume dims) : ∃ index, Inside dims index ∧ place dims index = n := by
  induction dims generalizing n with
  | nil =>
      exact ⟨[], .nil, (Nat.lt_one_iff.mp h).symm⟩
  | cons d dims ih =>
      have hpos : 0 < volume dims := Nat.pos_of_mul_pos_left (Nat.zero_lt_of_lt h)
      obtain ⟨rest, hrest, hplace⟩ := ih (Nat.mod_lt n hpos)
      refine ⟨n / volume dims :: rest, .cons ?_ hrest, ?_⟩
      · exact (Nat.div_lt_iff_lt_mul hpos).mpr h
      · rw [place_cons, hplace]
        exact Nat.div_add_mod' n _

/-- Indices reach every element, and each of them once. -/
theorem existsUnique_of_lt_volume (h : n < volume dims) :
    ∃! index, Inside dims index ∧ place dims index = n := by
  obtain ⟨index, hinside, hplace⟩ := exists_place h
  refine ⟨index, ⟨hinside, hplace⟩, ?_⟩
  rintro index' ⟨hinside', hplace'⟩
  exact place_injective hinside' hinside (hplace'.trans hplace.symm)

/-! ## Indices -/

/-- Numbers stand for an index: each of them is its natural number. -/
def Reads (numbers : List Float) (index : List Nat) : Prop :=
  List.Forall₂ (fun x (i : Nat) => Number.integer? x = some (i : Int)) numbers index

variable {numbers shape : List Float} {a : NDArray}

/-- A part of an index is accepted exactly if it is a natural number that is less than its axis. -/
theorem accepts_iff {d x : Float} (hd : isDimension d = true) :
    (Number.isInteger x && !(x < 0) && x < d) = true ↔
      ∃ i : Nat, Number.integer? x = some (i : Int) ∧ i < Number.toNat d := by
  have hlt (hx : isDimension x = true) : x < d ↔ Number.toNat x < Number.toNat d := by
    rw [Number.lt_iff_of_amount (amount_of_isDimension hx).2 (amount_of_isDimension hd).2]
    exact_mod_cast Iff.rfl
  change (isDimension x && decide (x < d)) = true ↔ _
  rw [Bool.and_eq_true, decide_eq_true_iff]
  constructor
  · rintro ⟨hx, hless⟩
    exact ⟨_, (amount_of_isDimension hx).1, (hlt hx).mp hless⟩
  · rintro ⟨i, hi, hless⟩
    have hx : isDimension x = true := isDimension_iff.mpr ⟨i, hi⟩
    have hnat : Number.toNat x = i := toNat_of_integer? hi
    exact ⟨hx, (hlt hx).mpr (by rwa [hnat])⟩

/-- The offset adds the place of the index to what stands before it, one axis after the other. -/
theorem offset_eq_ok (acc axis : Nat) (hall : ∀ d ∈ shape, isDimension d = true)
    (hlength : numbers.length = shape.length) :
    offset acc axis shape numbers = .ok n ↔
      ∃ index, Reads numbers index ∧ Inside (shape.map Number.toNat) index ∧
        acc * volume (shape.map Number.toNat) + place (shape.map Number.toNat) index = n := by
  induction shape generalizing numbers acc axis with
  | nil =>
      have hnil : numbers = [] := List.eq_nil_of_length_eq_zero hlength
      subst hnil
      constructor
      · intro h
        cases h
        exact ⟨[], .nil, .nil, by simp [volume, place]⟩
      · rintro ⟨index, hreads, -, hn⟩
        cases hreads
        simpa [offset, volume, place] using hn
  | cons d shape ih =>
      obtain ⟨hd, hrest⟩ := List.forall_mem_cons.mp hall
      cases numbers with
      | nil =>
        cases hlength
      | cons x numbers =>
        have hlength : numbers.length = shape.length := Nat.succ.inj hlength
        rw [offset]
        split
        · rename_i haccepts
          obtain ⟨i, hi, hless⟩ := (accepts_iff hd).mp haccepts
          have hnat : Number.toNat x = i := toNat_of_integer? hi
          -- What stands before the rest is the offset so far and this part of the index.
          have hsum (rest : List Nat) :
              (acc * Number.toNat d + i) * volume (shape.map Number.toNat) +
                  place (shape.map Number.toNat) rest =
                acc * volume ((d :: shape).map Number.toNat) +
                  place ((d :: shape).map Number.toNat) (i :: rest) := by
            simp only [List.map_cons, volume, place_cons]
            ring
          rw [ih _ _ hrest hlength, hnat]
          constructor
          · rintro ⟨rest, hreads, hinside, hn⟩
            exact ⟨i :: rest, .cons hi hreads, .cons hless hinside, (hsum rest).symm.trans hn⟩
          · rintro ⟨index, hreads, hinside, hn⟩
            cases hreads with
            | @cons _ j _ rest hj hreads =>
                cases hinside with
                | cons _ hinside =>
                    cases hi.symm.trans hj
                    exact ⟨rest, hreads, hinside, (hsum rest).trans hn⟩
        · -- What is refused is no natural number below its axis, so there is no index.
          rename_i hrejects
          constructor
          · intro h
            cases h
          · rintro ⟨index, hreads, hinside, -⟩
            cases hreads with
            | cons hi _ =>
                cases hinside with
                | cons hless _ =>
                    exact absurd ((accepts_iff hd).mpr ⟨_, hi, hless⟩) hrejects

/-! ## Elements -/

theorem Reads.length_eq (h : Reads numbers index) : numbers.length = index.length :=
  List.Forall₂.length_eq h

theorem Reads.unique (h : Reads numbers index)
    (h' : Reads numbers index') : index = index' := by
  induction h generalizing index' with
  | nil =>
      cases h'
      rfl
  | cons hi _ ih =>
      cases h' with
      | cons hi' hrest' =>
          cases hi.symm.trans hi'
          rw [ih hrest']

theorem Inside.length_eq (h : Inside dims index) : index.length = dims.length :=
  List.Forall₂.length_eq h

/-- An element stands at the place of every index. -/
theorem exists_at_place (h : a.Valid) (hf : a.Fits) (hinside : Inside a.dims index) :
    ∃ x, a.elements[place a.dims index]? = some x := by
  have hlt : place a.dims index < a.elements.length := by
    rw [(h.exact hf).count]
    exact place_lt_volume hinside
  exact ⟨_, List.getElem?_eq_getElem hlt⟩

/-- The elements are read at the places of the indices that are inside, and no other is read. -/
theorem element_eq_ok (h : a.Valid) (hf : a.Fits) {x : Scalar} :
    a.element numbers = .ok x ↔
      ∃ index, Reads numbers index ∧ Inside a.dims index ∧
        a.elements[place a.dims index]? = some x := by
  rw [element]
  split
  · rename_i hlength
    constructor
    · intro h
      cases h
    · rintro ⟨index, hreads, hinside, -⟩
      refine absurd ?_ hlength
      rw [hreads.length_eq, hinside.length_eq, dims, List.length_map, rank]
  · rename_i hlength
    have hlength : numbers.length = a.shape.length := not_not.mp hlength
    have hoffset {n : Nat} : offset 0 0 a.shape numbers = .ok n ↔
        ∃ index, Reads numbers index ∧ Inside a.dims index ∧ place a.dims index = n := by
      simpa only [dims, Nat.zero_mul, Nat.zero_add] using
        offset_eq_ok 0 0 h.isDimension hlength
    -- The place is one of an element, so the default is never read.
    have hread {index : List Nat} (hinside : Inside a.dims index) :
        a.elements.getD (place a.dims index) (.num Number.nan) = x ↔
          a.elements[place a.dims index]? = some x := by
      obtain ⟨y, hy⟩ := exists_at_place h hf hinside
      rw [List.getD_eq_getElem?_getD, hy, Option.getD_some, Option.some_inj]
    constructor
    · intro hx
      obtain ⟨n, hn, hx⟩ := ok_of_bind hx
      obtain ⟨index, hreads, hinside, rfl⟩ := hoffset.mp hn
      exact ⟨index, hreads, hinside, (hread hinside).mp (Except.ok.inj hx)⟩
    · rintro ⟨index, hreads, hinside, hx⟩
      rw [hoffset.mpr ⟨index, hreads, hinside, rfl⟩]
      exact congrArg Except.ok ((hread hinside).mpr hx)

end NDArray
end LineRpc
