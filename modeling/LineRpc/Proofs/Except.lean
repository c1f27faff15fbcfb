import Mathlib.Data.List.Forall2
import LineRpc.Failure

/-!
# Except — results that may be missing

What a step gives or fails with is read off the whole that it is part of: a result that is mapped or
bound comes from a result before, and a list of results comes from its items one by one.

* `ok_of_bind`, `error_of_bind` : a step after another
* `mapM_eq_ok`                  : a list of results, item by item
* `mapM_eq_error`               : the first item without a result
-/

namespace LineRpc

/-! ## Single results -/

section Results

variable {ε ε' α β : Type} {e : ε}

/-- A mapped success comes from a success. -/
theorem ok_of_map {f : α → β} {r : Except ε α} {b : β} (h : r.map f = .ok b) :
    ∃ a, r = .ok a ∧ f a = b := by
  cases r with
  | error e =>
      cases h
  | ok a =>
      cases h
      exact ⟨a, rfl, rfl⟩

theorem map_eq_ok {f : α → β} {r : Except ε α} {b : β} :
    r.map f = .ok b ↔ ∃ a, r = .ok a ∧ f a = b := by
  constructor
  · exact ok_of_map
  · rintro ⟨a, rfl, rfl⟩
    rfl

/-- A result that is put beside something. -/
theorem map_pair_eq_ok {a : α} {r : Except ε β} {p : α × β} :
    r.map (a, ·) = .ok p ↔ a = p.1 ∧ r = .ok p.2 := by
  rw [map_eq_ok]
  constructor
  · rintro ⟨b, rfl, rfl⟩
    exact ⟨rfl, rfl⟩
  · rintro ⟨rfl, rfl⟩
    exact ⟨p.2, rfl, rfl⟩

theorem exists_map_ok {f : α → β} {r : Except ε α} :
    (∃ b, r.map f = .ok b) ↔ ∃ a, r = .ok a := by
  constructor
  · rintro ⟨b, hb⟩
    rcases ok_of_map hb with ⟨a, ha, -⟩
    exact ⟨a, ha⟩
  · rintro ⟨a, rfl⟩
    exact ⟨f a, rfl⟩

theorem ok_of_bind {f : α → Except ε β} {r : Except ε α} {b : β}
    (h : r.bind f = .ok b) : ∃ a, r = .ok a ∧ f a = .ok b := by
  cases r with
  | error e =>
      cases h
  | ok a =>
      exact ⟨a, rfl, h⟩

theorem bind_eq_ok {f : α → Except ε β} {r : Except ε α} {b : β} :
    r.bind f = .ok b ↔ ∃ a, r = .ok a ∧ f a = .ok b := by
  constructor
  · exact ok_of_bind
  · rintro ⟨a, rfl, hb⟩
    exact hb

/-- Two results that make a pair. -/
theorem bind_pair_eq_ok {r : Except ε α} {s : Except ε β} {p : α × β} :
    (r.bind fun a => s.map (a, ·)) = .ok p ↔ r = .ok p.1 ∧ s = .ok p.2 := by
  rw [bind_eq_ok]
  constructor
  · rintro ⟨a, ha, hpair⟩
    obtain ⟨rfl, hs⟩ := map_pair_eq_ok.mp hpair
    exact ⟨ha, hs⟩
  · rintro ⟨ha, hs⟩
    exact ⟨p.1, ha, map_pair_eq_ok.mpr ⟨rfl, hs⟩⟩

theorem ok_of_mapError {f : ε → ε'} {r : Except ε α} {a : α}
    (h : r.mapError f = .ok a) : r = .ok a := by
  cases r with
  | error e =>
      cases h
  | ok a' =>
      cases h
      rfl

theorem map_eq_error {f : α → β} {r : Except ε α} {e : ε} :
    r.map f = .error e ↔ r = .error e := by
  cases r <;> simp [Except.map]

/-- A sequence fails in its first part or in its second. -/
theorem error_of_bind {f : α → Except ε β} {r : Except ε α} {e : ε}
    (h : r.bind f = .error e) : r = .error e ∨ ∃ a, r = .ok a ∧ f a = .error e := by
  cases r with
  | error e' =>
      cases h
      exact Or.inl rfl
  | ok a =>
      exact Or.inr ⟨a, rfl, h⟩

theorem error_of_mapError {f : ε → ε'} {r : Except ε α} {e : ε'}
    (h : r.mapError f = .error e) : ∃ e', f e' = e := by
  cases r with
  | error e' =>
      cases h
      exact ⟨e', rfl⟩
  | ok a =>
      cases h

end Results

/-! ## Lists of results -/

section Results

variable {ε α β : Type} {f : α → Except ε β}

/-- A list of results is one if every item gives one, in the same order. -/
theorem mapM_eq_ok {xs : List α} {ys : List β} :
    xs.mapM f = .ok ys ↔ List.Forall₂ (fun x y => f x = .ok y) xs ys := by
  induction xs generalizing ys with
  | nil =>
      cases ys <;> simp [pure, Except.pure]
  | cons x xs ih =>
      cases hx : f x with
      | error e =>
          cases ys <;> simp [bind, Except.bind, hx]
      | ok y =>
          cases hxs : xs.mapM f with
          | error e =>
              cases ys <;> simp [bind, Except.bind, hx, hxs, ← ih]
          | ok ys' =>
              cases ys <;> simp [bind, Except.bind, pure, Except.pure, hx, hxs, ← ih]

/-- A list gives results if every item gives one. -/
theorem exists_mapM {xs : List α} :
    (∃ ys, xs.mapM f = .ok ys) ↔ ∀ x ∈ xs, ∃ y, f x = .ok y := by
  induction xs with
  | nil =>
      simp [pure, Except.pure]
  | cons x xs ih =>
      rw [List.forall_mem_cons, ← ih]
      constructor
      · rintro ⟨ys, hys⟩
        cases mapM_eq_ok.mp hys with
        | cons hx hxs =>
            exact ⟨⟨_, hx⟩, _, mapM_eq_ok.mpr hxs⟩
      · rintro ⟨⟨y, hy⟩, ys, hys⟩
        exact ⟨y :: ys, mapM_eq_ok.mpr (.cons hy (mapM_eq_ok.mp hys))⟩

/-- What every item has one of makes a list. -/
theorem exists_forall₂ {r : α → β → Prop} {xs : List α} (h : ∀ x ∈ xs, ∃ y, r x y) :
    ∃ ys, List.Forall₂ r xs ys := by
  induction xs with
  | nil =>
      exact ⟨[], .nil⟩
  | cons x xs ih =>
      obtain ⟨⟨y, hy⟩, hrest⟩ := List.forall_mem_cons.mp h
      obtain ⟨ys, hys⟩ := ih hrest
      exact ⟨y :: ys, .cons hy hys⟩

/-- Every item of a list has its partner in a related one. -/
theorem exists_of_forall₂ {r : α → β → Prop} {xs : List α} {ys : List β} (h : List.Forall₂ r xs ys)
    {x : α} (hx : x ∈ xs) : ∃ y ∈ ys, r x y := by
  induction h with
  | nil =>
      cases hx
  | cons hfirst hrest ih =>
      rcases List.mem_cons.mp hx with rfl | hx
      · exact ⟨_, List.mem_cons_self, hfirst⟩
      · obtain ⟨y, hy, hxy⟩ := ih hx
        exact ⟨y, List.mem_cons_of_mem _ hy, hxy⟩

/-- As many results come out as items went in. -/
theorem length_of_mapM {xs : List α} {ys : List β} (h : xs.mapM f = .ok ys) :
    ys.length = xs.length :=
  (mapM_eq_ok.mp h).length_eq.symm

/-- Every result in a list comes from an item. -/
theorem exists_of_mem_mapM {xs : List α} {ys : List β} (h : xs.mapM f = .ok ys) {y : β}
    (hy : y ∈ ys) : ∃ x ∈ xs, f x = .ok y :=
  exists_of_forall₂ (mapM_eq_ok.mp h).flip hy

/-- The error of a list of results is that of the first item without one. -/
theorem mapM_eq_error {xs : List α} {e : ε} :
    xs.mapM f = .error e ↔ ∃ before x after, xs = before ++ x :: after ∧
      (∀ u ∈ before, ∃ y, f u = .ok y) ∧ f x = .error e := by
  induction xs with
  | nil =>
      constructor
      · intro h
        cases h
      · rintro ⟨before, x, after, hxs, -⟩
        cases before <;> cases hxs
  | cons x xs ih =>
      rw [List.mapM_cons]
      constructor
      · intro h
        rcases error_of_bind h with hx | ⟨y, hy, h⟩
        · exact ⟨[], x, xs, rfl, fun u hu => absurd hu List.not_mem_nil, hx⟩
        · -- The first item gave a result, so the error is one of the rest.
          rcases error_of_bind h with hrest | ⟨ys, -, h⟩
          · obtain ⟨before, u, after, rfl, hbefore, hu⟩ := ih.mp hrest
            exact ⟨x :: before, u, after, rfl, List.forall_mem_cons.mpr ⟨⟨y, hy⟩, hbefore⟩, hu⟩
          · cases h
      · rintro ⟨before, u, after, hxs, hbefore, hu⟩
        -- Either the first item fails, or it is one of those before the failing one.
        cases before with
        | nil =>
            cases hxs
            rw [hu]
            rfl
        | cons b before =>
            cases hxs
            obtain ⟨⟨y, hy⟩, hbefore⟩ := List.forall_mem_cons.mp hbefore
            rw [hy, ih.mpr ⟨before, u, after, rfl, hbefore, hu⟩]
            rfl

/-- If going through a list fails, some item failed. -/
theorem exists_of_mapM_error {xs : List α} {e : ε} (h : xs.mapM f = .error e) :
    ∃ x ∈ xs, f x = .error e := by
  obtain ⟨before, x, after, rfl, -, hx⟩ := mapM_eq_error.mp h
  exact ⟨x, List.mem_append_right _ List.mem_cons_self, hx⟩

/-- A list of values that may be missing, where every item has one. -/
theorem mapM_of_some {g : α → Option β} {u : α → β} {xs : List α} (h : ∀ x ∈ xs, g x = some (u x)) :
    xs.mapM g = some (xs.map u) := by
  induction xs with
  | nil =>
      rfl
  | cons x xs ih =>
      obtain ⟨hx, hrest⟩ := List.forall_mem_cons.mp h
      rw [List.mapM_cons, hx, ih hrest]
      rfl

end Results

/-! ## Failures -/

namespace Failure

variable {ε α : Type} {r : Except ε α} {o : Option α} {a : α}

@[simp]
theorem ofExcept_eq_ok : ofExcept r = .ok a ↔ r = .ok a := by
  cases r <;> simp [ofExcept]

@[simp]
theorem ofExcept_eq_raised {e : ε} : ofExcept r = .error (.raised e) ↔ r = .error e := by
  cases r <;> simp [ofExcept]

/-- What ends keeps ending. -/
@[simp]
theorem ofExcept_ne_endless : ofExcept r ≠ .error .endless := by
  cases r <;> simp [ofExcept]

@[simp]
theorem ofOption_eq_ok : (ofOption o : Except (Failure ε) α) = .ok a ↔ o = some a := by
  cases o <;> simp [ofOption]

/-- A count that is not there never ends. -/
@[simp]
theorem ofOption_eq_endless : (ofOption o : Except (Failure ε) α) = .error .endless ↔ o = none := by
  cases o <;> simp [ofOption]

theorem ofOption_eq_error {failure : Failure ε} :
    (ofOption o : Except (Failure ε) α) = .error failure ↔ failure = .endless ∧ o = none := by
  cases o <;> simp [ofOption, eq_comm]

@[simp]
theorem ofOption_ne_raised {e : ε} : (ofOption o : Except (Failure ε) α) ≠ .error (.raised e) := by
  cases o <;> simp [ofOption]

end Failure
end LineRpc
