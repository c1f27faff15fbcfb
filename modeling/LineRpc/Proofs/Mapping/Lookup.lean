import LineRpc.Proofs.Mapping

/-!
# Lookup — what is found in a mapping

Setting a key changes what is found under this key, and nothing else. So if entries are set one
after the other, then the last entry of a key is found, and the keys of the mapping are those of the
entries, each of them once.

* `get?_set`       : setting one key
* `get?_ofEntries` : the last entry of a key is found
* `get?_last`      : the same, for an entry with no other of its key behind it
* `mem_keys`       : the keys of a mapping
-/

namespace LineRpc
namespace Mapping

variable {α : Type}

theorem get?_cons (k : String) (b : α) (m : Mapping α) (key : String) :
    get? ((k, b) :: m) key = if key = k then some b else get? m key := by
  rw [get?, List.lookup_cons]
  by_cases hk : key = k
  · rw [if_pos hk, beq_iff_eq.mpr hk]
  · rw [if_neg hk, beq_eq_false_iff_ne.mpr hk]
    rfl

/-- An entry is what is found under its key if every key stands once. -/
theorem get?_of_mem {m : Mapping α} {key : String} {a : α} (h : (keys m).Nodup)
    (hmem : (key, a) ∈ m) : get? m key = some a := by
  induction m with
  | nil =>
      cases hmem
  | cons e m ih =>
      rcases e with ⟨k, b⟩
      rcases List.nodup_cons.mp h with ⟨hnew, hrest⟩
      rw [get?_cons]
      rcases List.mem_cons.mp hmem with heq | htail
      · cases heq
        exact if_pos rfl
      · have hne : key ≠ k := by
          rintro rfl
          exact hnew (List.mem_map.mpr ⟨(key, a), htail, rfl⟩)
        rw [if_neg hne]
        exact ih hrest htail

/-- What is found under a key is what was put there, and under other keys what was there before. -/
theorem get?_place (i : Option Nat) (key : String) (a : α) (m : Mapping α) (other : String) :
    get? (place i key a m) other = if other = key then some a else get? m other := by
  induction m with
  | nil =>
      exact get?_cons key a [] other
  | cons e m ih =>
      rcases e with ⟨k, b⟩
      rw [place]
      split
      · -- The old entry of the key is no longer there.
        rename_i hk
        subst hk
        rw [get?_cons, get?_cons]
        split <;> rfl
      split
      · exact get?_cons key a _ other
      · rename_i hk _
        rw [get?_cons, get?_cons, ih]
        by_cases hother : other = k
        · have hne : other ≠ key := by
            intro heq
            exact hk (hother.symm.trans heq)
          rw [if_pos hother, if_pos hother, if_neg hne]
        · rw [if_neg hother, if_neg hother]

/-- Setting a key changes what is found under it, and nothing else. -/
theorem get?_set (m : Mapping α) (key : String) (a : α) (other : String) :
    get? (set m key a) other = if other = key then some a else get? m other :=
  get?_place (index? key) key a m other

/-- After many settings the last one of a key is found, else what was there before. -/
theorem get?_foldl (es : List (String × α)) (m : Mapping α) (key : String) :
    get? (es.foldl (fun m e => set m e.1 e.2) m) key = (es.reverse.lookup key).or (get? m key) := by
  induction es generalizing m with
  | nil =>
      rfl
  | cons e es ih =>
      rcases e with ⟨k, a⟩
      have hfirst : (List.lookup key [(k, a)]).or (get? m key) = get? (set m k a) key := by
        change (get? [(k, a)] key).or (get? m key) = _
        rw [get?_set, get?_cons]
        split <;> rfl
      rw [List.foldl_cons, ih, List.reverse_cons, List.lookup_append, Option.or_assoc, hfirst]

/-- The last entry of a key is found. -/
theorem get?_ofEntries (es : List (String × α)) (key : String) :
    get? (ofEntries es) key = es.reverse.lookup key := by
  rw [ofEntries, get?_foldl]
  exact Option.or_none

/-- An entry with no other of its key behind it is found. -/
theorem get?_last {before after : List (String × α)} {key : String} (a : α)
    (h : ∀ e ∈ after, e.1 ≠ key) : get? (ofEntries (before ++ (key, a) :: after)) key = some a := by
  rw [get?_ofEntries, List.lookup_eq_some_iff]
  refine ⟨after.reverse, before.reverse, by simp, ?_⟩
  intro e he
  exact bne_iff_ne.mpr (Ne.symm (h e (List.mem_reverse.mp he)))

/-- The keys of a mapping are those of its entries. -/
theorem mem_keys {es : List (String × α)} {key : String} :
    key ∈ keys (ofEntries es) ↔ key ∈ es.map Prod.fst := by
  have hfound : get? (ofEntries es) key = none ↔ get? es.reverse key = none := by
    rw [get?_ofEntries]
    rfl
  have hkeys {m : Mapping α} : get? m key = none ↔ key ∉ m.map Prod.fst :=
    ⟨not_mem_of_get?_eq_none, get?_eq_none⟩
  rw [hkeys, hkeys, List.map_reverse, List.mem_reverse, not_iff_not] at hfound
  exact hfound

theorem nodup_keys {m : Mapping α} (h : Ordered m) : (keys m).Nodup := by
  have hpairs := ordered_iff_keys.mp h
  exact hpairs.imp And.left

end Mapping
end LineRpc
