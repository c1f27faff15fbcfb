import Mathlib.Data.List.Sort
import LineRpc.Proofs.Mapping.Index
import LineRpc.Proofs.Mapping.Lookup

/-!
# Order — where the keys of a mapping stand, and which entries are left

A mapping is in property order: index keys by ascending numbers, then all other keys. Entries that
are set one after the other leave each of their keys once, with its last value, and keys other than
index keys in the order in which they first came. No other mapping is like this.

* `Parted`              : index keys and other keys in property order
* `ordered_iff_inOrder` : to be ordered is to have such keys
* `MetBefore`           : which of two keys comes first among keys
* `pairwise_others_set` : setting one more key keeps the order of the other keys
* `pairwise_others`     : so they stand as they first came
* `Collects`            : what entries leave behind
* `collects_ofEntries`  : setting entries leaves just this
* `Collects.unique`     : and nothing else is like it
-/

namespace LineRpc
namespace Mapping

variable {α : Type}

/-! ## Property order -/

/-- Keys in property order: those of ascending numbers, then keys that are no index keys, none of
them twice. -/
structure Parted (ks : List String) (indices : List Nat) (others : List String) : Prop where
  parts : ks = indices.map toString ++ others
  ascending : indices.Pairwise (· < ·)
  bounded : ∀ n ∈ indices, n ≤ maxIndex
  distinct : others.Nodup
  plain : ∀ key ∈ others, ¬ IsIndex key

/-- Keys that stand in property order. -/
def InOrder (ks : List String) : Prop :=
  ∃ indices others, Parted ks indices others

/-- The numbers of the index keys among keys. -/
def indices (ks : List String) : List Nat :=
  ks.filterMap index?

/-- The keys that are no index keys. -/
def others (ks : List String) : List String :=
  ks.filter fun key => (index? key).isNone

theorem mem_others {ks : List String} {key : String} :
    key ∈ others ks ↔ key ∈ ks ∧ index? key = none := by
  rw [others, List.mem_filter, Option.isNone_iff_eq_none]

theorem others_append (ks ks' : List String) : others (ks ++ ks') = others ks ++ others ks' :=
  List.filter_append ks ks'

/-- A key that is no index key goes before nothing. -/
theorem precedes_of_none {new : String} (old : String) (h : index? new = none) :
    precedes new old = false := by
  rw [precedes, h]
  rfl

/-- An index key goes before every other key. -/
theorem precedes_of_some {new old : String} {i : Nat} (h : index? new = some i)
    (hold : index? old = none) : precedes new old = true := by
  rw [precedes, h, goesBefore, hold]

/-- Among index keys the order is that of the numbers. -/
theorem precedes_eq_false_iff {new old : String} {i j : Nat} (h : index? new = some i)
    (hold : index? old = some j) : precedes new old = false ↔ j ≤ i := by
  rw [precedes, h, goesBefore, hold, decide_eq_false_iff_not, Nat.not_lt]

/-- Keys that are ordered pair by pair fall into index keys and others. -/
theorem parts_of_pairwise {ks : List String}
    (h : ks.Pairwise fun a b => a ≠ b ∧ precedes b a = false) :
    ks = (indices ks).map toString ++ others ks := by
  induction ks with
  | nil =>
      rfl
  | cons key ks ih =>
      obtain ⟨hfirst, hrest⟩ := List.pairwise_cons.mp h
      cases hkey : index? key with
      | some n =>
          have htext : toString n = key := (index?_eq_some_iff.mp hkey).2
          rw [indices, others, List.filterMap_cons_some hkey,
            List.filter_cons_of_neg (by simp [hkey]), List.map_cons, htext, List.cons_append]
          exact congrArg (key :: ·) (ih hrest)
      | none =>
          -- An index key after this one would go before it, so there is none.
          have hnone : ∀ later ∈ key :: ks, index? later = none := by
            intro later hlater
            rcases List.mem_cons.mp hlater with rfl | hlater
            · exact hkey
            · apply Option.eq_none_iff_forall_ne_some.mpr
              intro i hi
              cases (precedes_of_some hi hkey).symm.trans (hfirst later hlater).2
          have hindices : indices (key :: ks) = [] := List.filterMap_eq_nil_iff.mpr hnone
          have hothers : others (key :: ks) = key :: ks :=
            List.filter_eq_self.mpr fun later hlater => by rw [hnone later hlater]; rfl
          rw [hindices, hothers, List.map_nil, List.nil_append]

/-- The two kinds of keys of an ordered mapping. -/
theorem parted_of_ordered {m : Mapping α} (h : Ordered m) :
    Parted (keys m) (indices (keys m)) (others (keys m)) where
  parts := parts_of_pairwise (ordered_iff_keys.mp h)
  ascending := by
    refine List.pairwise_filterMap.mpr ((ordered_iff_keys.mp h).imp ?_)
    rintro a b ⟨hne, hlater⟩ i hi j hj
    have hle : i ≤ j := (precedes_eq_false_iff hj hi).mp hlater
    refine Nat.lt_of_le_of_ne hle ?_
    -- One number has one text only.
    rintro rfl
    exact hne ((index?_eq_some_iff.mp hi).2.symm.trans (index?_eq_some_iff.mp hj).2)
  bounded := by
    intro n hn
    obtain ⟨key, -, hkey⟩ := List.mem_filterMap.mp hn
    exact (index?_eq_some_iff.mp hkey).1
  distinct := (nodup_keys h).filter _
  plain := fun key hkey => index?_eq_none_iff.mp (mem_others.mp hkey).2

namespace Parted

variable {ks others' : List String} {indices' : List Nat}

/-- Keys in two parts are in the order of objects. -/
theorem pairwise (h : Parted ks indices' others') :
    ks.Pairwise fun a b => a ≠ b ∧ precedes b a = false := by
  have hnone : ∀ key ∈ others', index? key = none :=
    fun key hkey => index?_eq_none_iff.mpr (h.plain key hkey)
  rw [h.parts, List.pairwise_append, List.pairwise_map]
  refine ⟨h.ascending.imp_of_mem ?_, h.distinct.imp_of_mem ?_, ?_⟩
  · -- Among the index keys the numbers grow.
    intro i j hi hj hlt
    have hni := index?_toString (h.bounded i hi)
    have hnj := index?_toString (h.bounded j hj)
    refine ⟨?_, (precedes_eq_false_iff hnj hni).mpr hlt.le⟩
    intro heq
    rw [heq, hnj] at hni
    exact hlt.ne (Option.some.inj hni).symm
  · intro a b _ hb hne
    exact ⟨hne, precedes_of_none a (hnone b hb)⟩
  · -- An index key comes before any other.
    intro a ha b hb
    refine ⟨?_, precedes_of_none a (hnone b hb)⟩
    rintro rfl
    obtain ⟨n, hn, htext⟩ := List.mem_map.mp ha
    exact h.plain a hb ⟨n, h.bounded n hn, htext⟩

theorem indices_eq (h : Parted ks indices' others') : indices' = indices ks := by
  have hnone : others'.filterMap index? = [] :=
    List.filterMap_eq_nil_iff.mpr fun key hkey => index?_eq_none_iff.mpr (h.plain key hkey)
  have hsome : (indices'.map toString).filterMap index? = indices'.filterMap some := by
    rw [List.filterMap_map]
    exact List.filterMap_congr fun n hn => index?_toString (h.bounded n hn)
  rw [h.parts, indices, List.filterMap_append, hnone, hsome, List.filterMap_some, List.append_nil]

theorem others_eq (h : Parted ks indices' others') : others' = others ks := by
  have hindices : others (indices'.map toString) = [] := by
    apply List.filter_eq_nil_iff.mpr
    intro key hkey
    obtain ⟨n, hn, rfl⟩ := List.mem_map.mp hkey
    rw [index?_toString (h.bounded n hn)]
    exact Bool.false_ne_true
  have hothers : others others' = others' := by
    apply List.filter_eq_self.mpr
    intro key hkey
    rw [index?_eq_none_iff.mpr (h.plain key hkey)]
    rfl
  rw [h.parts, others_append, hindices, hothers, List.nil_append]

end Parted

/-- To be ordered is to have the keys in property order. -/
theorem ordered_iff_inOrder {m : Mapping α} : Ordered m ↔ InOrder (keys m) := by
  constructor
  · intro h
    exact ⟨_, _, parted_of_ordered h⟩
  · rintro ⟨indices, others, h⟩
    exact ordered_iff_keys.mpr h.pairwise

/-! ## Order of the other keys -/

/-- Setting an index key leaves the other keys as they are. -/
theorem others_place_some {i : Nat} {key : String} (hkey : index? key = some i) (a : α)
    (m : Mapping α) : others (keys (place (some i) key a m)) = others (keys m) := by
  -- An index is filtered out wherever it stands.
  have hskip (ks : List String) : others (key :: ks) = others ks :=
    List.filter_cons_of_neg (by simp [hkey])
  induction m with
  | nil =>
      exact hskip []
  | cons e m ih =>
      obtain ⟨k, b⟩ := e
      rw [place]
      split
      · rename_i hk
        subst hk
        rfl
      split
      · exact hskip (k :: keys m)
      · change others ([k] ++ keys (place (some i) key a m)) = others ([k] ++ keys m)
        rw [others_append, ih, ← others_append]

/-- Setting any other key leaves the keys as they are, or brings it in behind them. -/
theorem keys_place_none (key : String) (a : α) (m : Mapping α) :
    keys (place none key a m) = if key ∈ keys m then keys m else keys m ++ [key] := by
  induction m with
  | nil =>
      rfl
  | cons e m ih =>
      obtain ⟨k, b⟩ := e
      have hcons (m : Mapping α) : keys ((k, b) :: m) = k :: keys m := rfl
      -- A key that is no index goes before nothing.
      rw [place, goesBefore, if_neg Bool.false_ne_true]
      split
      · rename_i hk
        subst hk
        rw [hcons, if_pos List.mem_cons_self]
        rfl
      · rename_i hk
        rw [hcons, ih, hcons]
        by_cases hmem : key ∈ keys m
        · rw [if_pos hmem, if_pos (List.mem_cons_of_mem k hmem)]
        · have hnew : key ∉ k :: keys m := by
            rw [List.mem_cons, not_or]
            exact ⟨Ne.symm hk, hmem⟩
          rw [if_neg hmem, if_neg hnew, List.cons_append]

/-- Among keys that come one after the other, the one is met before the other. -/
def MetBefore (ks : List String) (a b : String) : Prop :=
  ks.idxOf a < ks.idxOf b

/-- What comes later does not move the keys that were met. -/
theorem MetBefore.append {ks : List String} {a b : String} (h : MetBefore ks a b) (ha : a ∈ ks)
    (hb : b ∈ ks) (later : List String) : MetBefore (ks ++ later) a b := by
  rw [MetBefore, List.idxOf_append_of_mem ha, List.idxOf_append_of_mem hb]
  exact h

/-- A new key comes behind all that were met. -/
theorem metBefore_concat {ks : List String} {a b : String} (ha : a ∈ ks) (hb : b ∉ ks) :
    MetBefore (ks ++ [b]) a b := by
  rw [MetBefore, List.idxOf_append_of_mem ha, List.idxOf_append_of_notMem hb]
  exact Nat.lt_add_right _ (List.idxOf_lt_length_of_mem ha)

/-- Setting one more key keeps the other keys in the order in which they were met. -/
theorem pairwise_others_set {ks : List String} {m : Mapping α} (hmem : ∀ k, k ∈ keys m ↔ k ∈ ks)
    (h : (others (keys m)).Pairwise (MetBefore ks)) (key : String) (a : α) :
    (others (keys (set m key a))).Pairwise (MetBefore (ks ++ [key])) := by
  have hmet : ∀ k ∈ others (keys m), k ∈ ks := fun k hk => (hmem k).mp (mem_others.mp hk).1
  have hold : (others (keys m)).Pairwise (MetBefore (ks ++ [key])) :=
    h.imp_of_mem fun hk hk' hbefore => hbefore.append (hmet _ hk) (hmet _ hk') [key]
  rw [set]
  cases hkey : index? key with
  | some i =>
      rw [others_place_some hkey]
      exact hold
  | none =>
      rw [keys_place_none]
      split
      · exact hold
      · rename_i hnew
        -- A new key was not met before, so it stands behind all that were.
        rw [others_append]
        refine List.pairwise_append.mpr ⟨hold, (List.pairwise_singleton _ key).filter _, ?_⟩
        intro k hk k' hk'
        rw [List.mem_singleton.mp (mem_others.mp hk').1]
        exact metBefore_concat (hmet k hk) fun hmem' => hnew ((hmem key).mpr hmem')

/-- Other keys stand in the order in which they first came. -/
theorem pairwise_others (es : List (String × α)) :
    (others (keys (ofEntries es))).Pairwise (MetBefore (keys es)) := by
  -- The entry that is set last is the last of the list, so the induction is on lists from behind.
  induction es using List.reverseRecOn with
  | nil =>
      exact List.Pairwise.nil
  | append_singleton es e ih =>
      have hkeys : keys (es ++ [e]) = keys es ++ [e.1] := List.map_append
      have hset : ofEntries (es ++ [e]) = set (ofEntries es) e.1 e.2 := List.foldl_append
      rw [hkeys, hset]
      exact pairwise_others_set (fun _ => mem_keys) ih e.1 e.2

/-! ## What entries leave behind -/

/-- What entries leave behind when they are set one after the other: each of their keys once, with
the last value under it; index keys by ascending numbers, then the others as they first came. -/
structure Collects (es : List (String × α)) (m : Mapping α) : Prop where
  once : (keys m).Nodup
  mem_iff : ∀ key, key ∈ keys m ↔ key ∈ keys es
  last : ∀ e ∈ m, ∃ before after, es = before ++ e :: after ∧ e.1 ∉ keys after
  order : ∃ indices others, Parted (keys m) indices others ∧ others.Pairwise (MetBefore (keys es))

/-- The value that is found is that of the last entry of its key. -/
theorem get?_ofEntries_eq_some_iff {es : List (String × α)} {key : String} {a : α} :
    get? (ofEntries es) key = some a ↔
      ∃ before after, es = before ++ (key, a) :: after ∧ key ∉ keys after := by
  constructor
  · intro h
    rw [get?_ofEntries, List.lookup_eq_some_iff] at h
    obtain ⟨front, back, hsplit, hfront⟩ := h
    refine ⟨back.reverse, front.reverse, ?_, ?_⟩
    · rw [List.reverse_eq_iff.mp hsplit, List.reverse_append, List.reverse_cons, List.append_assoc,
        List.singleton_append]
    · intro hmem
      obtain ⟨e, he, hkey⟩ := List.mem_map.mp hmem
      exact bne_iff_ne.mp (hfront e (List.mem_reverse.mp he)) hkey.symm
  · rintro ⟨before, after, rfl, hlast⟩
    exact get?_last a fun e he hkey => hlast (List.mem_map.mpr ⟨e, he, hkey⟩)

/-- Setting entries one by one collects them. -/
theorem collects_ofEntries (es : List (String × α)) : Collects es (ofEntries es) where
  once := nodup_keys (ordered_ofEntries es)
  mem_iff := fun _ => mem_keys
  last := by
    rintro ⟨key, a⟩ he
    exact get?_ofEntries_eq_some_iff.mp (get?_of_mem (nodup_keys (ordered_ofEntries es)) he)
  order := ⟨_, _, parted_of_ordered (ordered_ofEntries es), pairwise_others es⟩

/-- Mappings with the same keys and the same value under each key are the same. -/
theorem eq_of_keys {m m' : Mapping α} {value : String → Option α} (hkeys : keys m = keys m')
    (h : ∀ e ∈ m, value e.1 = some e.2) (h' : ∀ e ∈ m', value e.1 = some e.2) : m = m' := by
  have hread {m : Mapping α} (h : ∀ e ∈ m, value e.1 = some e.2) :
      m.map (fun e => (e.1, some e.2)) = (keys m).map fun key => (key, value key) := by
    rw [keys, List.map_map]
    exact List.map_congr_left fun e he => Prod.ext rfl (h e he).symm
  have hinjective : Function.Injective fun e : String × α => (e.1, some e.2) := by
    rintro ⟨k, a⟩ ⟨k', a'⟩ heq
    cases heq
    rfl
  apply List.map_injective_iff.mpr hinjective
  rw [hread h, hread h', hkeys]

namespace Collects

variable {es : List (String × α)} {m m' : Mapping α}

/-- Both kinds of keys stand in an order that the entries fix. -/
theorem keys_eq (h : Collects es m) (h' : Collects es m') : keys m = keys m' := by
  obtain ⟨indices₁, others₁, hparted, hfirst⟩ := h.order
  obtain ⟨indices₂, others₂, hparted', hfirst'⟩ := h'.order
  have hperm : (keys m).Perm (keys m') :=
    (List.perm_ext_iff_of_nodup h.once h'.once).mpr fun key =>
      (h.mem_iff key).trans (h'.mem_iff key).symm
  -- Both parts are sorted lists of the same keys, so there is one of each only.
  have hindices : indices₁ = indices₂ := by
    refine List.Perm.eq_of_pairwise ?_ hparted.ascending hparted'.ascending ?_
    · intro i j _ _ hij hji
      exact absurd hij hji.asymm
    · rw [hparted.indices_eq, hparted'.indices_eq]
      exact hperm.filterMap index?
  have hothers : others₁ = others₂ := by
    refine List.Perm.eq_of_pairwise ?_ hfirst hfirst' ?_
    · intro a b _ _ hab hba
      exact absurd hab (Nat.lt_asymm hba)
    · rw [hparted.others_eq, hparted'.others_eq]
      exact hperm.filter _
  rw [hparted.parts, hparted'.parts, hindices, hothers]

/-- Entries leave one mapping behind. -/
theorem unique (h : Collects es m) (h' : Collects es m') : m = m' := by
  have hvalue {m : Mapping α} (h : Collects es m) : ∀ e ∈ m, get? (ofEntries es) e.1 = some e.2 :=
    fun e he => get?_ofEntries_eq_some_iff.mpr (h.last e he)
  exact eq_of_keys (h.keys_eq h') (hvalue h) (hvalue h')

end Collects

end Mapping
end LineRpc
