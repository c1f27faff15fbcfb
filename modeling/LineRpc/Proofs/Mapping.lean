import Mathlib.Data.List.Forall2
import LineRpc.Mapping

/-!
# Mapping — what setting keys one after the other gives

Setting a key keeps property order. A list that is in property order already is the mapping that its
entries make, and a function of the values passes through.

* `ordered_ofEntries`     : every mapping is in property order
* `Keyed`                : the same keys, and a relation between the values
* `ofEntries_of_ordered`  : entries in property order make themselves
* `ofEntries_mapValues`   : a function of the values passes through
-/

namespace LineRpc
namespace Mapping

variable {α β : Type}

/-! ## Order of keys -/

/-- A key that goes before `old` goes before whatever stands after it. -/
theorem precedes_trans {key old later : String} (h : precedes key old = true)
    (hl : precedes later old = false) : precedes key later = true := by
  simp only [precedes, goesBefore] at *
  -- Only index keys go before anything, and they go by their numbers.
  cases hk : index? key <;> cases ho : index? old <;> cases hn : index? later <;>
    simp only [hk, ho, hn, decide_eq_true_eq, decide_eq_false_iff_not, Bool.false_eq_true,
      Bool.true_eq_false] at *
  omega

theorem precedes_asymm {a b : String} (h : precedes a b = true) : precedes b a = false := by
  simp only [precedes, goesBefore] at *
  cases ha : index? a <;> cases hb : index? b <;>
    simp only [ha, hb, decide_eq_true_eq, decide_eq_false_iff_not, Bool.false_eq_true] at *
  omega

theorem precedes_self (a : String) : precedes a a = false := by
  by_contra h
  rw [Bool.not_eq_false] at h
  have := precedes_asymm h
  rw [h] at this
  cases this

/-! ## Placing a key -/

/-- Placing an entry adds that entry alone. -/
theorem mem_place {i : Option Nat} {key : String} {a : α} {m : Mapping α} {e : String × α}
    (h : e ∈ place i key a m) : e = (key, a) ∨ e ∈ m := by
  -- The key is put in the place of its entry, in front of one, or at the end.
  induction m with
  | nil =>
      exact Or.inl (List.mem_singleton.mp h)
  | cons e' m ih =>
      rw [place] at h
      split at h
      · rcases List.mem_cons.mp h with h | h
        · exact Or.inl h
        · exact Or.inr (List.mem_cons_of_mem _ h)
      split at h
      · exact List.mem_cons.mp h
      · rcases List.mem_cons.mp h with h | h
        · exact Or.inr (List.mem_cons.mpr (Or.inl h))
        · rcases ih h with h | h
          · exact Or.inl h
          · exact Or.inr (List.mem_cons_of_mem _ h)

/-- A key that was set is there with its new value. -/
theorem mem_place_self (i : Option Nat) (key : String) (a : α) (m : Mapping α) :
    (key, a) ∈ place i key a m := by
  induction m with
  | nil =>
      exact List.mem_singleton_self _
  | cons e m ih =>
      rw [place]
      split
      · exact List.mem_cons_self
      · split
        · exact List.mem_cons_self
        · exact List.mem_cons_of_mem _ ih

/-- Setting a key keeps the order. -/
theorem ordered_set {m : Mapping α} (h : Ordered m) (key : String) (a : α) :
    Ordered (set m key a) := by
  unfold set
  induction m with
  | nil =>
      exact List.pairwise_singleton _ _
  | cons e m ih =>
      rcases e with ⟨k, b⟩
      rcases List.pairwise_cons.mp h with ⟨hfirst, hrest⟩
      rw [place]
      split
      · -- The key was there: it keeps its place, and no key changes.
        rename_i hk
        subst hk
        exact List.pairwise_cons.mpr ⟨hfirst, hrest⟩
      split
      · -- The key goes in front of the first one it goes before.
        rename_i hne hbefore
        have hb : precedes key k = true := hbefore
        refine List.pairwise_cons.mpr ⟨?_, h⟩
        intro e he
        rcases List.mem_cons.mp he with rfl | he
        · exact ⟨Ne.symm hne, precedes_asymm hb⟩
        · -- What stands after `k` is after `key` too, and it is another key.
          have hlater : precedes key e.1 = true := precedes_trans hb (hfirst e he).2
          refine ⟨?_, precedes_asymm hlater⟩
          intro heq
          have hself := precedes_self key
          rw [← heq] at hlater
          rw [hlater] at hself
          cases hself
      · -- The key goes further back, and whatever stands there still comes after the first one.
        rename_i hne hbefore
        have hb : precedes key k = false := Bool.not_eq_true _ ▸ hbefore
        refine List.pairwise_cons.mpr ⟨?_, ih hrest⟩
        intro e he
        rcases mem_place he with rfl | he
        · exact ⟨hne, hb⟩
        · exact hfirst e he

/-- A key that is new and goes before nothing is set at the end. -/
theorem set_eq_append {m : Mapping α} {key : String} {a : α}
    (h : ∀ e ∈ m, e.1 ≠ key ∧ precedes key e.1 = false) : set m key a = m ++ [(key, a)] := by
  unfold set
  induction m with
  | nil =>
      rfl
  | cons e m ih =>
      rcases e with ⟨k, b⟩
      have hk : k ≠ key ∧ goesBefore (index? key) k = false := h (k, b) (by simp)
      rw [place, if_neg hk.1, if_neg (by simp [hk.2]), List.cons_append,
        ih fun e he => h e (List.mem_cons_of_mem _ he)]

/-! ## Setting all keys of a list -/

theorem ordered_foldl {m : Mapping α} (h : Ordered m) (es : List (String × α)) :
    Ordered (es.foldl (fun m e => set m e.1 e.2) m) := by
  induction es generalizing m with
  | nil =>
      exact h
  | cons e es ih =>
      exact ih (ordered_set h e.1 e.2)

/-- Every mapping is in property order. -/
theorem ordered_ofEntries (es : List (String × α)) : Ordered (ofEntries es) :=
  ordered_foldl List.Pairwise.nil es

/-- Entries in order are set without moving any. -/
theorem foldl_of_ordered {m es : List (String × α)} (h : Ordered (m ++ es)) :
    es.foldl (fun m e => set m e.1 e.2) m = m ++ es := by
  induction es generalizing m with
  | nil =>
      exact (List.append_nil m).symm
  | cons e es ih =>
      -- The next entry goes behind all that are there, so it is appended.
      have hsplit : m ++ e :: es = (m ++ [e]) ++ es := by simp
      have hset : set m e.1 e.2 = m ++ [e] := by
        refine set_eq_append ?_
        intro e' he'
        exact (List.pairwise_append.mp h).2.2 e' he' e (by simp)
      rw [List.foldl_cons, hset, hsplit]
      rw [hsplit] at h
      exact ih h

/-- Entries in property order make themselves. -/
theorem ofEntries_of_ordered {m : List (String × α)} (h : Ordered m) : ofEntries m = m :=
  foldl_of_ordered (m := []) h

/-- Setting many keys makes up no entry. -/
theorem mem_foldl {m es : List (String × α)} {e : String × α}
    (h : e ∈ es.foldl (fun m e => set m e.1 e.2) m) : e ∈ m ∨ e ∈ es := by
  -- Each entry either replaces one, or is put in, or leaves the others as they are.
  induction es generalizing m with
  | nil =>
      exact Or.inl h
  | cons e' es ih =>
      rcases ih h with h | h
      · rcases mem_place h with rfl | h
        · exact Or.inr (by simp)
        · exact Or.inl h
      · exact Or.inr (List.mem_cons_of_mem _ h)

/-- A mapping holds no entry that was not set. -/
theorem mem_ofEntries {es : List (String × α)} {e : String × α} (h : e ∈ ofEntries es) : e ∈ es := by
  rcases mem_foldl h with h | h
  · cases h
  · exact h

/-! ## Functions of the values -/

/-- Entries with a function applied to their values. -/
def mapValues (f : α → β) (es : List (String × α)) : List (String × β) :=
  es.map fun e => (e.1, f e.2)

@[simp]
theorem mapValues_nil (f : α → β) : mapValues f [] = [] :=
  rfl

@[simp]
theorem mapValues_cons (f : α → β) (k : String) (a : α) (es : List (String × α)) :
    mapValues f ((k, a) :: es) = (k, f a) :: mapValues f es :=
  rfl

theorem keys_mapValues (f : α → β) (es : List (String × α)) :
    (mapValues f es).map Prod.fst = es.map Prod.fst := by
  rw [mapValues, List.map_map]
  rfl

theorem mem_mapValues {f : α → β} {es : List (String × α)} {e : String × β} :
    e ∈ mapValues f es ↔ ∃ e' ∈ es, (e'.1, f e'.2) = e :=
  List.mem_map

/-- A function that keeps every value keeps the entries. -/
theorem mapValues_fixed {f : α → α} {es : List (String × α)} (h : ∀ e ∈ es, f e.2 = e.2) :
    mapValues f es = es := by
  conv_rhs => rw [← List.map_id es]
  refine List.map_congr_left ?_
  intro e he
  exact Prod.ext rfl (h e he)

/-- Two changes of the values are one. -/
theorem mapValues_mapValues {γ : Type} (f : α → β) (g : β → γ) (es : List (String × α)) :
    mapValues g (mapValues f es) = mapValues (fun a => g (f a)) es := by
  rw [mapValues, mapValues, List.map_map]
  rfl

/-- The place of an entry does not depend on its value. -/
theorem place_mapValues (f : α → β) (i : Option Nat) (key : String) (a : α) (m : Mapping α) :
    place i key (f a) (mapValues f m) = mapValues f (place i key a m) := by
  induction m with
  | nil =>
      rfl
  | cons e m ih =>
      rcases e with ⟨k, b⟩
      rw [mapValues_cons, place, place]
      split
      · rfl
      split
      · rfl
      · rw [ih, mapValues_cons]

theorem foldl_mapValues (f : α → β) (m : Mapping α) (es : List (String × α)) :
    (mapValues f es).foldl (fun m e => set m e.1 e.2) (mapValues f m) =
      mapValues f (es.foldl (fun m e => set m e.1 e.2) m) := by
  induction es generalizing m with
  | nil =>
      rfl
  | cons e es ih =>
      rw [mapValues_cons, List.foldl_cons, List.foldl_cons]
      simp only [set, place_mapValues]
      exact ih _

/-- A function of the values passes through the setting of keys. -/
theorem ofEntries_mapValues (f : α → β) (es : List (String × α)) :
    ofEntries (mapValues f es) = mapValues f (ofEntries es) :=
  foldl_mapValues f [] es

/-! ## Related values -/

section Related

variable {r : α → β → Prop}

/-- Mappings with the same keys in the same order, and values that are related place by place. -/
def Keyed (r : α → β → Prop) (m : Mapping α) (m' : Mapping β) : Prop :=
  keys m' = keys m ∧ List.Forall₂ r (m.map Prod.snd) (m'.map Prod.snd)

theorem keyed_iff_forall₂ {m : Mapping α} {m' : Mapping β} :
    Keyed r m m' ↔ List.Forall₂ (fun e e' => e.1 = e'.1 ∧ r e.2 e'.2) m m' := by
  induction m generalizing m' with
  | nil =>
      rw [List.forall₂_nil_left_iff]
      constructor
      · rintro ⟨hkeys, -⟩
        exact List.map_eq_nil_iff.mp hkeys
      · rintro rfl
        exact ⟨rfl, .nil⟩
  | cons e m ih =>
      cases m' with
      | nil =>
          -- The keys of the first entries and of the rest are compared apart.
          constructor
          · rintro ⟨hkeys, -⟩
            cases hkeys
          · rintro ⟨⟩
      | cons e' m' =>
          rw [List.forall₂_cons, ← ih]
          constructor
          · rintro ⟨hkeys, hvalues⟩
            obtain ⟨hkey, hrest⟩ := List.cons.inj hkeys
            obtain ⟨hvalue, hvalues⟩ := List.forall₂_cons.mp hvalues
            exact ⟨⟨hkey.symm, hvalue⟩, hrest, hvalues⟩
          · rintro ⟨⟨hkey, hvalue⟩, hrest, hvalues⟩
            exact ⟨congrArg₂ List.cons hkey.symm hrest, .cons hvalue hvalues⟩

/-- Mappings with related values are the two sides of a list of pairs. -/
theorem Keyed.exists_pairs {m : Mapping α} {m' : Mapping β} (h : Keyed r m m') :
    ∃ ps : List (String × (α × β)), m = mapValues Prod.fst ps ∧ m' = mapValues Prod.snd ps ∧
      ∀ p ∈ ps, r p.2.1 p.2.2 := by
  induction keyed_iff_forall₂.mp h with
  | nil =>
      exact ⟨[], rfl, rfl, fun p hp => absurd hp List.not_mem_nil⟩
  | @cons e e' m m' hfirst hrest ih =>
      obtain ⟨ps, rfl, rfl, hall⟩ := ih (keyed_iff_forall₂.mpr hrest)
      obtain ⟨k, a⟩ := e
      obtain ⟨k', b⟩ := e'
      obtain ⟨rfl, hab⟩ := hfirst
      exact ⟨(k, a, b) :: ps, rfl, rfl, List.forall_mem_cons.mpr ⟨hab, hall⟩⟩

/-- Entries with related values leave the same keys and related values behind. -/
theorem Keyed.ofEntries {es : List (String × α)} {fs : List (String × β)} (h : Keyed r es fs) :
    Keyed r (ofEntries es) (ofEntries fs) := by
  obtain ⟨ps, rfl, rfl, hall⟩ := h.exists_pairs
  rw [ofEntries_mapValues, ofEntries_mapValues, keyed_iff_forall₂, mapValues, mapValues,
    List.forall₂_map_left_iff, List.forall₂_map_right_iff, List.forall₂_same]
  exact fun p hp => ⟨rfl, hall p (mem_ofEntries hp)⟩

/-- Every value has its partner under the same key. -/
theorem Keyed.exists_of_mem {m : Mapping α} {m' : Mapping β} (h : Keyed r m m') {e : String × α}
    (he : e ∈ m) : ∃ b, (e.1, b) ∈ m' ∧ r e.2 b := by
  obtain ⟨ps, rfl, rfl, hall⟩ := h.exists_pairs
  obtain ⟨p, hp, rfl⟩ := mem_mapValues.mp he
  exact ⟨p.2.2, mem_mapValues.mpr ⟨p, hp, rfl⟩, hall p hp⟩

theorem Keyed.imp {s : α → β → Prop} {m : Mapping α} {m' : Mapping β} (h : Keyed r m m')
    (hrs : ∀ a b, r a b → s a b) : Keyed s m m' :=
  ⟨h.1, h.2.imp hrs⟩

theorem Keyed.imp_of_mem {s : α → β → Prop} {m : Mapping α} {m' : Mapping β} (h : Keyed r m m')
    (hrs : ∀ e ∈ m, ∀ b, r e.2 b → s e.2 b) : Keyed s m m' := by
  have hvalues : ∀ a ∈ m.map Prod.snd, ∀ b, r a b → s a b := List.forall_mem_map.mpr hrs
  refine ⟨h.1, ((List.forall₂_and_left _ _).mpr ⟨hvalues, h.2⟩).imp ?_⟩
  rintro a b ⟨ha, hab⟩
  exact ha b hab

/-- The two sides may be exchanged. -/
theorem Keyed.flip {m : Mapping α} {m' : Mapping β} (h : Keyed r m m') :
    Keyed (fun b a => r a b) m' m :=
  ⟨h.1.symm, h.2.flip⟩

/-- What every value has one of makes a mapping with the same keys. -/
theorem exists_keyed (r : α → β → Prop) {m : Mapping α} (h : ∀ e ∈ m, ∃ b, r e.2 b) :
    ∃ m' : Mapping β, Keyed r m m' := by
  induction m with
  | nil =>
      exact ⟨[], rfl, .nil⟩
  | cons e m ih =>
      obtain ⟨⟨b, hb⟩, hrest⟩ := List.forall_mem_cons.mp h
      obtain ⟨m', hkeys, hvalues⟩ := ih hrest
      exact ⟨(e.1, b) :: m', congrArg (e.1 :: ·) hkeys, .cons hb hvalues⟩

theorem keyed_map_left {γ : Type} {f : γ → α} {m : Mapping γ} {m' : Mapping β} :
    Keyed r (mapValues f m) m' ↔ Keyed (fun c b => r (f c) b) m m' := by
  rw [keyed_iff_forall₂, keyed_iff_forall₂, mapValues, List.forall₂_map_left_iff]

end Related

/-- Property order is a matter of the keys alone. -/
theorem ordered_iff_keys {m : Mapping α} :
    Ordered m ↔ (m.map Prod.fst).Pairwise fun a b => a ≠ b ∧ precedes b a = false := by
  rw [Ordered, List.pairwise_map]

/-- Entries whose keys are known to be in property order. -/
theorem ordered_of_keys {m : Mapping α} (ks : List String)
    (h : ks.Pairwise fun a b => a ≠ b ∧ precedes b a = false) (hk : m.map Prod.fst = ks) :
    Ordered m := by
  rw [ordered_iff_keys, hk]
  exact h

/-- Keys that are in order stay in order when the values change. -/
theorem Keyed.ordered {r : α → β → Prop} {m : Mapping α} {m' : Mapping β} (h : Keyed r m m')
    (ho : Ordered m) : Ordered m' := by
  rw [ordered_iff_keys] at ho ⊢
  change (keys m').Pairwise _
  rw [h.1]
  exact ho

theorem ordered_mapValues {f : α → β} {m : Mapping α} (h : Ordered m) :
    Ordered (mapValues f m) := by
  rw [ordered_iff_keys, keys_mapValues]
  exact ordered_iff_keys.mp h

/-! ## Looking up -/

theorem get?_eq_none {m : Mapping α} {key : String} (h : key ∉ m.map Prod.fst) :
    get? m key = none := by
  induction m with
  | nil =>
      rfl
  | cons e m ih =>
      rcases e with ⟨k, b⟩
      rw [List.map_cons, List.mem_cons, not_or] at h
      have hk : (key == k) = false := beq_eq_false_iff_ne.mpr h.1
      rw [get?, List.lookup_cons, hk]
      exact ih h.2

theorem not_mem_of_get?_eq_none {m : Mapping α} {key : String} (h : get? m key = none) :
    key ∉ m.map Prod.fst := by
  induction m with
  | nil =>
      exact List.not_mem_nil
  | cons e m ih =>
      rcases e with ⟨k, b⟩
      rw [get?, List.lookup_cons] at h
      split at h
      · cases h
      · rename_i hk
        rw [List.map_cons, List.mem_cons, not_or]
        exact ⟨beq_eq_false_iff_ne.mp hk, ih h⟩

theorem mem_of_get? {m : Mapping α} {key : String} {a : α} (h : get? m key = some a) :
    (key, a) ∈ m := by
  rcases List.lookup_eq_some_iff.mp h with ⟨before, after, rfl, -⟩
  exact List.mem_append_cons_self

/-- Changing the values changes what is found. -/
theorem get?_mapValues (f : α → β) (m : Mapping α) (key : String) :
    get? (mapValues f m) key = (get? m key).map f := by
  induction m with
  | nil =>
      rfl
  | cons e m ih =>
      rcases e with ⟨k, a⟩
      rw [mapValues_cons, get?, get?, List.lookup_cons, List.lookup_cons]
      split
      · rfl
      · exact ih

end Mapping
end LineRpc
