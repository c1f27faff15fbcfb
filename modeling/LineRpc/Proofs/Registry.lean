import Mathlib.Data.List.Induction
import LineRpc.Library.Standard
import LineRpc.Module
import LineRpc.Proofs.Mapping.Lookup

/-!
# Registry — the latest registration counts, function by function

Modules are registered one after the other, the same ones as often as one likes. What is found under
two names is what the last registration that has a function of these names put there, whatever was
registered before, between or afterwards under other names. The listing of a registry names what can
be found in it. A worker registers its standard modules first and then the functions of module
files, up to the first file that fails.

* `Registry.registerAll`     : registrations one after the other
* `Registry.Latest`          : the last registration that has a function
* `Registry.lookup_registerAll` : what a module holds after all registrations
* `Registry.found_iff`       : what is found
* `Registry.Tidy`            : every name stands once
* `Registry.Tidy.mem_listed_iff` : what is listed
* `Registry.loading_of_loads`, `Registry.loading_of_fails` : module files
* `Registry.resolve_latest`  : all of this together
-/

namespace LineRpc

/-! ## Tables -/

namespace Table

variable {α : Type}

theorem lookup_cons (t : Table α) (e : String × α) (k : String) :
    List.lookup k (e :: t) = if k = e.1 then some e.2 else t.lookup k := by
  obtain ⟨n, a⟩ := e
  by_cases h : k = n
  · simp [h]
  · have hbeq : (k == n) = false := by simpa using h
    simp [List.lookup_cons, h, hbeq]

/-- Setting a name changes what is found under this name only. -/
theorem lookup_put (t : Table α) (name k : String) (a : α) :
    (t.put name a).lookup k = if k = name then some a else t.lookup k := by
  induction t with
  | nil =>
      simp [put, lookup_cons]
  | cons e t ih =>
      obtain ⟨n, b⟩ := e
      by_cases hn : n = name
      · subst hn
        by_cases h : k = n <;> simp [put, lookup_cons, h]
      · by_cases h : k = n
        · simp [put, hn, h]
        · simp [put, hn, lookup_cons, h, ih]

/-- A name that is new is put at the end, and any other keeps its place. -/
theorem keys_put (t : Table α) (name : String) (a : α) :
    (t.put name a).map Prod.fst =
      if name ∈ t.map Prod.fst then t.map Prod.fst else t.map Prod.fst ++ [name] := by
  induction t with
  | nil =>
      simp [put]
  | cons e t ih =>
      obtain ⟨n, b⟩ := e
      by_cases hn : n = name
      · simp [put, hn]
      · have hne : name ≠ n := Ne.symm hn
        by_cases hmem : name ∈ t.map Prod.fst
        · simp only [put, hn, if_false, List.map_cons, ih, List.mem_cons, hmem, or_true, if_true]
        · simp only [put, hn, if_false, List.map_cons, ih, List.mem_cons, hmem, hne, or_self,
            List.cons_append]

/-- Putting an entry repeats no key. -/
theorem nodup_put {t : Table α} (h : (t.map Prod.fst).Nodup) (name : String) (a : α) :
    ((t.put name a).map Prod.fst).Nodup := by
  rw [keys_put]
  split
  · exact h
  · rename_i hnew
    refine List.nodup_append.mpr ⟨h, by simp, ?_⟩
    intro k hk k' hk' heq
    have hname : k' = name := by simpa using hk'
    exact hnew (hname ▸ heq ▸ hk)

theorem nodup_putAll {t : Table α} (h : (t.map Prod.fst).Nodup) (entries : List (String × α)) :
    ((t.putAll entries).map Prod.fst).Nodup := by
  induction entries generalizing t with
  | nil =>
      exact h
  | cons e entries ih =>
      exact ih (nodup_put h e.1 e.2)

/-- The last entry of a name counts, and the table before only if there is none. -/
theorem lookup_putAll (t : Table α) (entries : List (String × α)) (k : String) :
    (t.putAll entries).lookup k = (entries.reverse.lookup k).or (t.lookup k) := by
  induction entries generalizing t with
  | nil =>
      simp [putAll]
  | cons e entries ih =>
      have hstep : (t.putAll (e :: entries)) = (t.put e.1 e.2).putAll entries := rfl
      rw [hstep, ih, lookup_put, List.reverse_cons, List.lookup_append]
      by_cases h : k = e.1 <;> simp [lookup_cons, h]

theorem putAll_append (t : Table α) (es fs : List (String × α)) :
    t.putAll (es ++ fs) = (t.putAll es).putAll fs := by
  simp [putAll]

theorem lookup_eq_none_iff {t : Table α} {k : String} :
    t.lookup k = none ↔ k ∉ t.map Prod.fst :=
  ⟨Mapping.not_mem_of_get?_eq_none, Mapping.get?_eq_none⟩

theorem lookup_reverse_eq_none_iff {es : List (String × α)} {k : String} :
    es.reverse.lookup k = none ↔ k ∉ es.map Prod.fst := by
  have hnames : k ∉ es.reverse.map Prod.fst ↔ k ∉ es.map Prod.fst := by
    simp only [List.map_reverse, List.mem_reverse]
  exact lookup_eq_none_iff.trans hnames

theorem mem_put {t : Table α} {name : String} {a : α} {e : String × α} (h : e ∈ put t name a) :
    e = (name, a) ∨ e ∈ t := by
  induction t with
  | nil =>
      exact .inl (by simpa [put] using h)
  | cons d t ih =>
      by_cases hd : d.1 = name
      · have : e = (name, a) ∨ e ∈ t := by simpa [put, hd] using h
        exact this.imp_right (List.mem_cons_of_mem d)
      · have : e = d ∨ e ∈ put t name a := by simpa [put, hd] using h
        rcases this with rfl | hput
        · exact .inr List.mem_cons_self
        · exact (ih hput).imp_right (List.mem_cons_of_mem d)

end Table

/-! ## The order of names -/

namespace Text

/-- The first units decide unless they are the same. -/
theorem unitsLe_cons {m n : Nat} {ms ns : List Nat} :
    unitsLe (m :: ms) (n :: ns) = true ↔ m < n ∨ m = n ∧ unitsLe ms ns = true := by
  rw [unitsLe]
  rcases Nat.lt_trichotomy m n with h | rfl | h
  · simp [h]
  · simp
  · simp [h, Nat.not_lt_of_gt h, Nat.ne_of_gt h]

/-- The order of texts by code units is transitive. -/
theorem unitsLe_trans {a b c : List Nat} (hab : unitsLe a b = true) (hbc : unitsLe b c = true) :
    unitsLe a c = true := by
  induction a generalizing b c with
  | nil =>
      simp [unitsLe]
  | cons m ms ih =>
      cases b with
      | nil =>
          simp [unitsLe] at hab
      | cons n ns =>
          cases c with
          | nil =>
              simp [unitsLe] at hbc
          | cons k ks =>
              rw [unitsLe_cons] at hab hbc ⊢
              rcases hab with hmn | ⟨rfl, hab⟩
              · exact .inl (hbc.elim (Nat.lt_trans hmn) fun h => h.1 ▸ hmn)
              · exact hbc.imp_right fun h => ⟨h.1, ih hab h.2⟩

theorem unitsLe_total (a b : List Nat) : (unitsLe a b || unitsLe b a) = true := by
  induction a generalizing b with
  | nil =>
      simp [unitsLe]
  | cons m ms ih =>
      cases b with
      | nil =>
          simp [unitsLe]
      | cons n ns =>
          rw [Bool.or_eq_true, unitsLe_cons, unitsLe_cons]
          rcases Nat.lt_trichotomy m n with h | rfl | h
          · exact .inl (.inl h)
          · have hrest := Bool.or_eq_true_iff.mp (ih ns)
            exact hrest.imp (fun h => .inr ⟨rfl, h⟩) fun h => .inr ⟨rfl, h⟩
          · exact .inr (.inl h)

/-- Sorted names are in that order. -/
theorem pairwise_sortNames (names : List String) :
    (sortNames names).Pairwise fun a b => unitLe a b = true := by
  have htrans (a b c : String) : unitLe a b = true → unitLe b c = true → unitLe a c = true :=
    unitsLe_trans
  have htotal (a b : String) : (unitLe a b || unitLe b a) = true := unitsLe_total (units a) (units b)
  exact List.pairwise_mergeSort htrans htotal names

theorem sortNames_perm (names : List String) : (sortNames names).Perm names :=
  List.mergeSort_perm names unitLe

end Text

/-! ## Registrations one after the other -/

/-- A registration: a module, and the functions that it is given. -/
abbrev Registration :=
  String × List (String × Callable)

namespace Registry

/-- Registrations one after the other. -/
def registerAll (r : Registry) (rs : List Registration) : Registry :=
  rs.foldl (fun r e => r.register e.1 e.2) r

/-- The registry after registrations that start from nothing. -/
def ofList (rs : List Registration) : Registry :=
  empty.registerAll rs

/-- The last registration of a module that has a function of this name gives the function. -/
def Latest (rs : List Registration) (module function : String) (f : Callable) : Prop :=
  ∃ before functions after,
    rs = before ++ (module, functions) :: after ∧
      functions.reverse.lookup function = some f ∧
      ∀ later, (module, later) ∈ after → function ∉ later.map Prod.fst

/-- All that a module is given, in order. -/
def entriesOf (rs : List Registration) (module : String) : List (String × Callable) :=
  (rs.filter fun e => e.1 = module).flatMap Prod.snd

@[simp] theorem registerAll_cons (r : Registry) (e : Registration) (rs : List Registration) :
    r.registerAll (e :: rs) = (r.register e.1 e.2).registerAll rs := rfl

theorem registerAll_append (r : Registry) (rs rs' : List Registration) :
    r.registerAll (rs ++ rs') = (r.registerAll rs).registerAll rs' := by
  simp [registerAll]

@[simp] theorem entriesOf_cons (e : Registration) (rs : List Registration) (m : String) :
    entriesOf (e :: rs) m = if m = e.1 then e.2 ++ entriesOf rs m else entriesOf rs m := by
  by_cases h : m = e.1
  · simp [entriesOf, h]
  · simp [entriesOf, h, Ne.symm h]

theorem entriesOf_append (rs rs' : List Registration) (m : String) :
    entriesOf (rs ++ rs') m = entriesOf rs m ++ entriesOf rs' m := by
  simp [entriesOf]

/-- A function counts for a module when some registration of the module has it. -/
theorem mem_names_entriesOf (rs : List Registration) (m f : String) :
    f ∈ (entriesOf rs m).map Prod.fst ↔
      ∃ functions, (m, functions) ∈ rs ∧ f ∈ functions.map Prod.fst := by
  induction rs with
  | nil =>
      simp [entriesOf]
  | cons e rs ih =>
      obtain ⟨n, fs⟩ := e
      -- A registration of another module adds nothing.
      by_cases h : m = n
      · subst h
        simp only [entriesOf_cons, if_true, List.map_append, List.mem_append, ih, List.mem_cons]
        constructor
        · rintro (hf | ⟨functions, hmem, hf⟩)
          · exact ⟨fs, .inl rfl, hf⟩
          · exact ⟨functions, .inr hmem, hf⟩
        · rintro ⟨functions, hnow | hmem, hf⟩
          · cases hnow
            exact .inl hf
          · exact .inr ⟨functions, hmem, hf⟩
      · simp [h, ih]

theorem entriesOf_eq_nil {rs : List Registration} {m : String} (h : m ∉ rs.map Prod.fst) :
    entriesOf rs m = [] := by
  induction rs with
  | nil =>
      simp [entriesOf]
  | cons e rs ih =>
      have hparts : m ≠ e.1 ∧ m ∉ rs.map Prod.fst := by simpa [not_or] using h
      simp [hparts.1, ih hparts.2]

/-- A registration touches its own module only. -/
theorem lookup_register (r : Registry) (name m : String) (functions : List (String × Callable)) :
    (r.register name functions).modules.lookup m =
      if m = name then some (Table.putAll ((r.modules.lookup name).getD []) functions)
      else r.modules.lookup m := by
  simp [register, Table.lookup_put]

/-- What a module holds after all registrations: everything that it is given, in order. -/
theorem lookup_registerAll (r : Registry) (rs : List Registration) (m : String) :
    (r.registerAll rs).modules.lookup m =
      if m ∈ rs.map Prod.fst then
        some (Table.putAll ((r.modules.lookup m).getD []) (entriesOf rs m))
      else r.modules.lookup m := by
  induction rs generalizing r with
  | nil =>
      simp [registerAll]
  | cons e rs ih =>
      simp only [registerAll_cons, ih, lookup_register, entriesOf_cons, List.map_cons, List.mem_cons]
      -- A module that is registered again keeps its functions, and the new ones are put over them.
      by_cases he : m = e.1
      · by_cases hrest : m ∈ rs.map Prod.fst
        · simp [he, he ▸ hrest, Table.putAll_append]
        · simp [he, he ▸ hrest, entriesOf_eq_nil (he ▸ hrest)]
      · have hmem : (m = e.1 ∨ m ∈ rs.map Prod.fst) ↔ m ∈ rs.map Prod.fst := or_iff_right he
        simp only [if_neg he, hmem]

/-- A registration that does not have the name leaves the latest one as it is. -/
theorem Latest.append_other {rs : List Registration} {m f : String} {g : Callable}
    (h : Latest rs m f g) {e : Registration} (he : m = e.1 → f ∉ e.2.map Prod.fst) :
    Latest (rs ++ [e]) m f g := by
  obtain ⟨before, functions, after, hrs, hfound, hlater⟩ := h
  refine ⟨before, functions, after ++ [e], by simp [hrs], hfound, ?_⟩
  intro later hmem
  rcases List.mem_append.mp hmem with hafter | hlast
  · exact hlater later hafter
  · have hlast : e = (m, later) := by simpa [eq_comm] using hlast
    subst hlast
    exact he rfl

/-- The last entry of a name among all that a module is given is that of the last registration which
has this name. -/
theorem latest_iff {rs : List Registration} {m f : String} {g : Callable} :
    Latest rs m f g ↔ (entriesOf rs m).reverse.lookup f = some g := by
  constructor
  · rintro ⟨before, functions, after, rfl, hfound, hlater⟩
    have hnew : f ∉ (entriesOf after m).map Prod.fst := by
      intro hmem
      obtain ⟨later, hl, hf⟩ := (mem_names_entriesOf after m f).mp hmem
      exact hlater later hl hf
    have hafter : (entriesOf after m).reverse.lookup f = none :=
      Table.lookup_reverse_eq_none_iff.mpr hnew
    simp [entriesOf_append, List.lookup_append, hafter, hfound]
  · intro h
    -- The last registration decides if it has the function, else the ones before it.
    induction rs using List.reverseRecOn with
    | nil =>
        simp [entriesOf] at h
    | append_singleton rs e ih =>
        by_cases hm : m = e.1
        · have hsplit : (e.2.reverse.lookup f).or ((entriesOf rs m).reverse.lookup f) = some g := by
            simpa [entriesOf_append, List.lookup_append, hm, entriesOf] using h
          cases hlast : e.2.reverse.lookup f with
          | some g' =>
              have hg : g' = g := by simpa [hlast] using hsplit
              subst hm hg
              exact ⟨rs, e.2, [], rfl, hlast, by simp⟩
          | none =>
              have hother : f ∉ e.2.map Prod.fst := Table.lookup_reverse_eq_none_iff.mp hlast
              exact (ih (by simpa [hlast] using hsplit)).append_other fun _ => hother
        · have hnil : entriesOf [e] m = [] := entriesOf_eq_nil (by simpa using hm)
          have hrest : (entriesOf rs m).reverse.lookup f = some g := by
            simpa [entriesOf_append, hnil] using h
          exact (ih hrest).append_other fun hname => absurd hname hm

/-! ## What is found -/

theorem lookup_unregistered {rs : List Registration} {m : String} (hm : m ∉ rs.map Prod.fst) :
    (ofList rs).modules.lookup m = none :=
  (lookup_registerAll empty rs m).trans (if_neg hm)

theorem lookup_registered {rs : List Registration} {m : String} (hm : m ∈ rs.map Prod.fst) :
    (ofList rs).modules.lookup m = some (Table.putAll [] (entriesOf rs m)) :=
  (lookup_registerAll empty rs m).trans (if_pos hm)

/-- A module that was never registered is not found. -/
theorem resolve_unregistered {rs : List Registration} {m : String} (hm : m ∉ rs.map Prod.fst)
    (f : String) : (ofList rs).resolve m f = .noModule := by
  simp [resolve, lookup_unregistered hm]

/-- In a registered one the last function of that name is found. -/
theorem resolve_registered {rs : List Registration} {m : String} (hm : m ∈ rs.map Prod.fst)
    (f : String) :
    (ofList rs).resolve m f = ((entriesOf rs m).reverse.lookup f).elim .noFunction .found := by
  have hholds : (Table.putAll [] (entriesOf rs m)).lookup f = (entriesOf rs m).reverse.lookup f := by
    simp [Table.lookup_putAll]
  cases h : (entriesOf rs m).reverse.lookup f <;> simp [resolve, lookup_registered hm, hholds, h]

/-- The module is missing exactly when it was never registered. -/
theorem noModule_iff (rs : List Registration) (m f : String) :
    (ofList rs).resolve m f = .noModule ↔ m ∉ rs.map Prod.fst := by
  constructor
  · intro h hm
    cases hlast : (entriesOf rs m).reverse.lookup f <;> simp [resolve_registered hm, hlast] at h
  · intro hm
    exact resolve_unregistered hm f

/-- The function is missing exactly when the module was registered and no registration had it. -/
theorem noFunction_iff (rs : List Registration) (m f : String) :
    (ofList rs).resolve m f = .noFunction ↔
      m ∈ rs.map Prod.fst ∧ ∀ functions, (m, functions) ∈ rs → f ∉ functions.map Prod.fst := by
  have hnames : (entriesOf rs m).reverse.lookup f = none ↔
      ∀ functions, (m, functions) ∈ rs → f ∉ functions.map Prod.fst := by
    have hnew := not_congr (mem_names_entriesOf rs m f)
    simp only [not_exists, not_and] at hnew
    exact Table.lookup_reverse_eq_none_iff.trans hnew
  -- An unregistered module is refused as a module, whatever the function.
  by_cases hm : m ∈ rs.map Prod.fst
  · have hfound : (ofList rs).resolve m f = .noFunction ↔
        (entriesOf rs m).reverse.lookup f = none := by
      cases hlast : (entriesOf rs m).reverse.lookup f <;> simp [resolve_registered hm, hlast]
    simpa only [hm, true_and] using hfound.trans hnames
  · simp only [resolve_unregistered hm, hm, false_and, reduceCtorEq]

/-- What is found: the function that the last registration with this name gave. -/
theorem found_iff (rs : List Registration) (m f : String) (g : Callable) :
    (ofList rs).resolve m f = .found g ↔ Latest rs m f g := by
  by_cases hm : m ∈ rs.map Prod.fst
  · cases hlast : (entriesOf rs m).reverse.lookup f <;>
      simp [resolve_registered hm, latest_iff, hlast]
  · simp [resolve_unregistered hm, latest_iff, entriesOf_eq_nil hm]

/-! ## What is listed -/

/-- Every name stands once: that of a module, and that of a function in its module. -/
structure Tidy (r : Registry) : Prop where
  modules : (r.modules.map Prod.fst).Nodup
  functions : ∀ e ∈ r.modules, (e.2.map Prod.fst).Nodup

theorem Tidy.empty : Tidy empty where
  modules := List.nodup_nil
  functions := by simp [Registry.empty]

/-- A registration repeats neither a module nor a function. -/
theorem Tidy.register {r : Registry} (h : r.Tidy) (name : String)
    (functions : List (String × Callable)) : (r.register name functions).Tidy where
  modules := Table.nodup_put h.modules name _
  functions := by
    intro e he
    rcases Table.mem_put he with rfl | hold
    · -- The module is new, or it was tidy before.
      cases hlookup : r.modules.lookup name with
      | none =>
          simpa [hlookup] using Table.nodup_putAll (t := []) List.nodup_nil functions
      | some existing =>
          have hexisting := h.functions (name, existing) (Mapping.mem_of_get? hlookup)
          simpa [hlookup] using Table.nodup_putAll hexisting functions
    · exact h.functions e hold

theorem Tidy.registerAll {r : Registry} (h : r.Tidy) (rs : List Registration) :
    (r.registerAll rs).Tidy := by
  induction rs generalizing r with
  | nil =>
      exact h
  | cons e rs ih =>
      exact ih (h.register e.1 e.2)

/-- The listing is of the registered modules, each with its sorted names. -/
theorem mem_listing {r : Registry} {l : Listing} :
    l ∈ r.listing ↔ ∃ e ∈ r.modules, l = ⟨e.1, Text.sortNames (e.2.map Prod.fst)⟩ := by
  simp [listing, eq_comm]

theorem listing_modules_perm (r : Registry) :
    (r.listing.map Listing.module).Perm (r.modules.map Prod.fst) := by
  have hperm := (List.mergeSort_perm
    (r.modules.map fun e => Listing.mk e.1 (Text.sortNames (e.2.map Prod.fst)))
    fun a b => Collation.le a.module b.module).map Listing.module
  simpa [listing, Function.comp_def] using hperm

/-- The names that a registry lists: every module once, and its functions once, in order. -/
structure Listed (r : Registry) : Prop where
  modules_once : (r.listing.map Listing.module).Nodup
  functions_once : ∀ l ∈ r.listing, l.functions.Nodup
  functions_ascend : ∀ l ∈ r.listing, l.functions.Pairwise fun a b => Text.unitLe a b = true

theorem Tidy.listed {r : Registry} (h : r.Tidy) : r.Listed where
  modules_once := (listing_modules_perm r).nodup_iff.mpr h.modules
  functions_once := by
    intro l hl
    obtain ⟨e, he, rfl⟩ := mem_listing.mp hl
    exact (Text.sortNames_perm _).nodup_iff.mpr (h.functions e he)
  functions_ascend := by
    intro l hl
    obtain ⟨e, -, rfl⟩ := mem_listing.mp hl
    exact Text.pairwise_sortNames _

/-- What is listed is what is found. -/
theorem Tidy.mem_listed_iff {r : Registry} (h : r.Tidy) (m f : String) :
    (∃ l ∈ r.listing, l.module = m ∧ f ∈ l.functions) ↔ ∃ g, r.resolve m f = .found g := by
  constructor
  · rintro ⟨l, hl, rfl, hf⟩
    obtain ⟨e, he, rfl⟩ := mem_listing.mp hl
    -- No module stands twice, so the listed one is the one that is found.
    have hmodule : r.modules.lookup e.1 = some e.2 := Mapping.get?_of_mem h.modules he
    have hname : f ∈ e.2.map Prod.fst := (Text.sortNames_perm _).mem_iff.mp hf
    cases hfound : e.2.lookup f with
    | none =>
        exact absurd hname (Table.lookup_eq_none_iff.mp hfound)
    | some g =>
        exact ⟨g, by simp [resolve, hmodule, hfound]⟩
  · rintro ⟨g, hg⟩
    cases hmodule : r.modules.lookup m with
    | none =>
        simp [resolve, hmodule] at hg
    | some functions =>
        cases hfound : functions.lookup f with
        | none =>
            simp [resolve, hmodule, hfound] at hg
        | some g' =>
            have hname : f ∈ functions.map Prod.fst :=
              List.mem_map_of_mem (f := Prod.fst) (Mapping.mem_of_get? hfound)
            exact ⟨⟨m, Text.sortNames (functions.map Prod.fst)⟩,
              mem_listing.mpr ⟨(m, functions), Mapping.mem_of_get? hmodule, rfl⟩, rfl,
              (Text.sortNames_perm _).mem_iff.mpr hname⟩

theorem mem_listing_modules (rs : List Registration) (m : String) :
    m ∈ (ofList rs).listing.map Listing.module ↔ m ∈ rs.map Prod.fst := by
  have hlookup : (ofList rs).modules.lookup m = none ↔ m ∉ rs.map Prod.fst := by
    constructor
    · intro hnone hm
      cases hnone.symm.trans (lookup_registered hm)
    · exact lookup_unregistered
  have hnames : m ∉ (ofList rs).modules.map Prod.fst ↔ m ∉ rs.map Prod.fst :=
    Table.lookup_eq_none_iff.symm.trans hlookup
  exact (listing_modules_perm (ofList rs)).mem_iff.trans (not_iff_not.mp hnames)

/-! ## The registry of a worker -/

/-- The standard modules that the capabilities allow, in the order of their registration. -/
def standardRegistrations (caps : Capabilities) : List Registration :=
  let registration (name : String) (functions : List (String × Builtin)) : Registration :=
    (name, functions.map fun (n, f) => (n, Callable.ofBuiltin f))
  [registration "math" Math.functions, registration "builtins" General.functions] ++
    (if caps.arrays then [registration "ndarray" Arrays.functions] else []) ++
      if caps.tables then [registration "frame" Tables.functions] else []

/-- The standard library is registered as any other. -/
theorem addStandard_eq (r : Registry) (caps : Capabilities) :
    r.addStandard caps = r.registerAll (standardRegistrations caps) := by
  obtain ⟨arrays, tables⟩ := caps
  cases arrays <;> cases tables <;> rfl

/-- The module files load, and these are their registrations. -/
def Loads (load : String → Except ImportError Namespace) (specs : List ModuleSpec)
    (rs : List Registration) : Prop :=
  List.Forall₂ (fun spec e => e.1 = spec.name ∧ functionsOf spec.path (load spec.path) = .ok e.2)
    specs rs

/-- A registry after module files of which every one loads, or fails to, always in the same way. -/
def loading (load : String → Except ImportError Namespace) (r : Registry)
    (specs : List ModuleSpec) : Loading :=
  Id.run (r.registerFiles (fun path => pure (load path)) specs)

variable {load : String → Except ImportError Namespace}

theorem loading_nil (r : Registry) : loading load r [] = ⟨r, 0, none⟩ := rfl

/-- A module that loads is registered, and loading goes on. -/
theorem loading_cons_loads {spec : ModuleSpec} {functions : List (String × Callable)}
    (h : functionsOf spec.path (load spec.path) = .ok functions) (r : Registry)
    (specs : List ModuleSpec) :
    loading load r (spec :: specs) =
      { loading load (r.register spec.name functions) specs with
        loaded := (loading load (r.register spec.name functions) specs).loaded + 1 } := by
  simp [loading, registerFiles, h]

theorem loading_cons_fails {spec : ModuleSpec} {e : LoadError}
    (h : functionsOf spec.path (load spec.path) = .error e) (r : Registry)
    (specs : List ModuleSpec) : loading load r (spec :: specs) = ⟨r, 0, some e⟩ := by
  simp [loading, registerFiles, h]

/-- Module files that load are registered one after the other, before the rest is. -/
theorem loading_append {specs : List ModuleSpec} {rs : List Registration} (h : Loads load specs rs)
    (r : Registry) (rest : List ModuleSpec) :
    loading load r (specs ++ rest) =
      { loading load (r.registerAll rs) rest with
        loaded := specs.length + (loading load (r.registerAll rs) rest).loaded } := by
  induction h generalizing r with
  | nil =>
      simp [registerAll]
  | @cons spec e specs rs hhead _ ih =>
      obtain ⟨hname, hfunctions⟩ := hhead
      simp only [List.cons_append, loading_cons_loads hfunctions, ih, registerAll_cons, hname,
        List.length_cons, Nat.add_right_comm]

/-- If all load, all are registered. -/
theorem loading_of_loads {specs : List ModuleSpec} {rs : List Registration}
    (h : Loads load specs rs) (r : Registry) :
    loading load r specs = ⟨r.registerAll rs, specs.length, none⟩ := by
  simpa [loading_nil] using loading_append h r []

/-- The modules before one that fails stay registered. -/
theorem loading_of_fails {before : List ModuleSpec} {rs : List Registration}
    (h : Loads load before rs) {spec : ModuleSpec} {e : LoadError}
    (he : functionsOf spec.path (load spec.path) = .error e) (r : Registry)
    (after : List ModuleSpec) :
    loading load r (before ++ spec :: after) = ⟨r.registerAll rs, before.length, some e⟩ := by
  simpa [loading_cons_fails he] using loading_append h r (spec :: after)

/-! ## All together -/

/-- The latest registration counts, function by function. What is found after any registrations: no
module if it was never registered, no function if no registration of the module had it, and else the
function of the last registration of the module that had it. The listing holds every registered
module once, with its functions once and in ascending order, and exactly those that are found. A
worker finds what the last provider has among its standard modules and then its module files; the
first module file that fails ends the registering, and what was registered before it stays. -/
theorem resolve_latest :
    (∀ (rs : List Registration) (m f : String),
      ((ofList rs).resolve m f = .noModule ↔ m ∉ rs.map Prod.fst) ∧
      ((ofList rs).resolve m f = .noFunction ↔
        m ∈ rs.map Prod.fst ∧ ∀ functions, (m, functions) ∈ rs → f ∉ functions.map Prod.fst) ∧
      (∀ g, (ofList rs).resolve m f = .found g ↔ Latest rs m f g)) ∧
    (∀ rs : List Registration,
      (ofList rs).Listed ∧
      (∀ m, m ∈ (ofList rs).listing.map Listing.module ↔ m ∈ rs.map Prod.fst) ∧
      ∀ m f, (∃ l ∈ (ofList rs).listing, l.module = m ∧ f ∈ l.functions) ↔
        ∃ g, (ofList rs).resolve m f = .found g) ∧
    (∀ (load : String → Except ImportError Namespace) (caps : Capabilities)
        (specs : List ModuleSpec) (rs : List Registration),
      Loads load specs rs →
        (loading load (empty.addStandard caps) specs).error = none ∧
        (loading load (empty.addStandard caps) specs).registry =
          ofList (standardRegistrations caps ++ rs) ∧
        ∀ m f g, (loading load (empty.addStandard caps) specs).registry.resolve m f = .found g ↔
          Latest (standardRegistrations caps ++ rs) m f g) ∧
    (∀ (load : String → Except ImportError Namespace) (r : Registry)
        (before : List ModuleSpec) (rs : List Registration) (spec : ModuleSpec)
        (after : List ModuleSpec) (e : LoadError),
      Loads load before rs → functionsOf spec.path (load spec.path) = .error e →
        loading load r (before ++ spec :: after) = ⟨r.registerAll rs, before.length, some e⟩) := by
  refine ⟨?found, ?listed, ?loads, ?fails⟩
  case found =>
    intro rs m f
    exact ⟨noModule_iff rs m f, noFunction_iff rs m f, found_iff rs m f⟩
  case listed =>
    intro rs
    have htidy : (ofList rs).Tidy := Tidy.empty.registerAll rs
    exact ⟨htidy.listed, mem_listing_modules rs, htidy.mem_listed_iff⟩
  case loads =>
    intro load caps specs rs h
    -- The standard modules are registered like files before all others.
    have hall : loading load (empty.addStandard caps) specs =
        ⟨ofList (standardRegistrations caps ++ rs), specs.length, none⟩ := by
      simp [loading_of_loads h, addStandard_eq, ofList, registerAll_append]
    refine ⟨by simp [hall], by simp [hall], ?_⟩
    intro m f g
    simpa [hall] using found_iff (standardRegistrations caps ++ rs) m f g
  case fails =>
    intro load r before rs spec after e h he
    exact loading_of_fails h he r after

/-- A module file with one function, and no other file. -/
def oneFile (path : String) : Except ImportError Namespace :=
  if path = "a.mjs" then .ok ⟨[("abs", .method fun _ _ => .returned .null)], none⟩
  else .error (.notFound path)

theorem functionsOf_oneFile :
    functionsOf "a.mjs" (oneFile "a.mjs") = .ok [("abs", fun _ => .returned .null)] := by
  have hnamed : Namespace.namedFunctions ⟨[("abs", .method fun _ _ => .returned .null)], none⟩ =
      [("abs", fun _ => .returned .null)] := by
    have hsorted : [("abs", Member.method fun _ _ => .returned .null)].mergeSort
        (fun a b => Text.unitLe a.1 b.1) = [("abs", .method fun _ _ => .returned .null)] :=
      List.mergeSort_singleton _
    exact congrArg (boundFunctions _) hsorted
  rw [oneFile, if_pos rfl, functionsOf, Namespace.functions, hnamed]
  rfl

/-- A module file replaces a standard function, and a missing file ends the registering. -/
theorem resolve_latest_oneFile :
    (∃ f, (loading oneFile (empty.addStandard .full) [⟨"math", "a.mjs"⟩]).registry.resolve "math" "abs" =
        .found f ∧ f [] = .returned .null) ∧
      (loading oneFile empty [⟨"m", "a.mjs"⟩, ⟨"n", "b.mjs"⟩, ⟨"o", "a.mjs"⟩]).error =
        some (.failed "b.mjs" (.notFound "b.mjs")) := by
  obtain ⟨-, -, hloads, hfails⟩ := resolve_latest
  have hfile (name : String) :
      Loads oneFile [⟨name, "a.mjs"⟩] [(name, [("abs", fun _ => .returned .null)])] :=
    .cons ⟨rfl, functionsOf_oneFile⟩ .nil
  constructor
  · obtain ⟨-, -, hfound⟩ := hloads oneFile .full [⟨"math", "a.mjs"⟩] _ (hfile "math")
    have hlatest := (hfound "math" "abs" _).mpr
      ⟨standardRegistrations .full, _, [], rfl, rfl, by simp⟩
    exact ⟨_, hlatest, rfl⟩
  · have hstop := hfails oneFile empty [⟨"m", "a.mjs"⟩] _ ⟨"n", "b.mjs"⟩ [⟨"o", "a.mjs"⟩]
      (.failed "b.mjs" (.notFound "b.mjs")) (hfile "m") rfl
    exact congrArg Loading.error hstop

end Registry
end LineRpc
