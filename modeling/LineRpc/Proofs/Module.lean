import Mathlib.Data.List.Nodup
import LineRpc.Proofs.Mapping.Lookup
import LineRpc.Proofs.Registry

/-!
# Module — which functions a module file exposes

A module file exposes the functions that it offers, as exports or as members of its default object,
under their own names. A function under the reserved key is the exception: it is lost, and the names
that functions have themselves can no longer be assigned after it. Any module that does not offer
this one name is exposed in full.

* `Assignable`                     : no name comes too late to be assigned
* `Gathered.addAll_eq_ok_iff`      : what is gathered of some functions
* `Namespace.Offers`               : the names of the functions of a module
* `Namespace.Exposes`              : which function counts for a name, and what it is called on
* `Namespace.functions_eq_ok_iff`  : when the functions can be gathered
* `Namespace.mem_functions_iff`    : the table that is registered
* `Namespace.exposed_iff_offered`  : all of this together
-/

namespace LineRpc

open Mapping (reservedKey)

variable {name : String} {f : Callable}

/-! ## Tables -/

namespace Table

variable {α : Type} {t : Table α} {k : String} {a : α}

theorem lookup_eq_some_iff (h : (t.map Prod.fst).Nodup) : t.lookup k = some a ↔ (k, a) ∈ t :=
  ⟨Mapping.mem_of_get?, Mapping.get?_of_mem h⟩

theorem lookup_reverse_eq_some_iff (h : (t.map Prod.fst).Nodup) :
    t.reverse.lookup k = some a ↔ (k, a) ∈ t := by
  have hreverse : (t.reverse.map Prod.fst).Nodup := by
    rw [List.map_reverse]
    exact List.nodup_reverse.mpr h
  rw [lookup_eq_some_iff hreverse, List.mem_reverse]

/-- Without the entries of one name everything else is found as before. -/
theorem lookup_filter_ne (t : Table α) (other k : String) :
    (t.filter fun e => e.1 ≠ other).lookup k = if k = other then none else t.lookup k := by
  induction t with
  | nil =>
      simp
  | cons e t ih =>
      by_cases he : e.1 = other
      · subst he
        rw [List.filter_cons_of_neg (by simp), ih, lookup_cons]
        by_cases hk : k = e.1 <;> simp only [hk, if_true, if_false]
      · rw [List.filter_cons_of_pos (by simpa using he), lookup_cons, ih, lookup_cons]
        by_cases hk : k = e.1
        · rw [hk, if_pos rfl, if_neg he, if_pos rfl]
        · rw [if_neg hk, if_neg hk]

end Table

/-! ## Names in the order of their assignment -/

/-- A name comes too late: the reserved key was assigned before it, the name itself was not, and it
is one that functions have. -/
def Barred (before : List String) (name : String) : Prop :=
  reservedKey ∈ before ∧ name ∉ before ∧ AssignmentError.of? name ≠ none

/-- No name comes too late. -/
def Assignable (names : List String) : Prop :=
  ∀ before name after, names = before ++ name :: after → ¬ Barred before name

theorem assignable_nil : Assignable [] := by
  intro before name after h
  simp at h

/-- One name more can be assigned unless those before it bar it. -/
theorem assignable_concat {names : List String} :
    Assignable (names ++ [name]) ↔ Assignable names ∧ ¬ Barred names name := by
  constructor
  · intro h
    refine ⟨fun before other after heq => ?_, h names name [] rfl⟩
    exact h before other (after ++ [name]) (by simp [heq])
  · rintro ⟨h, hlast⟩ before other after heq
    rcases List.eq_nil_or_concat after with rfl | ⟨rest, last, rfl⟩
    · obtain ⟨rfl, hname⟩ := List.append_inj' heq rfl
      obtain rfl : name = other := by simpa using hname
      exact hlast
    · have heq : names ++ [name] = (before ++ other :: rest) ++ [last] := by simpa using heq
      exact h before other rest (List.append_inj' heq rfl).1

/-- Without the reserved key every name can be assigned. -/
theorem assignable_of_not_mem {names : List String} (h : reservedKey ∉ names) :
    Assignable names := by
  rintro before other after rfl ⟨hreserved, -⟩
  exact h (List.mem_append_left _ hreserved)

/-! ## Gathering -/

namespace Gathered

/-- The functions that are assigned as entries. -/
def plain (es : List (String × Callable)) : List (String × Callable) :=
  es.filter fun e => e.1 ≠ reservedKey

/-- What there is after all assignments have been made. -/
def after (es : List (String × Callable)) : Gathered where
  table := Table.putAll [] (plain es)
  inherits := decide (reservedKey ∈ es.map Prod.fst)

/-- The last assignment of a name counts, the reserved key excepted. -/
theorem lookup_after (es : List (String × Callable)) (name : String) :
    (after es).table.lookup name = if name = reservedKey then none else es.reverse.lookup name := by
  rw [after, Table.lookup_putAll, List.lookup_nil, Option.or_none, plain, ← List.filter_reverse,
    Table.lookup_filter_ne]

/-- A name is refused exactly when the names before it bar it. -/
theorem refusal?_after {es : List (String × Callable)} (hname : name ≠ reservedKey) :
    (after es).refusal? name = none ↔ ¬ Barred (es.map Prod.fst) name := by
  have hnew : ((after es).table.lookup name).isNone = true ↔ name ∉ es.map Prod.fst := by
    rw [Option.isNone_iff_eq_none, lookup_after, if_neg hname, Table.lookup_reverse_eq_none_iff]
  have hreserved : (after es).inherits = true ↔ reservedKey ∈ es.map Prod.fst := decide_eq_true_iff
  by_cases h : reservedKey ∈ es.map Prod.fst ∧ name ∉ es.map Prod.fst
  · rw [refusal?, if_pos (Bool.and_eq_true_iff.mpr ⟨hreserved.mpr h.1, hnew.mpr h.2⟩)]
    simp [Barred, h.1, h.2]
  · rw [refusal?, if_neg fun hboth => h ((Bool.and_eq_true_iff.mp hboth).imp hreserved.mp hnew.mp)]
    exact iff_of_true rfl fun hbarred => h ⟨hbarred.1, hbarred.2.1⟩

/-- One assignment more. -/
theorem add_after {es : List (String × Callable)} {g : Gathered} :
    (after es).add name f = .ok g ↔
      ¬ Barred (es.map Prod.fst) name ∧ g = after (es ++ [(name, f)]) := by
  by_cases hname : name = reservedKey
  · subst hname
    -- The reserved key is barred by nothing, but it adds no function.
    have hfree : ¬ Barred (es.map Prod.fst) reservedKey := by
      rintro ⟨-, -, h⟩
      exact h (by decide)
    have hafter : after (es ++ [(reservedKey, f)]) = { after es with inherits := true } := by
      simp [after, plain]
    simp [add, hfree, hafter, eq_comm]
  · have hafter : after (es ++ [(name, f)]) =
        { after es with table := (after es).table.put name f } := by
      have hne : reservedKey ≠ name := Ne.symm hname
      simp [after, plain, hname, hne, Table.putAll]
    rw [add, if_neg hname, ← refusal?_after hname, hafter]
    cases (after es).refusal? name with
    | none =>
        simp [eq_comm]
    | some e =>
        simp

/-- Functions are gathered if no name comes too late, and then those under the reserved key are
lost. -/
theorem addAll_eq_ok_iff {es : List (String × Callable)} {g : Gathered} :
    empty.addAll es = .ok g ↔ Assignable (es.map Prod.fst) ∧ g = after es := by
  -- What is added last meets a table that all others have made.
  induction es using List.reverseRecOn generalizing g with
  | nil =>
      simp [addAll, assignable_nil, after, plain, Table.putAll, empty, pure, Except.pure, eq_comm]
  | append_singleton es e ih =>
      have hstep : empty.addAll (es ++ [e]) = empty.addAll es >>= fun g => g.add e.1 e.2 := by
        simp [addAll, List.foldlM_append]
      rw [hstep, List.map_append, List.map_singleton, assignable_concat]
      cases hes : empty.addAll es with
      | error err =>
          have hnot : ¬ Assignable (es.map Prod.fst) := by
            intro h
            cases hes.symm.trans (ih.mpr ⟨h, rfl⟩)
          simp [bind, Except.bind, hnot]
      | ok g' =>
          obtain ⟨hassign, rfl⟩ := ih.mp hes
          simp [bind, Except.bind, add_after, hassign]

end Gathered

/-! ## Bound functions -/

variable {self : Value} {members : List (String × Member)}

/-- The functions of an object are its methods, bound to it. -/
theorem mem_boundFunctions :
    (name, f) ∈ boundFunctions self members ↔ ∃ m, (name, .method m) ∈ members ∧ f = m self := by
  simp only [boundFunctions, List.mem_filterMap]
  constructor
  · rintro ⟨⟨other, m⟩, hmem, heq⟩
    cases m with
    | value v =>
        cases heq
    | method m =>
        cases heq
        exact ⟨m, hmem, rfl⟩
  · rintro ⟨m, hmem, rfl⟩
    exact ⟨(name, .method m), hmem, rfl⟩

theorem mem_names_boundFunctions :
    name ∈ (boundFunctions self members).map Prod.fst ↔ ∃ m, (name, .method m) ∈ members := by
  constructor
  · intro h
    obtain ⟨⟨other, g⟩, hmem, rfl⟩ := List.mem_map.mp h
    obtain ⟨m, hm, -⟩ := mem_boundFunctions.mp hmem
    exact ⟨m, hm⟩
  · rintro ⟨m, hm⟩
    exact List.mem_map.mpr ⟨(name, m self), mem_boundFunctions.mpr ⟨m, hm, rfl⟩, rfl⟩

theorem nodup_boundFunctions (h : (members.map Prod.fst).Nodup) :
    ((boundFunctions self members).map Prod.fst).Nodup := by
  have hsub : ((boundFunctions self members).map Prod.fst).Sublist (members.map Prod.fst) := by
    clear h
    induction members with
    | nil =>
        exact .slnil
    | cons e members ih =>
        obtain ⟨name, m⟩ := e
        cases m with
        | value v =>
            exact ih.cons name
        | method m =>
            exact ih.cons_cons name
  exact hsub.nodup h

/-! ## Module files -/

namespace Namespace

variable {n : Namespace}

/-- The members of the default object, each name once. -/
def defaultMembers (n : Namespace) : List (String × Member) :=
  match n.fallback with
  | some (.object members) => Mapping.ofEntries members
  | _ => []

/-- The default object. -/
def defaultObject (n : Namespace) : Value :=
  match n.fallback with
  | some d => d.toValue
  | none => .undefined

/-- A function has this name, as an export or as a member of the default object. -/
def Offers (n : Namespace) (name : String) : Prop :=
  (∃ m, (name, .method m) ∈ n.exports) ∨ ∃ m, (name, .method m) ∈ n.defaultMembers

/-- The function that counts for a name, which is given all arguments: an export is called on the
module, and a member, which counts only if no export has its name, on the default object. -/
inductive Exposes (n : Namespace) (name : String) : Callable → Prop
  | named {m : Method} (h : (name, .method m) ∈ n.exports) : Exposes n name (m n.self)
  | member {m : Method} (hnot : ∀ m', (name, .method m') ∉ n.exports)
      (h : (name, .method m) ∈ n.defaultMembers) : Exposes n name (m n.defaultObject)

/-- The names of all functions in the order of their assignment. -/
def assigned (n : Namespace) : List String :=
  (n.defaultFunctions ++ n.namedFunctions).map Prod.fst

/-- What is offered is what some function stands behind. -/
theorem offers_iff_exposes : n.Offers name ↔ ∃ f, n.Exposes name f := by
  constructor
  · intro h
    -- A named export hides the member of the default export with its name.
    by_cases hnamed : ∃ m, (name, .method m) ∈ n.exports
    · obtain ⟨m, hm⟩ := hnamed
      exact ⟨_, .named hm⟩
    · obtain ⟨m, hm⟩ := h.resolve_left hnamed
      exact ⟨_, .member (not_exists.mp hnamed) hm⟩
  · rintro ⟨f, hf⟩
    cases hf with
    | named h =>
        exact .inl ⟨_, h⟩
    | member hnot h =>
        exact .inr ⟨_, h⟩

theorem defaultFunctions_eq (n : Namespace) :
    n.defaultFunctions = boundFunctions n.defaultObject n.defaultMembers := by
  obtain ⟨named, - | (m | members)⟩ := n <;> rfl

theorem nodup_defaultMembers (n : Namespace) : (n.defaultMembers.map Prod.fst).Nodup := by
  obtain ⟨named, - | (m | members)⟩ := n
  · exact .nil
  · exact .nil
  · exact Mapping.nodup_keys (Mapping.ordered_ofEntries members)

theorem mem_sorted {m : Member} :
    (name, m) ∈ (n.exports.mergeSort fun a b => Text.unitLe a.1 b.1) ↔ (name, m) ∈ n.exports :=
  (List.mergeSort_perm _ _).mem_iff

/-- The names that are assigned are those that are offered. -/
theorem mem_assigned : name ∈ n.assigned ↔ n.Offers name := by
  simp only [assigned, List.map_append, List.mem_append, defaultFunctions_eq, namedFunctions,
    mem_names_boundFunctions, mem_sorted, Offers, or_comm]

/-- The function that is assigned last under a name is the one that counts. -/
theorem lookup_assigned (h : (n.exports.map Prod.fst).Nodup) :
    (n.defaultFunctions ++ n.namedFunctions).reverse.lookup name = some f ↔ n.Exposes name f := by
  have hdefault : (n.defaultFunctions.map Prod.fst).Nodup := by
    rw [defaultFunctions_eq]
    exact nodup_boundFunctions (nodup_defaultMembers n)
  have hnamed : (n.namedFunctions.map Prod.fst).Nodup :=
    nodup_boundFunctions (((List.mergeSort_perm _ _).map Prod.fst).nodup_iff.mpr h)
  rw [List.reverse_append, List.lookup_append, Option.or_eq_some_iff,
    Table.lookup_reverse_eq_some_iff hnamed, Table.lookup_reverse_eq_some_iff hdefault,
    Table.lookup_reverse_eq_none_iff, namedFunctions, mem_names_boundFunctions, mem_boundFunctions,
    defaultFunctions_eq, mem_boundFunctions]
  simp only [mem_sorted, not_exists]
  -- The named functions are assigned later, so they hide those of the default object.
  constructor
  · rintro (⟨m, hm, rfl⟩ | ⟨hnot, m, hm, rfl⟩)
    · exact .named hm
    · exact .member hnot hm
  · rintro (hm | ⟨hnot, hm⟩)
    · exact .inl ⟨_, hm, rfl⟩
    · exact .inr ⟨hnot, _, hm, rfl⟩

/-- A module is gathered exactly when all its names can be assigned. -/
theorem functions_eq_ok_iff {table : Table Callable} :
    n.functions = .ok table ↔
      Assignable n.assigned ∧
        table = (Gathered.after (n.defaultFunctions ++ n.namedFunctions)).table := by
  rw [functions, assigned]
  generalize n.defaultFunctions ++ n.namedFunctions = es
  cases hes : Gathered.empty.addAll es with
  | error e =>
      have hnot : ¬ Assignable (es.map Prod.fst) := by
        intro h
        cases hes.symm.trans (Gathered.addAll_eq_ok_iff.mpr ⟨h, rfl⟩)
      simp [Except.map, hnot]
  | ok g =>
      obtain ⟨hassign, rfl⟩ := Gathered.addAll_eq_ok_iff.mp hes
      simp only [Except.map, Except.ok.injEq, hassign, true_and, eq_comm]

/-- The table holds the functions that count, except the one under the reserved key. -/
theorem mem_functions_iff (h : (n.exports.map Prod.fst).Nodup) {table : Table Callable}
    (htable : n.functions = .ok table) :
    (table.map Prod.fst).Nodup ∧
      ∀ name f, (name, f) ∈ table ↔ name ≠ reservedKey ∧ n.Exposes name f := by
  obtain ⟨-, rfl⟩ := functions_eq_ok_iff.mp htable
  have honce : ((Gathered.after (n.defaultFunctions ++ n.namedFunctions)).table.map Prod.fst).Nodup :=
    Table.nodup_putAll (t := []) List.nodup_nil _
  refine ⟨honce, fun name f => ?_⟩
  rw [← lookup_assigned h, ← Table.lookup_eq_some_iff honce, Gathered.lookup_after]
  by_cases hname : name = reservedKey <;> simp [hname]

/-- A table without entries comes from a module that offers nothing but the reserved key. -/
theorem functions_eq_nil_iff (h : (n.exports.map Prod.fst).Nodup) {table : Table Callable}
    (htable : n.functions = .ok table) :
    table = [] ↔ ¬ ∃ name ≠ reservedKey, n.Offers name := by
  obtain ⟨-, hmem⟩ := mem_functions_iff h htable
  rw [List.eq_nil_iff_forall_not_mem, not_iff_not.symm]
  push Not
  constructor
  · rintro ⟨⟨name, f⟩, he⟩
    obtain ⟨hne, hf⟩ := (hmem name f).mp he
    exact ⟨name, hne, offers_iff_exposes.mpr ⟨f, hf⟩⟩
  · rintro ⟨name, hne, hoffers⟩
    obtain ⟨f, hf⟩ := offers_iff_exposes.mp hoffers
    exact ⟨(name, f), (hmem name f).mpr ⟨hne, hf⟩⟩

/-- A module file gives a table exactly when that is gathered and not empty. -/
theorem functionsOf_eq_ok_iff {path : String} {table : Table Callable} :
    functionsOf path (.ok n) = .ok table ↔ n.functions = .ok table ∧ table ≠ [] := by
  rw [functionsOf]
  cases n.functions with
  | error e =>
      simp
  | ok functions =>
      by_cases hnil : functions = []
      · simp [hnil, eq_comm]
      · dsimp only
        rw [if_neg (by simpa using hnil), Except.ok.injEq, Except.ok.injEq]
        refine (and_iff_left_of_imp ?_).symm
        rintro rfl
        exact hnil

/-- What a module file exposes. It loads if it offers a function under any name other than the
reserved key and no name comes too late; then it exposes just the functions that count under those
names. A module that offers nothing under the reserved key loads if it offers any function, and
exposes them all. -/
theorem exposed_iff_offered (path : String) (h : (n.exports.map Prod.fst).Nodup) :
    ((∃ table, functionsOf path (.ok n) = .ok table) ↔
      (∃ name ≠ reservedKey, n.Offers name) ∧ Assignable n.assigned) ∧
    (∀ table, functionsOf path (.ok n) = .ok table →
      (table.map Prod.fst).Nodup ∧
        ∀ name f, (name, f) ∈ table ↔ name ≠ reservedKey ∧ n.Exposes name f) ∧
    (¬ n.Offers reservedKey →
      ((∃ table, functionsOf path (.ok n) = .ok table) ↔ ∃ name, n.Offers name) ∧
      ∀ table, functionsOf path (.ok n) = .ok table →
        ∀ name f, (name, f) ∈ table ↔ n.Exposes name f) := by
  have hloads : (∃ table, functionsOf path (.ok n) = .ok table) ↔
      (∃ name ≠ reservedKey, n.Offers name) ∧ Assignable n.assigned := by
    constructor
    · rintro ⟨table, htable⟩
      obtain ⟨hfunctions, hne⟩ := functionsOf_eq_ok_iff.mp htable
      exact ⟨not_not.mp fun hnot => hne ((functions_eq_nil_iff h hfunctions).mpr hnot),
        (functions_eq_ok_iff.mp hfunctions).1⟩
    · rintro ⟨hoffers, hassign⟩
      have hfunctions := functions_eq_ok_iff.mpr ⟨hassign, rfl⟩
      exact ⟨_, functionsOf_eq_ok_iff.mpr
        ⟨hfunctions, fun hnil => (functions_eq_nil_iff h hfunctions).mp hnil hoffers⟩⟩
  have htables : ∀ table, functionsOf path (.ok n) = .ok table → (table.map Prod.fst).Nodup ∧
      ∀ name f, (name, f) ∈ table ↔ name ≠ reservedKey ∧ n.Exposes name f :=
    fun table htable => mem_functions_iff h (functionsOf_eq_ok_iff.mp htable).1
  refine ⟨hloads, htables, fun hnot => ?_⟩
  -- A name that is offered is not the reserved key, and so no name comes too late.
  have hne {name : String} (hoffers : n.Offers name) : name ≠ reservedKey := by
    rintro rfl
    exact hnot hoffers
  constructor
  · rw [hloads]
    constructor
    · rintro ⟨⟨name, -, hoffers⟩, -⟩
      exact ⟨name, hoffers⟩
    · rintro ⟨name, hoffers⟩
      exact ⟨⟨name, hne hoffers, hoffers⟩,
        assignable_of_not_mem fun hmem => hnot (mem_assigned.mp hmem)⟩
  · intro table htable name f
    rw [(htables table htable).2 name f]
    exact and_iff_right_of_imp fun hf => hne (offers_iff_exposes.mpr ⟨f, hf⟩)

/-- A module with an export and a default object that has a function of the same name. -/
def greeter : Namespace where
  named := [("upper", .method fun _ args => .returned (.list args)), ("limit", .value .null)]
  fallback := some (.object [("greet", .method fun self _ => .returned self),
    ("upper", .method fun _ _ => .returned .null)])

/-- The export wins, and a member is called on the default object. -/
theorem exposed_iff_offered_greeter :
    (greeter.exports.map Prod.fst).Nodup ∧ ¬ greeter.Offers reservedKey ∧
      ∃ table, functionsOf "greeter.mjs" (.ok greeter) = .ok table ∧
        ("upper", fun args => .returned (.list args)) ∈ table ∧
        ("greet", fun _ => .returned greeter.defaultObject) ∈ table := by
  have hnodup : (greeter.exports.map Prod.fst).Nodup := by decide
  have hreserved : ¬ greeter.Offers reservedKey := by
    have hexports : reservedKey ∉ greeter.exports.map Prod.fst := by decide
    have hmembers : reservedKey ∉ greeter.defaultMembers.map Prod.fst := by decide
    rintro (⟨m, hm⟩ | ⟨m, hm⟩)
    · exact hexports (List.mem_map.mpr ⟨_, hm, rfl⟩)
    · exact hmembers (List.mem_map.mpr ⟨_, hm, rfl⟩)
  have hupper : greeter.Exposes "upper" fun args => .returned (.list args) :=
    .named (m := fun _ args => .returned (.list args)) List.mem_cons_self
  have hgreet : greeter.Exposes "greet" fun _ => .returned greeter.defaultObject := by
    have hnot : "greet" ∉ greeter.exports.map Prod.fst := by decide
    refine .member (m := fun self _ => .returned self) (fun m hm => ?_) List.mem_cons_self
    exact hnot (List.mem_map.mpr ⟨_, hm, rfl⟩)
  obtain ⟨hloads, hmem⟩ := (exposed_iff_offered "greeter.mjs" hnodup).2.2 hreserved
  obtain ⟨table, htable⟩ := hloads.mpr ⟨"upper", offers_iff_exposes.mpr ⟨_, hupper⟩⟩
  exact ⟨hnodup, hreserved, table, htable, (hmem table htable _ _).mpr hupper,
    (hmem table htable _ _).mpr hgreet⟩

/-- A module whose only function has the reserved key as its name. -/
def reservedOnly : Namespace where
  named := []
  fallback := some (.object [(reservedKey, .method fun _ args => .returned (.list args))])

/-- It is refused although it offers a function. -/
theorem refused_reserved :
    ¬ ∀ path (n : Namespace), (n.exports.map Prod.fst).Nodup →
      ((∃ table, functionsOf path (.ok n) = .ok table) ↔ ∃ name, n.Offers name) := by
  intro h
  have hoffers : reservedOnly.Offers reservedKey := .inr ⟨_, List.mem_cons_self⟩
  obtain ⟨table, htable⟩ := (h "m.mjs" reservedOnly (by decide)).mpr ⟨reservedKey, hoffers⟩
  obtain ⟨hgathered, hne⟩ := functionsOf_eq_ok_iff.mp htable
  obtain ⟨-, rfl⟩ := functions_eq_ok_iff.mp hgathered
  -- The one function is lost, and there is no other.
  have hsorted : (reservedOnly.exports.mergeSort fun a b => Text.unitLe a.1 b.1) =
      reservedOnly.exports :=
    List.mergeSort_singleton _
  have hnamed : reservedOnly.namedFunctions = [] := by
    rw [namedFunctions, hsorted]
    rfl
  rw [hnamed] at hne
  exact hne rfl

end Namespace
end LineRpc
