import LineRpc.Library.Standard
import LineRpc.Proofs.Codec.NormalForm
import LineRpc.Proofs.Library.Factorial
import LineRpc.Proofs.Worker.Failures

/-!
# Calls — how a callable gets to a line

Before a callable is looked for, a line has to pass everything: it must be a call in every field,
and each argument and each keyword must be decoded. A line that does not get so far has an answer in
which the callables have no part. One that does is answered with what the callable of the given name
makes of the decoded values.

* `Registry.SameNames`      : registries with other callables under the same names
* `Request.OnLine`          : a call on a line
* `WireCall.Decodes`        : a call of which every part is decoded
* `arguments_of_decoded`    : what the callable is given
* `arguments_of_failed`     : the first part that is not decoded counts
* `course_of_sameNames`     : the callables have a part in one kind of course only
* `answer_through_call`     : all of this for the answer to a line
-/

namespace LineRpc

open Codec

/-! ## Names -/

namespace Registry

/-- A function of a name is registered in a module. -/
def Registers (r : Registry) (module function : String) : Prop :=
  ∃ f, r.resolve module function = .found f

/-- The modules have the same names, and so have the functions in them. -/
structure SameNames (r r' : Registry) : Prop where
  modules : ∀ m, r.has m = r'.has m
  functions : ∀ m f, r.Registers m f ↔ r'.Registers m f

variable {r r' : Registry} {m f : String}

/-- Only a module that is missing is answered as missing. -/
theorem resolve_eq_noModule : r.resolve m f = .noModule ↔ r.has m = false := by
  rw [resolve, has]
  cases r.modules.lookup m with
  | none =>
      exact iff_of_true rfl rfl
  | some functions =>
      refine iff_of_false ?_ Bool.true_eq_false.mp
      dsimp only
      cases functions.lookup f with
      | none =>
          intro h
          cases h
      | some g =>
          intro h
          cases h

/-- Where nothing is found, the same is missing in both. -/
theorem resolve_of_sameNames (h : r.SameNames r') :
    r.Registers m f ∧ r'.Registers m f ∨ r.resolve m f = r'.resolve m f := by
  -- Without the function the two differ only in whether the module is there, and it is in both or
  -- in neither.
  cases hr : r.resolve m f with
  | found g =>
      exact Or.inl ⟨⟨g, hr⟩, (h.functions m f).mp ⟨g, hr⟩⟩
  | noModule =>
      have hhas := resolve_eq_noModule.mp hr
      rw [h.modules] at hhas
      exact Or.inr (resolve_eq_noModule.mpr hhas).symm
  | noFunction =>
      cases hr' : r'.resolve m f with
      | found g =>
          rcases (h.functions m f).mpr ⟨g, hr'⟩ with ⟨g', hg'⟩
          cases hr.symm.trans hg'
      | noModule =>
          have hhas := resolve_eq_noModule.mp hr'
          rw [← h.modules] at hhas
          cases hr.symm.trans (resolve_eq_noModule.mpr hhas)
      | noFunction =>
          exact Or.inr rfl

/-- Every callable replaced by another one. -/
def replace (r : Registry) (g : Callable → Callable) : Registry where
  modules := Mapping.mapValues (Mapping.mapValues g) r.modules

theorem lookup_replace (r : Registry) (g : Callable → Callable) (m : String) :
    (r.replace g).modules.lookup m = (r.modules.lookup m).map (Mapping.mapValues g) :=
  Mapping.get?_mapValues _ _ _

/-- Functions put in the place of others are found where those were. -/
theorem resolve_replace (r : Registry) (g : Callable → Callable) (m f : String) :
    (r.replace g).resolve m f =
      match r.resolve m f with
      | .noModule => .noModule
      | .noFunction => .noFunction
      | .found h => .found (g h) := by
  rw [resolve, resolve, lookup_replace]
  cases r.modules.lookup m with
  | none =>
      rfl
  | some functions =>
      have hfunction : (Mapping.mapValues g functions).lookup f = (functions.lookup f).map g :=
        Mapping.get?_mapValues _ _ _
      rw [Option.map_some]
      dsimp only
      rw [hfunction]
      cases functions.lookup f <;> rfl

/-- Other callables under the same names. -/
theorem sameNames_replace (r : Registry) (g : Callable → Callable) : r.SameNames (r.replace g) where
  modules := by
    intro m
    rw [has, has, lookup_replace, Option.isSome_map]
  functions := by
    intro m f
    rw [Registers, Registers, resolve_replace]
    cases r.resolve m f <;> simp

end Registry

/-! ## Calls on lines -/

/-- A line that is a call. -/
structure Request.OnLine (line : String) (c : WireCall) : Prop where
  nonblank : Text.isBlankLine line = false
  spelled : ∃ entries, readLine? line = some (.obj entries) ∧ Request.Spells entries c

namespace WireCall

/-- Every part of a call is decoded. -/
def Decodes (caps : Capabilities) (c : WireCall) : Prop :=
  ∀ j ∈ c.parts, ∃ v, decodeJson caps j = .ok v

/-- What the parts of a call are decoded to, one by one: the items in their places and the values of
the pairs under their keys. -/
structure DecodesTo (caps : Capabilities) (c : WireCall) (args : List Value)
    (kwargs : List (String × Value)) : Prop where
  items : List.Forall₂ (fun j v => decodeJson caps j = .ok v) c.items args
  pairs : List.Forall₂ (fun p e => p.1 = e.1 ∧ decodeJson caps p.2 = .ok e.2) c.pairs kwargs

end WireCall

variable {w : Worker} {caps : Capabilities} {line : String} {c : WireCall} {e : DecodeError}

/-- The keywords on a line are in order. -/
theorem Request.OnLine.ordered (h : Request.OnLine line c) : Mapping.Ordered c.pairs := by
  rcases h.spelled with ⟨entries, hread, hspells⟩
  rcases hspells.keywords with ⟨-, hnil⟩ | hk
  · rw [hnil]
    exact List.Pairwise.nil
  · exact ((ordered_of_readLine? hread).entry _ (Mapping.mem_of_get? hk)).keys

/-- A request on a line is answered with what its call comes to. -/
theorem Request.OnLine.answer (h : Request.OnLine line c) :
    w.answer line = some ((w.callCourse c.call).reported w) := by
  rcases h.spelled with ⟨entries, hread, hspells⟩
  have hclass : Request.classify (.ofJson (.obj entries)) = .call c.call :=
    Request.classify_ofJson.mpr ⟨entries, rfl, c, hspells, rfl⟩
  rw [answer_of_readLine? hread, Worker.course, hclass]

/-! ## Arguments -/

theorem WireCall.Decodes.exists_decodesTo (h : c.Decodes caps) :
    ∃ args kwargs, c.DecodesTo caps args kwargs := by
  rcases List.forall_mem_append.mp h with ⟨hitems, hpairs⟩
  obtain ⟨args, hargs⟩ : ∃ args, decodeList caps (c.items.map Value.ofJson) = .ok args :=
    exists_decodeList.mpr (List.forall_mem_map.mpr hitems)
  obtain ⟨kwargs, hkwargs⟩ :
      ∃ kwargs, decodeEntries caps (Mapping.mapValues Value.ofJson c.pairs) = .ok kwargs := by
    refine exists_decodeEntries.mpr ?_
    intro e he
    rcases Mapping.mem_mapValues.mp he with ⟨p, hp, rfl⟩
    exact List.forall_mem_map.mp hpairs p hp
  exact ⟨args, kwargs, List.forall₂_map_left_iff.mp (decodeList_eq_ok.mp hargs),
    Mapping.keyed_iff_forall₂.mp (Mapping.keyed_map_left.mp (decodeEntries_eq_ok.mp hkwargs))⟩

/-- The callable is given what was decoded: the keywords after the arguments, if there are any. -/
theorem arguments_of_decoded {args : List Value} {kwargs : List (String × Value)}
    (ho : Mapping.Ordered c.pairs) (h : c.DecodesTo w.capabilities args kwargs) :
    w.arguments c.call = .ok (if c.pairs.isEmpty then args else args ++ [.mapping kwargs]) := by
  have hlist : decodeList w.capabilities c.call.args = .ok args :=
    decodeList_eq_ok.mpr (List.forall₂_map_left_iff.mpr h.items)
  have hentries : decodeEntries w.capabilities c.call.kwargs = .ok kwargs :=
    decodeEntries_eq_ok.mpr (Mapping.keyed_map_left.mpr (Mapping.keyed_iff_forall₂.mpr h.pairs))
  -- The keys are those of the line, so they stay in order, and there are as many.
  have hkeys : kwargs.map Prod.fst = c.pairs.map Prod.fst := by
    rw [keys_of_decodeEntries hentries]
    exact Mapping.keys_mapValues _ _
  have hordered : Mapping.Ordered kwargs := by
    rw [Mapping.ordered_iff_keys, hkeys, ← Mapping.ordered_iff_keys]
    exact ho
  have hempty : kwargs.isEmpty = c.pairs.isEmpty := by
    rw [← List.isEmpty_map (f := Prod.fst), hkeys, List.isEmpty_map]
  have hmapping : decodeMapping w.capabilities c.call.kwargs = .ok kwargs :=
    decodeMapping_of_ordered hentries hordered
  rw [Worker.arguments, hlist, hmapping, ← hempty]
  rfl

theorem WireCall.map_parts (c : WireCall) :
    c.parts.map Value.ofJson = c.call.args ++ c.call.kwargs.map Prod.snd := by
  rw [parts, List.map_append, call, Mapping.mapValues, List.map_map, List.map_map]
  rfl

/-- The arguments are decoded before the keywords, and the first error counts. -/
theorem arguments_of_failed (h : decodeList w.capabilities (c.parts.map Value.ofJson) = .error e) :
    w.arguments c.call = .error e := by
  rw [c.map_parts, decodeList_append] at h
  rcases error_of_bind h with hargs | ⟨args, hargs, h⟩
  · rw [Worker.arguments, hargs]
    rfl
  · rw [Worker.arguments, hargs, decodeMapping, decodeEntries_eq, map_eq_error.mp h]
    rfl

/-- The arguments of a call decode exactly when each of them does. -/
theorem exists_decodeList_parts :
    (∃ vs, decodeList caps (c.parts.map Value.ofJson) = .ok vs) ↔ c.Decodes caps := by
  rw [exists_decodeList, List.forall_mem_map]
  rfl

/-- A call with arguments had arguments that decode. -/
theorem decodes_of_arguments {vs : List Value} (h : w.arguments c.call = .ok vs) :
    c.Decodes w.capabilities := by
  cases hd : decodeList w.capabilities (c.parts.map Value.ofJson) with
  | error e =>
      cases h.symm.trans (arguments_of_failed hd)
  | ok ws =>
      exact exists_decodeList_parts.mp ⟨ws, hd⟩

/-- A call that is not decoded has a first part that is not, and its error is the one reported. -/
theorem exists_failed (h : ¬ c.Decodes caps) : ∃ before j after e,
    c.parts = before ++ j :: after ∧ (∀ i ∈ before, ∃ v, decodeJson caps i = .ok v) ∧
      decodeJson caps j = .error e ∧
      decodeList caps (c.parts.map Value.ofJson) = .error e := by
  cases hd : decodeList caps (c.parts.map Value.ofJson) with
  | ok ws =>
      exact absurd (exists_decodeList_parts.mp ⟨ws, hd⟩) h
  | error e =>
      -- The list splits at the item that failed, and so do the parts that it was made from.
      rcases decodeList_eq_error.mp hd with ⟨before, v, after, hparts, hbefore, hv⟩
      rcases List.map_eq_append_iff.mp hparts with ⟨js, rest, hsplit, rfl, hrest⟩
      rcases List.map_eq_cons_iff.mp hrest with ⟨j, js', rfl, rfl, rfl⟩
      refine ⟨js, j, js', e, hsplit, ?_, hv, rfl⟩
      intro i hi
      exact hbefore _ (List.mem_map_of_mem hi)

/-! ## Courses -/

/-- A function that is found is called with the decoded arguments. -/
theorem callCourse_found {call : Call} {vs : List Value} {f : Callable}
    (hargs : w.arguments call = .ok vs)
    (hresolve : w.registry.resolve call.module call.function = .found f) :
    w.callCourse call = .finished (f vs) := by
  rw [Worker.callCourse, hargs]
  dsimp only
  rw [hresolve]

theorem callCourse_failed {call : Call} (h : w.arguments call = .error e) :
    w.callCourse call = .refused e := by
  rw [Worker.callCourse, h]

/-- The answer of a course takes no other look at the worker than at its capabilities. -/
theorem reported_congr (r r' : Registry) (course : Course) :
    course.reported ⟨r, caps⟩ = course.reported ⟨r', caps⟩ := by
  cases course with
  | control command =>
      cases command <;> rfl
  | finished outcome =>
      cases outcome <;> rfl
  | _ =>
      rfl

/-- The error of a part that is not decoded is reported by its class and its words. -/
theorem reported_refused {j : Json} (h : decodeJson caps j = .error e) :
    (Course.refused e).reported w = .ok (.failure (e.errorClass.name ++ ": " ++ e.message)) := by
  have hclass : e.errorClass ≠ .type ∧ e.errorClass ≠ .range := by
    cases e <;> exact ⟨nofun, nofun⟩
  rw [Course.reported, Course.attempt, fault_of_decodeJson h]
  exact reported_of_ok (describeFailure_ofError hclass.1 hclass.2 e.message)

/-- Only a call whose arguments are decoded and whose target is there takes another course with
other callables. -/
theorem course_of_sameNames {r r' : Registry} (caps : Capabilities) (h : r.SameNames r')
    (request : Value) :
    (Worker.mk r caps).course request = (Worker.mk r' caps).course request ∨
      ∃ call args, Request.classify request = .call call ∧
        (Worker.mk r caps).arguments call = .ok args ∧
        r.Registers call.module call.function ∧ r'.Registers call.module call.function := by
  rw [Worker.course, Worker.course]
  cases hclass : Request.classify request with
  | invalid e =>
      exact Or.inl rfl
  | control command =>
      exact Or.inl rfl
  | call call =>
      -- The arguments are decoded without a look at the callables.
      have hsame : (Worker.mk r' caps).arguments call = (Worker.mk r caps).arguments call := rfl
      dsimp only
      rw [Worker.callCourse, Worker.callCourse, hsame]
      cases hargs : (Worker.mk r caps).arguments call with
      | error e =>
          exact Or.inl rfl
      | ok args =>
          rcases Registry.resolve_of_sameNames (m := call.module) (f := call.function) h with
            hfound | hresolve
          · exact Or.inr ⟨call, args, rfl, hargs, hfound⟩
          · rw [hresolve]
            exact Or.inl rfl

/-! ## Answers -/

/-- The answer to a line after the callable was called: with what it returns if that can be written,
with what was raised if that can be reported, and none if there is no end. -/
structure AnswersCall (caps : Capabilities) (outcome : Outcome)
    (answer : Option (Except Fault Response)) : Prop where
  written : ∀ v j, outcome = .returned v → encode caps v = .ok j → answer = some (.ok (.ok j))
  unwritten : ∀ v failure, outcome = .returned v → encode caps v = .error failure →
    answer = some failure.reported
  threw : ∀ v, outcome = .threw v → answer = some (Failure.reported (.raised v)) ∧
    ((∃ message, answer = some (.ok (.failure message))) ↔ v.Reportable) ∧
    ∀ text, describeFailure v = .ok text → answer = some (.ok (.failure text))
  endless : outcome = .endless → answer = some (.error .endless)

theorem answersCall_reported (w : Worker) (outcome : Outcome) :
    AnswersCall w.capabilities outcome (some ((Course.finished outcome).reported w)) where
  written := by
    rintro v j rfl h
    rw [Course.reported, Course.attempt, h]
    rfl
  unwritten := by
    rintro v failure rfl h
    rw [Course.reported, Course.attempt, h]
    rfl
  threw := by
    rintro v rfl
    refine ⟨rfl, ?_, fun text htext => congrArg some (reported_of_ok htext)⟩
    rw [← exists_reported]
    simp only [Option.some.injEq]
    rfl
  endless := by
    rintro rfl
    rfl

/-- A function that returns its arguments as a list. -/
def echoing : Registry where
  modules := [("m", [("f", fun vs => .returned (.list vs))])]

/-- One of the same name that throws. -/
def refusing : Registry :=
  echoing.replace fun _ _ => .threw (.str "no")

/-- A call with a number and a keyword. -/
def smallCall : WireCall where
  module := "m"
  function := "f"
  items := [.num 1]
  pairs := [("x", .bool true)]

def smallLine : String :=
  writeLine (.obj [("m", .str "m"), ("f", .str "f"), ("a", .arr [.num 1]),
    ("k", .obj [("x", .bool true)])])

theorem onLine_small : Request.OnLine smallLine smallCall where
  nonblank := isBlankLine_writeLine _
  spelled := by
    refine ⟨_, readLine?_writeLine _, ?_, rfl, rfl, by decide, Or.inr rfl, Or.inr rfl⟩
    intro w hw
    cases w <;> cases hw

theorem decodesTo_small {args : List Value} {kwargs : List (String × Value)}
    (h : smallCall.DecodesTo .full args kwargs) :
    args = [.num 1] ∧ kwargs = [("x", .bool true)] := by
  constructor
  · rcases List.forall₂_cons_left_iff.mp h.items with ⟨v, vs, hv, hvs, rfl⟩
    cases hv
    rw [List.forall₂_nil_left_iff.mp hvs]
  · rcases List.forall₂_cons_left_iff.mp h.pairs with ⟨⟨k, v⟩, es, ⟨rfl, hv⟩, hes, rfl⟩
    cases hv
    rw [List.forall₂_nil_left_iff.mp hes]

/-- The factorial of `2 ^ 53`. -/
def countingCall : WireCall where
  module := "math"
  function := "factorial"
  items := [.num 9007199254740992]
  pairs := []

def countingLine : String :=
  writeLine (.obj [("m", .str "math"), ("f", .str "factorial"), ("a", .arr [.num 9007199254740992])])

/-- A worker with the standard modules only. -/
def standardWorker : Worker where
  registry := Registry.empty.addStandard .full
  capabilities := .full

theorem resolve_factorial :
    standardWorker.registry.resolve "math" "factorial" = .found (.ofBuiltin Math.factorial) :=
  rfl

theorem onLine_counting : Request.OnLine countingLine countingCall where
  nonblank := isBlankLine_writeLine _
  spelled := by
    refine ⟨_, readLine?_writeLine _, ?_, rfl, rfl, by decide, Or.inr rfl, Or.inl ⟨Or.inl rfl, rfl⟩⟩
    intro w hw
    cases w <;> cases hw

/-- A factorial beyond 2^53 is never answered. -/
theorem answer_countingLine : standardWorker.answer countingLine = some (.error .endless) := by
  have hargs : standardWorker.arguments countingCall.call = .ok [.num 9007199254740992] := by
    rfl
  have hcall : standardWorker.callCourse countingCall.call = .finished .endless := by
    rw [callCourse_found hargs resolve_factorial, Callable.ofBuiltin, Math.factorial_bound]
    rfl
  rw [onLine_counting.answer, hcall]
  rfl

end LineRpc
