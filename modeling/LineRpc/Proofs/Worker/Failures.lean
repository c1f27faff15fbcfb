import LineRpc.Proofs.Codec.Restriction
import LineRpc.Proofs.Envelope.Request
import LineRpc.Proofs.Json.Line
import LineRpc.Worker

/-!
# Failures — what becomes of a failure

A request can be handed over as a value or on a line. What is raised on the way is put in words: by
the class of an error or by its name, and by its message. All three can be replaced by values of any
kind, and the name and the message are asked for their texts, so putting a failure in words can fail
in turn. Handed over as a value the request has no answer then. On a line there is a second attempt,
which puts in words what was raised by the first one; there is no third.

* `Value.Described`           : what has words when it is raised
* `Value.Messaged`            : what has a message when it is raised
* `Value.Reportable`          : what a line is answered with an error about
* `Course.Answerable`         : the courses with an answer
* `Course.reported`           : the answer on a line
* `answer_of_readLine?`       : a line that can be read is answered as its value is
* `respond_total_iff`         : when there is an answer, the same in both ways
-/

namespace LineRpc

/-! ## Words for what is raised -/

/-- Something that can be had, and has a text. -/
def Worded (r : Except Fault Value) : Prop :=
  ∃ text, r >>= Value.toText = .ok text

/-- What has words when it is raised: an error of type or range by its message, another error by its
name and its message, and any other value by its text. -/
inductive Value.Described : Value → Prop
  | byClass {cls : ErrorClass} {message : Except Fault Value} {name : Option (Except Fault Value)}
      (known : cls = .type ∨ cls = .range) (words : Worded message) :
      Described (.error cls message name)
  | byName {cls : ErrorClass} {message : Except Fault Value} {name : Option (Except Fault Value)}
      (called : ∀ n, name = some n → Worded n) (words : Worded message) :
      Described (.error cls message name)
  | other {v : Value} {text : String} (plain : ∀ cls message name, v ≠ .error cls message name)
      (words : v.describe = .ok text) : Described v

/-- What has a message when it is raised; the name of an error does not count. -/
inductive Value.Messaged : Value → Prop
  | error {cls : ErrorClass} {message : Except Fault Value} {name : Option (Except Fault Value)}
      (words : Worded message) : Messaged (.error cls message name)
  | other {v : Value} {text : String} (plain : ∀ cls message name, v ≠ .error cls message name)
      (words : v.describe = .ok text) : Messaged v

/-- What a line is answered with an error about: it has words, or what is raised in their stead has
a message. -/
inductive Value.Reportable (v : Value) : Prop
  | described (words : v.Described)
  | instead {e : Value} (raised : describeFailure v = .error (.raised e)) (message : e.Messaged)

section Words

variable {v : Value} {cls : ErrorClass} {message : Except Fault Value}
  {name : Option (Except Fault Value)}

/-- What is no error has words if it has a text. -/
theorem describeFailure_other (plain : ∀ cls message name, v ≠ .error cls message name) :
    describeFailure v = v.describe.map ("Error: " ++ ·) := by
  cases v with
  | error cls message name =>
      exact absurd rfl (plain cls message name)
  | «sealed» failure =>
      cases failure <;> rfl
  | _ =>
      rfl

/-- What is no error is described as any other value. -/
theorem errorMessage_other (plain : ∀ cls message name, v ≠ .error cls message name) :
    errorMessage v = v.describe := by
  cases v with
  | error cls message name =>
      exact absurd rfl (plain cls message name)
  | «sealed» failure =>
      cases failure <;> rfl
  | _ =>
      rfl

/-- For a type or range error only the message has to have words. -/
theorem exists_describeFailure_byClass (known : cls = .type ∨ cls = .range) :
    (∃ text, describeFailure (.error cls message name) = .ok text) ↔ Worded message := by
  rcases known with rfl | rfl <;> exact exists_map_ok

/-- An error of another class gives its name, a colon and its message. -/
theorem describeFailure_byName (htype : cls ≠ .type) (hrange : cls ≠ .range) :
    describeFailure (.error cls message name) =
      (name.elim (.ok cls.name) (· >>= Value.toText)).bind fun n =>
        (message >>= Value.toText).map fun m => n ++ ": " ++ m := by
  cases cls with
  | type =>
      exact absurd rfl htype
  | range =>
      exact absurd rfl hrange
  | _ =>
      cases name <;> rfl

/-- What is raised has words exactly if it is described. -/
theorem exists_describeFailure : (∃ text, describeFailure v = .ok text) ↔ v.Described := by
  constructor
  · -- If there is a text, each part of it could be had.
    rintro ⟨text, h⟩
    by_cases plain : ∀ cls message name, v ≠ .error cls message name
    · rw [describeFailure_other plain] at h
      obtain ⟨text, htext, -⟩ := ok_of_map h
      exact .other plain htext
    · push Not at plain
      obtain ⟨cls, message, name, rfl⟩ := plain
      by_cases known : cls = .type ∨ cls = .range
      · exact .byClass known ((exists_describeFailure_byClass known).mp ⟨text, h⟩)
      · rw [not_or] at known
        rw [describeFailure_byName known.1 known.2] at h
        obtain ⟨n, hn, h⟩ := ok_of_bind h
        obtain ⟨m, hm, -⟩ := ok_of_map h
        refine .byName ?_ ⟨m, hm⟩
        rintro r rfl
        exact ⟨n, hn⟩
  · rintro (⟨known, words⟩ | ⟨called, words⟩ | ⟨plain, words⟩)
    · exact (exists_describeFailure_byClass known).mpr words
    · rename_i cls message name
      by_cases known : cls = .type ∨ cls = .range
      · exact (exists_describeFailure_byClass known).mpr words
      · -- The name has a text: its own, or that of the class if it was not replaced.
        rw [not_or] at known
        obtain ⟨n, hn⟩ : ∃ n, name.elim (.ok cls.name) (· >>= Value.toText) = .ok n := by
          cases name with
          | none =>
              exact ⟨_, rfl⟩
          | some r =>
              exact called r rfl
        obtain ⟨m, hm⟩ := words
        rw [describeFailure_byName known.1 known.2, hn, hm]
        exact ⟨_, rfl⟩
    · rw [describeFailure_other plain, words]
      exact ⟨_, rfl⟩

/-- A failure has a message exactly when its own words can be had. -/
theorem exists_errorMessage : (∃ text, errorMessage v = .ok text) ↔ v.Messaged := by
  constructor
  · rintro ⟨text, h⟩
    by_cases plain : ∀ cls message name, v ≠ .error cls message name
    · exact .other plain (errorMessage_other plain ▸ h)
    · push Not at plain
      obtain ⟨cls, message, name, rfl⟩ := plain
      exact .error ⟨text, h⟩
  · rintro (⟨words⟩ | ⟨plain, words⟩)
    · exact words
    · exact ⟨_, (errorMessage_other plain).trans words⟩

/-- An error as the program raises it goes by its name and its message. -/
theorem describeFailure_ofError (htype : cls ≠ .type) (hrange : cls ≠ .range) (message : String) :
    describeFailure (.ofError cls message) = .ok (cls.name ++ ": " ++ message) := by
  rw [Value.ofError, describeFailure_byName htype hrange]
  rfl

end Words

/-! ## Courses -/

/-- The answer to a failure on a line: if it cannot be put in words, what was raised instead is
reported by its message alone. -/
def Failure.reported : Fault → Except Fault Response
  | .endless => .error .endless
  | .raised v =>
      match describeFailure v with
      | .ok text => .ok (.failure text)
      | .error .endless => .error .endless
      | .error (.raised e) =>
          (errorMessage e).map fun message => .failure s!"Bridge error: {message}"

/-- The answer of a course on a line. -/
def Course.reported (w : Worker) (c : Course) : Except Fault Response :=
  match c.attempt w with
  | .ok response => .ok response
  | .error failure => failure.reported

/-- The courses with an answer. Nothing on the way goes on for ever, and whatever is raised has
words: by the callable, or by its result when it is written. -/
def Course.Answerable (w : Worker) : Course → Prop
  | .finished .endless => False
  | .finished (.threw v) => v.Described
  | .finished (.returned v) =>
      ∀ failure, Codec.encode w.capabilities v = .error failure → ∃ e, failure = .raised e ∧ e.Described
  | _ => True

variable {w : Worker} {c : Course} {v : Value} {failure : Fault} {r : Response}

/-- A failure is reported exactly when one of the two ways of wording it works. -/
theorem exists_reported :
    (∃ message, Failure.reported (.raised v) = .ok (.failure message)) ↔ v.Reportable := by
  rw [Failure.reported]
  cases hv : describeFailure v with
  | ok text =>
      exact iff_of_true ⟨text, rfl⟩ (.described (exists_describeFailure.mp ⟨text, hv⟩))
  | error failure =>
      have hundescribed : ¬ v.Described := by
        intro h
        obtain ⟨text, htext⟩ := exists_describeFailure.mpr h
        cases hv.symm.trans htext
      -- What could not be described is reported through what that raised.
      cases failure with
      | endless =>
          refine iff_of_false nofun ?_
          rintro (words | ⟨raised, -⟩)
          · exact hundescribed words
          · cases hv.symm.trans raised
      | raised e =>
          constructor
          · rintro ⟨message, h⟩
            obtain ⟨text, htext, -⟩ := ok_of_map h
            exact .instead hv (exists_errorMessage.mp ⟨text, htext⟩)
          · rintro (words | ⟨raised, message⟩)
            · exact absurd words hundescribed
            · cases hv.symm.trans raised
              obtain ⟨text, htext⟩ := exists_errorMessage.mpr message
              exact ⟨_, map_eq_ok.mpr ⟨text, htext, rfl⟩⟩

/-- Words that there are at once are the answer. -/
theorem reported_of_ok {text : String} (h : describeFailure v = .ok text) :
    Failure.reported (.raised v) = .ok (.failure text) := by
  rw [Failure.reported, h]

/-- An answer as a value is the answer on a line. -/
theorem reported_of_response (h : c.response w = .ok r) : c.reported w = .ok r := by
  rw [Course.response] at h
  rw [Course.reported]
  cases hc : c.attempt w with
  | ok r' =>
      rw [hc] at h
      exact h
  | error failure =>
      rw [hc] at h
      cases failure with
      | endless =>
          cases h
      | raised v =>
          obtain ⟨text, htext, rfl⟩ := ok_of_map h
          exact reported_of_ok htext

/-- What is raised when an answer is put in words is reported on a line. -/
theorem reported_of_raised {e : Value} (h : c.response w = .error (.raised e)) :
    c.reported w = (errorMessage e).map fun message => .failure s!"Bridge error: {message}" := by
  rw [Course.response] at h
  rw [Course.reported]
  cases hc : c.attempt w with
  | ok r =>
      rw [hc] at h
      cases h
  | error failure =>
      rw [hc] at h
      cases failure with
      | endless =>
          cases h
      | raised v =>
          -- The words of the failure failed, so the second catch takes over.
          have hwords := map_eq_error.mp h
          simp only [Failure.reported, hwords]

/-- What never ends is never reported. -/
theorem reported_of_endless (h : c.response w = .error .endless) :
    c.reported w = .error .endless := by
  rw [Course.response] at h
  rw [Course.reported]
  cases hc : c.attempt w with
  | ok r =>
      rw [hc] at h
      cases h
  | error failure =>
      rw [hc] at h
      cases failure with
      | endless =>
          rfl
      | raised v =>
          have hwords := map_eq_error.mp h
          simp only [Failure.reported, hwords]

/-! ## Answers on lines -/

/-- A request is answered with what its course is reported as. -/
theorem response_exchangeOf (request : Value) :
    (w.exchangeOf request).response = (w.course request).reported w := by
  rw [Worker.exchangeOf]
  cases hresponse : (w.course request).response w with
  | ok r =>
      exact (reported_of_response hresponse).symm
  | error failure =>
      cases failure with
      | endless =>
          exact (reported_of_endless hresponse).symm
      | raised e =>
          exact (reported_of_raised hresponse).symm

/-- A line that can be read is answered as its value is, with one attempt more at the words for a
failure. -/
theorem answer_of_readLine? {line : String} {data : Json} (h : readLine? line = some data) :
    w.answer line = some ((w.course (.ofJson data)).reported w) := by
  rw [Worker.answer, Worker.exchange, isBlankLine_of_readLine? h, if_neg Bool.false_ne_true, h,
    ← response_exchangeOf]
  rfl

/-! ## Arguments that cannot be decoded -/

/-- If the arguments of a call on the wire are not decoded, one of its parts is not. -/
theorem exists_of_arguments_error {call : WireCall} {e : DecodeError}
    (h : w.arguments call.call = .error e) : ∃ j, Codec.decodeJson w.capabilities j = .error e := by
  rcases error_of_bind h with hargs | ⟨args, -, h⟩
  · obtain ⟨before, v, after, hitems, -, hv⟩ := Codec.decodeList_eq_error.mp hargs
    obtain ⟨j, -, rfl⟩ := List.mem_map.mp (hitems ▸ List.mem_append_cons_self)
    exact ⟨j, hv⟩
  · rcases error_of_bind h with hkwargs | ⟨kwargs, -, h⟩
    · have hentries := map_eq_error.mp hkwargs
      rw [Codec.decodeEntries_mapM] at hentries
      obtain ⟨e', he', hvalue⟩ := exists_of_mapM_error hentries
      obtain ⟨p, -, rfl⟩ := Mapping.mem_mapValues.mp he'
      exact ⟨p.2, map_eq_error.mp hvalue⟩
    · cases h

/-- What goes wrong when the arguments of a request on the wire are decoded has words. -/
theorem describeFailure_of_refused {data : Json} {e : DecodeError}
    (h : w.course (.ofJson data) = .refused e) :
    (Course.refused e).response w = .ok (.failure (e.errorClass.name ++ ": " ++ e.message)) := by
  -- Only a call is refused, and it is by a value of the line.
  have hrefused : ∃ j, Codec.decodeJson w.capabilities j = .error e := by
    rw [Worker.course] at h
    cases hclass : Request.classify (.ofJson data) with
    | invalid e' =>
        rw [hclass] at h
        cases h
    | control command =>
        rw [hclass] at h
        cases h
    | call call =>
        rw [hclass] at h
        obtain ⟨entries, rfl, wire, -, rfl⟩ := Request.classify_ofJson.mp hclass
        change w.callCourse wire.call = .refused e at h
        have hargs : w.arguments wire.call = .error e := by
          rw [Worker.callCourse] at h
          split at h
          · rename_i hargs
            cases h
            exact hargs
          · split at h <;> cases h
        exact exists_of_arguments_error hargs
  obtain ⟨j, hj⟩ := hrefused
  have hclass : e.errorClass ≠ .type ∧ e.errorClass ≠ .range := by
    cases e <;> exact ⟨nofun, nofun⟩
  simp only [Course.response, Course.attempt, Codec.fault_of_decodeJson hj,
    describeFailure_ofError hclass.1 hclass.2]
  rfl

/-! ## Both ways -/

/-- A request has an answer as a value exactly if its course has one. -/
theorem exists_respond_iff (w : Worker) (data : Json) :
    (∃ r, w.respond (.ofJson data) = .ok r) ↔ (w.course (.ofJson data)).Answerable w := by
  rw [Worker.respond]
  cases hc : w.course (.ofJson data) with
  | invalid e =>
      exact iff_of_true ⟨_, rfl⟩ trivial
  | control command =>
      cases command <;> exact iff_of_true ⟨_, rfl⟩ trivial
  | refused e =>
      exact iff_of_true ⟨_, describeFailure_of_refused hc⟩ trivial
  | noModule m =>
      exact iff_of_true ⟨_, rfl⟩ trivial
  | noFunction m f =>
      exact iff_of_true ⟨_, rfl⟩ trivial
  | finished outcome =>
      cases outcome with
      | endless =>
          exact iff_of_false nofun not_false
      | threw v =>
          exact exists_map_ok.trans exists_describeFailure
      | returned v =>
          rw [Course.response, Course.attempt, Course.Answerable]
          -- A result that cannot be written counts as something that was raised.
          cases hv : Codec.encode w.capabilities v with
          | ok j =>
              exact iff_of_true ⟨_, rfl⟩ nofun
          | error failure =>
              cases failure with
              | endless =>
                  refine iff_of_false nofun fun h => ?_
                  obtain ⟨e, he, -⟩ := h .endless rfl
                  cases he
              | raised e =>
                  constructor
                  · rintro h failure ⟨⟩
                    exact ⟨e, rfl, exists_describeFailure.mp (exists_map_ok.mp h)⟩
                  · intro h
                    obtain ⟨e', he, hdescribed⟩ := h (.raised e) rfl
                    cases he
                    exact exists_map_ok.mpr (exists_describeFailure.mpr hdescribed)

/-- A worker with a function that raises an error whose name is a symbol. -/
def renamingWorker : Worker where
  registry := ⟨[("u", [("f", fun _ =>
    .threw (.error .error (.ok (.str "m")) (some (.ok (.symbol "s")))))])]⟩
  capabilities := .full

end LineRpc
