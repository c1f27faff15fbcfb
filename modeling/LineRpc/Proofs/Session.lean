import LineRpc.Proofs.Worker.Calls
import LineRpc.Session

/-!
# Session — every line that has an answer is answered once and in order

A session writes the announcement and then one answer for each line that is not blank. What it has
to write does not depend on the output: a line is answered in the same way wherever it stands, and
an output that breaks only cuts the answers off. Nothing is taken up after the line whose answer was
lost. Not every line has an answer: a callable may never end, and there may be no words for what it
raises. Such a line ends the session too, and the lines behind it are not taken up.

* `OneLine`, `IsReply`   : a mapping on a line, and an answer on a line
* `Session.Answered`     : a line that does not end a session
* `Session.Follows`      : what a session leaves behind of lines
* `Session.follows_loop` : the loop, line by line
* `Session.Leaves`       : what a whole session leaves behind
-/

namespace LineRpc

open Text (NoBreak)

/-! ## Lines on the output -/

/-- A mapping in a text of its own, with the only line end after it. -/
def OneLine (text : String) (entries : Mapping Json) : Prop :=
  ∃ body, text = body ++ "\n" ∧ NoBreak body.toList ∧ Json.parse? body = some (.obj entries)

/-- A mapping with a value, or with an error in words: these have no line end in them and no blank
at their ends. -/
def IsReply (text : String) : Prop :=
  ∃ key value, OneLine text [(key, value)] ∧
    (key = "ok" ∨ key = "error" ∧
      ∃ message, value = .str message ∧ NoBreak message.toList ∧ Text.trim message = message)

/-- A written object is one line that reads back as its settled entries. -/
theorem oneLine_writeLine {es entries : List (String × Json)}
    (h : (Json.obj es).settle = .obj entries) : OneLine (writeLine (.obj es)) entries := by
  refine ⟨(Json.obj es).render, rfl, ?_, ?_⟩
  · rw [Json.render, String.toList_ofList]
    exact Json.noBreak_chars _
  · rw [Json.parse?_render, h]

/-- The first line says what the worker can do. -/
theorem oneLine_readyLine (w : Worker) :
    OneLine w.readyLine [("ready", .bool true), ("arrays", .bool w.capabilities.arrays),
      ("tables", .bool w.capabilities.tables)] := by
  refine oneLine_writeLine (Json.settle_obj_fixed
    (Mapping.ordered_of_keys ["ready", "arrays", "tables"] (by decide +kernel) rfl) ?_)
  intro e he
  fin_cases he <;> rfl

/-! ## One answer -/

/-- The words of an error in an answer stand on one line without blanks at its ends. -/
def Response.Tidy : Response → Prop
  | .ok _ => True
  | .error message => NoBreak message.toList ∧ Text.trim message = message

/-- The words of a failure are on one line. -/
theorem tidy_failure (message : String) : (Response.failure message).Tidy :=
  ⟨Text.noBreak_fold message, Text.trim_fold message⟩

theorem tidy_words {ε α : Type} {words : Except ε α} {f : α → String} {r : Response}
    (h : words.map (fun a => Response.failure (f a)) = .ok r) : r.Tidy := by
  obtain ⟨a, -, rfl⟩ := ok_of_map h
  exact tidy_failure _

/-- What is raised is put in words, which may have line ends. -/
theorem tidy_reported {failure : Fault} {r : Response} (h : failure.reported = .ok r) : r.Tidy := by
  cases failure with
  | endless =>
      cases h
  | raised v =>
      rw [Failure.reported] at h
      split at h
      · cases h
        exact tidy_failure _
      · cases h
      · exact tidy_words h

/-- Whatever becomes of a request, its answer is tidy. -/
theorem tidy_course {w : Worker} {c : Course} {r : Response} (h : c.reported w = .ok r) :
    r.Tidy := by
  rw [Course.reported] at h
  split at h
  · rename_i response hattempt
    cases h
    cases c with
    | invalid e =>
        cases hattempt
        exact tidy_failure _
    | control command =>
        cases command <;> cases hattempt <;> trivial
    | refused e =>
        cases hattempt
    | noModule m =>
        cases hattempt
        exact tidy_failure _
    | noFunction m f =>
        cases hattempt
        exact tidy_failure _
    | finished outcome =>
        cases outcome with
        | returned v =>
            obtain ⟨j, -, rfl⟩ := ok_of_map hattempt
            trivial
        | threw v =>
            cases hattempt
        | endless =>
            cases hattempt
  · exact tidy_reported h

/-- A line has an answer, or something in its stead, unless it is blank. -/
theorem answer_eq_none {w : Worker} {line : String} :
    w.answer line = none ↔ Text.isBlankLine line = true := by
  rw [Worker.answer, Option.map_eq_none_iff, Worker.exchange]
  split
  · rename_i hblank
    exact iff_of_true rfl hblank
  · rename_i hblank
    refine iff_of_false ?_ hblank
    cases readLine? line with
    | none =>
        exact Option.some_ne_none _
    | some j =>
        exact Option.some_ne_none _

/-- The words of every answer to a line are on one line. -/
theorem tidy_answer {w : Worker} {line : String} {r : Response} (h : w.answer line = some (.ok r)) :
    r.Tidy := by
  cases hread : readLine? line with
  | none =>
      rw [Worker.answer, Worker.exchange, hread] at h
      split at h
      · cases h
      · cases h
        exact tidy_failure _
  | some j =>
      rw [answer_of_readLine? hread] at h
      exact tidy_course (Option.some.inj h)

/-- A tidy answer is one reply. -/
theorem isReply_line {r : Response} (h : r.Tidy) : IsReply r.line := by
  cases r with
  | ok value =>
      exact ⟨"ok", value.settle, oneLine_writeLine (Json.settle_single _ _), Or.inl rfl⟩
  | error message =>
      refine ⟨"error", .str message, oneLine_writeLine (Json.settle_single_fixed rfl), Or.inr ?_⟩
      exact ⟨rfl, message, rfl, h⟩

namespace Session

variable {w : Worker} {room : Option Nat} {line : String} {lines : List String}

/-- The answer to a line as it is written, if there is one. -/
def reply? (w : Worker) (line : String) : Option String :=
  match w.answer line with
  | some (.ok r) => some r.line
  | _ => none

/-- A line that has an answer or needs none. -/
def Answered (w : Worker) (line : String) : Prop :=
  ∀ failure, w.answer line ≠ some (.error failure)

/-- All that is due for lines: the announcement, and one answer for each line that is not blank. -/
def replies (w : Worker) (lines : List String) : List String :=
  w.readyLine :: lines.filterMap (reply? w)

/-- An answered line is not due an answer exactly if it is blank. -/
theorem reply?_eq_none (h : Answered w line) :
    reply? w line = none ↔ Text.isBlankLine line = true := by
  rw [← answer_eq_none (w := w), reply?]
  split
  · rename_i r hr
    exact iff_of_false (Option.some_ne_none _) (hr ▸ Option.some_ne_none _)
  · rename_i hno
    refine iff_of_true rfl ?_
    rcases hanswer : w.answer line with _ | failure | r
    · rfl
    · exact absurd hanswer (h failure)
    · exact absurd hanswer (hno r)

theorem isReply_reply {text : String} (h : text ∈ lines.filterMap (reply? w)) : IsReply text := by
  obtain ⟨line, -, hline⟩ := List.mem_filterMap.mp h
  rw [reply?] at hline
  split at hline
  · rename_i r hr
    cases hline
    exact isReply_line (tidy_answer hr)
  · cases hline

/-! ## The output -/

/-- The texts that an output accepts: the first so many, or all without a limit. -/
def accepted (room : Option Nat) (texts : List String) : List String :=
  match room with
  | none => texts
  | some k => texts.take k

/-- Whether there are more texts than an output accepts. -/
def Overflows (room : Option Nat) (texts : List String) : Prop :=
  ∃ k, room = some k ∧ k < texts.length

variable {left : Option Nat} {text : String} {texts : List String}

theorem accepted_nil : accepted room [] = [] := by
  cases room with
  | none =>
      rfl
  | some k =>
      exact List.take_nil

/-- Only what was offered is accepted. -/
theorem mem_of_mem_accepted (h : text ∈ accepted room texts) : text ∈ texts := by
  cases room with
  | none =>
      exact h
  | some k =>
      exact List.mem_of_mem_take h

theorem not_overflows_nil : ¬ Overflows room [] := by
  rintro ⟨k, -, hk⟩
  exact absurd hk (Nat.not_lt_zero k)

theorem room_of_spend (h : spend room = some left) : room = left.map (· + 1) := by
  cases room with
  | none =>
      cases h
      rfl
  | some k =>
      cases k with
      | zero =>
          cases h
      | succ k =>
          cases h
          rfl

theorem room_of_spend_none (h : spend room = none) : room = some 0 := by
  cases room with
  | none =>
      cases h
  | some k =>
      cases k with
      | zero =>
          rfl
      | succ k =>
          cases h

/-- While there is room the next line is accepted. -/
theorem accepted_cons (h : spend room = some left) :
    accepted room (text :: texts) = text :: accepted left texts := by
  rw [room_of_spend h]
  cases left <;> rfl

/-- A line that fits leaves the overflow to the others. -/
theorem overflows_cons (h : spend room = some left) :
    Overflows room (text :: texts) ↔ Overflows left texts := by
  rw [room_of_spend h]
  constructor
  · rintro ⟨k, hleft, hk⟩
    rcases Option.map_eq_some_iff.mp hleft with ⟨k', rfl, rfl⟩
    exact ⟨k', rfl, Nat.lt_of_succ_lt_succ hk⟩
  · rintro ⟨k, rfl, hk⟩
    exact ⟨k + 1, rfl, Nat.succ_lt_succ hk⟩

theorem write_of_spend {next : Option Nat → Transcript} (h : spend room = some left) :
    write room text next = { next left with written := text :: (next left).written } := by
  rw [write, h]

/-! ## The loop -/

/-- A session goes no farther: there are no more lines, or there is no answer to the first of them.
-/
inductive Halts (w : Worker) : List String → Ending → Prop
  | closed : Halts w [] .closed
  | failed {line : String} {after : List String} {failure : Fault}
      (unanswered : w.answer line = some (.error failure)) : Halts w (line :: after) (.failed failure)

/-- What is left behind of lines that are answered and of others at which a session halts: the
answers that the output accepts are written. If the output breaks, then the line that was taken up
last is the one whose answer was lost; else all answered lines were taken up, and the one that has
no answer. -/
structure Follows (w : Worker) (room : Option Nat) (heard rest : List String) (ending : Ending)
    (t : Transcript) : Prop where
  written : t.written = accepted room (heard.filterMap (reply? w))
  complete : ¬ Overflows room (heard.filterMap (reply? w)) →
    t.ending = ending ∧ t.taken = heard ++ rest.take 1
  broken : Overflows room (heard.filterMap (reply? w)) → t.ending = .broken ∧
    ∃ before line after, heard = before ++ line :: after ∧ (∃ r, w.answer line = some (.ok r)) ∧
      room = some (before.filterMap (reply? w)).length ∧ t.taken = before ++ [line]

variable {heard rest : List String} {ending : Ending} {e : Exchange} {t : Transcript}

/-- A blank line has no reply. -/
theorem reply?_blank (h : w.exchange line = none) : reply? w line = none := by
  rw [reply?, Worker.answer, h]
  rfl

theorem answer_of_response {r : Response} (h : w.exchange line = some e) (hr : e.response = .ok r) :
    w.answer line = some (.ok r) := by
  rw [Worker.answer, h, Option.map_some, hr]

/-- A line whose exchange ends has its answer for a reply. -/
theorem reply?_response {r : Response} (h : w.exchange line = some e) (hr : e.response = .ok r) :
    reply? w line = some r.line := by
  rw [reply?, answer_of_response h hr]

/-- An answered line that is not blank has an answer. -/
theorem response_of_answered (h : w.exchange line = some e) (ha : Answered w line) :
    ∃ r, e.response = .ok r := by
  cases hr : e.response with
  | ok r =>
      exact ⟨r, rfl⟩
  | error failure =>
      refine absurd ?_ (ha failure)
      rw [Worker.answer, h, Option.map_some, hr]

/-- Where a session halts nothing is written. -/
theorem follows_halts (h : Halts w rest ending) :
    Follows w room [] rest ending (loop w room rest) := by
  have hroom : ¬ Overflows room [] := not_overflows_nil
  cases h with
  | closed =>
      exact ⟨accepted_nil.symm, fun _ => ⟨rfl, rfl⟩, fun ho => absurd ho hroom⟩
  | @failed line after failure unanswered =>
      obtain ⟨e, he, hr⟩ := Option.map_eq_some_iff.mp unanswered
      rw [loop, he]
      simp only [hr]
      exact ⟨accepted_nil.symm, fun _ => ⟨rfl, rfl⟩, fun ho => absurd ho hroom⟩

/-- A blank line is taken up and nothing else comes of it. -/
theorem follows_blank (h : w.exchange line = none) (ht : Follows w room heard rest ending t) :
    Follows w room (line :: heard) rest ending (take line t) := by
  have hreplies : (line :: heard).filterMap (reply? w) = heard.filterMap (reply? w) :=
    List.filterMap_cons_none (reply?_blank h)
  refine ⟨?_, ?_, ?_⟩
  · rw [hreplies]
    exact ht.written
  · rw [hreplies]
    intro hroom
    obtain ⟨hending, htaken⟩ := ht.complete hroom
    refine ⟨hending, ?_⟩
    rw [take, htaken]
    rfl
  · rw [hreplies]
    intro hroom
    -- The blank line goes in front and adds no answer.
    obtain ⟨hending, before, last, after, rfl, hlast, hleft, htaken⟩ := ht.broken hroom
    refine ⟨hending, line :: before, last, after, rfl, hlast, ?_, ?_⟩
    · rw [List.filterMap_cons_none (reply?_blank h)]
      exact hleft
    · rw [take, htaken]
      rfl

/-- An answer that the output does not accept is the end. -/
theorem follows_full {r : Response} {next : Option Nat → Transcript} (h : w.exchange line = some e)
    (hr : e.response = .ok r) :
    Follows w (some 0) (line :: heard) rest ending
      (take line (say e.notes (write (some 0) r.line next))) := by
  have hfull : Overflows (some 0) ((line :: heard).filterMap (reply? w)) := by
    refine ⟨0, rfl, ?_⟩
    rw [List.filterMap_cons_some (reply?_response h hr)]
    exact Nat.succ_pos _
  refine ⟨rfl, fun hroom => absurd hfull hroom, fun _ => ⟨rfl, ?_⟩⟩
  exact ⟨[], line, heard, rfl, ⟨r, answer_of_response h hr⟩, rfl, rfl⟩

/-- An answer that the output accepts is written before all that follows. -/
theorem follows_answer {r : Response} {left : Option Nat} {next : Option Nat → Transcript}
    (h : w.exchange line = some e) (hr : e.response = .ok r) (hs : spend room = some left)
    (ht : Follows w left heard rest ending (next left)) :
    Follows w room (line :: heard) rest ending
      (take line (say e.notes (write room r.line next))) := by
  have hreplies : (line :: heard).filterMap (reply? w) = r.line :: heard.filterMap (reply? w) :=
    List.filterMap_cons_some (reply?_response h hr)
  rw [write_of_spend hs]
  refine ⟨?_, ?_, ?_⟩
  · rw [hreplies, accepted_cons hs, ← ht.written]
    rfl
  · rw [hreplies, overflows_cons hs]
    intro hroom
    obtain ⟨hending, htaken⟩ := ht.complete hroom
    refine ⟨hending, ?_⟩
    change line :: (next left).taken = _
    rw [htaken]
    rfl
  · rw [hreplies, overflows_cons hs]
    intro hroom
    -- The line goes in front and adds one answer, for which there was room.
    obtain ⟨hending, before, last, after, rfl, hlast, hleft, htaken⟩ := ht.broken hroom
    refine ⟨hending, line :: before, last, after, rfl, hlast, ?_, ?_⟩
    · rw [room_of_spend hs, hleft, List.filterMap_cons_some (reply?_response h hr)]
      rfl
    · change line :: (next left).taken = _
      rw [htaken]
      rfl

/-- The loop answers the lines it heard, in order, and then does as its last line makes it. -/
theorem follows_loop (hheard : ∀ line ∈ heard, Answered w line) (hrest : Halts w rest ending)
    (room : Option Nat) : Follows w room heard rest ending (loop w room (heard ++ rest)) := by
  -- What is left of the room changes from line to line.
  induction heard generalizing room with
  | nil =>
      exact follows_halts hrest
  | cons line heard ih =>
      obtain ⟨hline, hothers⟩ := List.forall_mem_cons.mp hheard
      rw [List.cons_append, loop]
      cases h : w.exchange line with
      | none =>
          exact follows_blank h (ih hothers room)
      | some e =>
          obtain ⟨r, hr⟩ := response_of_answered h hline
          simp only [hr]
          cases hs : spend room with
          | some left =>
              exact follows_answer h hr hs (ih hothers left)
          | none =>
              rw [room_of_spend_none hs]
              exact follows_full h hr

/-! ## A whole session -/

/-- Some lines are answered, and a session halts at the others. -/
theorem exists_halts (w : Worker) (lines : List String) :
    ∃ heard rest ending, lines = heard ++ rest ∧ (∀ line ∈ heard, Answered w line) ∧
      Halts w rest ending := by
  induction lines with
  | nil =>
      exact ⟨[], [], .closed, rfl, nofun, .closed⟩
  | cons line lines ih =>
      by_cases h : Answered w line
      · obtain ⟨heard, rest, ending, rfl, hheard, hrest⟩ := ih
        exact ⟨line :: heard, rest, ending, rfl, List.forall_mem_cons.mpr ⟨h, hheard⟩, hrest⟩
      · rw [Answered, not_forall] at h
        obtain ⟨failure, h⟩ := h
        exact ⟨[], line :: lines, .failed failure, rfl, nofun, .failed (not_not.mp h)⟩

/-- What a session leaves behind of lines that are answered and of others at which it halts: as much
as the output accepts of the announcement and of one answer for each answered line that is not
blank. If the output accepts all of this, the session takes up every line that is answered and the
one that has no answer, and ends as it must there. If it does not, the session ends with the output,
and nothing is taken up after the line whose answer was lost, and no line at all if the announcement
was lost. -/
structure Leaves (w : Worker) (room : Option Nat) (heard rest : List String) (ending : Ending)
    (t : Transcript) : Prop where
  written : t.written = accepted room (replies w heard)
  complete : ¬ Overflows room (replies w heard) → t.ending = ending ∧ t.taken = heard ++ rest.take 1
  broken : Overflows room (replies w heard) → t.ending = .broken ∧
    ((room = some 0 ∧ t.taken = []) ∨
      ∃ before line after, heard = before ++ line :: after ∧ (∃ r, w.answer line = some (.ok r)) ∧
        room = some (replies w before).length ∧ t.taken = before ++ [line])

theorem run_of_spend (hs : spend room = some left) :
    run w room lines =
      { loop w left lines with
        written := w.readyLine :: (loop w left lines).written
        notes := .ofMessage .info "bridge ready" :: (loop w left lines).notes } := by
  rw [run, write_of_spend hs]
  rfl

/-- A whole run is the line of readiness and then the loop. -/
theorem leaves_run (hheard : ∀ line ∈ heard, Answered w line) (hrest : Halts w rest ending)
    (room : Option Nat) : Leaves w room heard rest ending (run w room (heard ++ rest)) := by
  cases hs : spend room with
  | none =>
      rw [room_of_spend_none hs]
      have hfull : Overflows (some 0) (replies w heard) := ⟨0, rfl, Nat.succ_pos _⟩
      exact ⟨rfl, fun hroom => absurd hfull hroom, fun _ => ⟨rfl, Or.inl ⟨rfl, rfl⟩⟩⟩
  | some left =>
      have hloop := follows_loop hheard hrest left
      rw [run_of_spend hs]
      refine ⟨?_, ?_, ?_⟩
      · rw [hloop.written]
        exact (accepted_cons hs).symm
      · rw [replies, overflows_cons hs]
        exact hloop.complete
      · -- The announcement was written, so one of the answers was lost.
        rw [replies, overflows_cons hs]
        intro hroom
        obtain ⟨hending, before, line, after, hsplit, hline, hleft, htaken⟩ := hloop.broken hroom
        refine ⟨hending, Or.inr ⟨before, line, after, hsplit, hline, ?_, htaken⟩⟩
        rw [room_of_spend hs, hleft]
        rfl

/-- Every text that is due is one mapping on one line. -/
theorem oneLine_of_replies (h : text ∈ replies w lines) : ∃ entries, OneLine text entries := by
  rcases List.mem_cons.mp h with rfl | hreply
  · exact ⟨_, oneLine_readyLine w⟩
  · obtain ⟨key, value, hline, -⟩ := isReply_reply hreply
    exact ⟨_, hline⟩

/-- Every accepted text after the first is an answer. -/
theorem isReply_of_accepted (h : text ∈ (accepted room (replies w lines)).tail) :
    IsReply text := by
  cases room with
  | none =>
      exact isReply_reply h
  | some k =>
      cases k with
      | zero =>
          cases h
      | succ k =>
          exact isReply_reply (List.mem_of_mem_take h)

/-- A function that raises an error whose message cannot be had: reading it raises another error,
whose message cannot be had either. -/
def wordless : Callable := fun _ =>
  .threw (.error .error (.error (.raised
    (.error .error (.error (.raised (.str "no"))) none))) none)

def wordlessWorker : Worker where
  registry := ⟨[("m", [("f", wordless)])]⟩
  capabilities := .full

/-- A thrown value whose text cannot be had leaves the worker without an answer. -/
theorem answer_wordless : wordlessWorker.answer smallLine = some (.error (.raised (.str "no"))) := by
  rw [smallLine, answer_of_readLine? (readLine?_writeLine _)]
  rfl

end Session
end LineRpc
