import LineRpc.Client
import LineRpc.Proofs.Json.Strings
import LineRpc.Proofs.Session
import LineRpc.Proofs.Text.Lines
import LineRpc.Proofs.Text.Utf8

/-!
# Framing — what readers make of a request

Whatever a client calls, and whatever it gives, the request that it writes is one line for a worker,
however its octets arrive, and the line is not blank. A worker that has an answer for it writes the
answer after its announcement and nothing else.

A text may hold characters that some readers take for line ends too, such as U+2028 and U+2029. They
are written as they are, so a reader that ends lines at them cuts the request at every one of them
that stands in a string of its envelope: in the names, in a key or in a text.

* `Client.linesOf_body`        : the line of a request
* `Client.separators`          : characters that separate lines elsewhere
* `Client.words_envelope`      : the strings of a request
* `Client.request_is_one_line` : the line, its answer, and the readers that see it as one line
-/

namespace LineRpc

open Text (NoBreak)

namespace Session

variable {w : Worker} {line : String}

theorem not_overflows_none (texts : List String) : ¬ Overflows none texts := by
  rintro ⟨k, hk, -⟩
  cases hk

/-- A worker that is given one line with an answer writes the answer and takes the line up. -/
theorem run_one {r : Response} (h : w.answer line = some (.ok r)) :
    (run w none [line]).written = [w.readyLine, r.line] ∧ (run w none [line]).taken = [line] ∧
      (run w none [line]).ending = .closed := by
  have hanswered : ∀ l ∈ [line], Answered w l := by
    intro l hl failure hfailure
    rw [List.mem_singleton.mp hl, h] at hfailure
    cases hfailure
  have hrun : Leaves w none [line] [] .closed (run w none [line]) :=
    leaves_run hanswered .closed none
  obtain ⟨hending, htaken⟩ := hrun.complete (not_overflows_none _)
  refine ⟨?_, htaken, hending⟩
  have hreply : reply? w line = some r.line := by
    rw [reply?, h]
  rw [hrun.written, replies, List.filterMap_cons_some hreply]
  rfl

/-- Where the one line has no answer, nothing is written but the announcement. -/
theorem run_one_failed {failure : Fault} (h : w.answer line = some (.error failure)) :
    (run w none [line]).written = [w.readyLine] ∧ (run w none [line]).taken = [line] ∧
      (run w none [line]).ending = .failed failure := by
  have hrun : Leaves w none [] [line] (.failed failure) (run w none [line]) :=
    leaves_run (List.forall_mem_nil _) (.failed h) none
  obtain ⟨hending, htaken⟩ := hrun.complete (not_overflows_none _)
  exact ⟨hrun.written, htaken, hending⟩

end Session

namespace Client

variable {caps : Capabilities} {m f : String} {args : List Value} {kwargs : Value}

/-! ## The line of a request -/

/-- A rendered document has no line break of its own. -/
theorem noBreak_render (j : Json) : NoBreak j.render.toList := by
  rw [Json.render, String.toList_ofList]
  exact Json.noBreak_chars j

theorem isBlankLine_render (j : Json) : Text.isBlankLine j.render = false := by
  obtain ⟨htrimmed, hne⟩ := Json.trimmed_chars j
  cases hchars : j.chars with
  | nil =>
      exact absurd hchars hne
  | cons c cs =>
      have hc : Text.isBlank c = false := htrimmed.first c (by simp [hchars])
      simp [Text.isBlankLine, Json.render, hchars, hc]

theorem toList_line (body : String) : (body ++ "\n").toList = body.toList ++ ['\n'] :=
  String.toList_append

/-- However the octets of a line arrive, they are read as that line. -/
theorem linesOf_line {body : String} (hbody : NoBreak body.toList) {pieces : List Octets}
    (h : pieces.flatten = Utf8.encode (body ++ "\n")) : Session.linesOf pieces = [body] := by
  have hwhole : Utf8.whole pieces.flatten = Utf8.encode (body ++ "\n") := by
    rw [h]
    exact Utf8.whole_line body
  rw [Session.linesOf, hwhole, Utf8.decodeChars_encode, toList_line, lines_line hbody,
    String.ofList_toList]

/-! ## Further line ends -/

/-- The characters that separate lines and paragraphs elsewhere. -/
def separators (c : Char) : Bool :=
  c == '\u2028' || c == '\u2029'

/-- The two separators of Unicode lie outside ASCII. -/
theorem beyondAscii_separators : Json.BeyondAscii separators := by
  intro c hc
  rw [separators, Bool.or_eq_true, beq_iff_eq, beq_iff_eq] at hc
  rcases hc with rfl | rfl <;> decide

/-- They end no line in a text exactly if it has neither of them. -/
theorem forall_separators_iff {cs : List Char} :
    (∀ c ∈ cs, separators c = false) ↔ '\u2028' ∉ cs ∧ '\u2029' ∉ cs := by
  simp only [separators, Bool.or_eq_false_iff, beq_eq_false_iff_ne]
  constructor
  · exact fun h => ⟨fun hc => (h _ hc).1 rfl, fun hc => (h _ hc).2 rfl⟩
  · rintro ⟨hfirst, hsecond⟩ c hc
    exact ⟨fun heq => hfirst (heq ▸ hc), fun heq => hsecond (heq ▸ hc)⟩

/-- The strings of a request: the names of its fields, the names of the callable, and the strings of
what it is given. -/
theorem words_envelope {j : Json} (h : envelope caps m f args kwargs = .ok j) :
    ∃ a, Codec.encode caps (.list args) = .ok a ∧
      ((hasKeywords kwargs = false ∧ j.words = ["m", m, "f", f, "a"] ++ a.words) ∨
        ∃ k, hasKeywords kwargs = true ∧ Codec.encode caps kwargs = .ok k ∧
          j.words = ["m", m, "f", f, "a"] ++ a.words ++ "k" :: k.words) := by
  obtain ⟨a, ha, h⟩ := ok_of_bind h
  refine ⟨a, ha, ?_⟩
  cases hk : hasKeywords kwargs with
  | false =>
      rw [hk] at h
      cases h
      exact Or.inl ⟨rfl, by simp [Json.words, Json.entryWords]⟩
  | true =>
      rw [hk] at h
      obtain ⟨k, hencoded, h⟩ := ok_of_bind h
      cases h
      exact Or.inr ⟨k, rfl, hencoded, by simp [Json.words, Json.entryWords]⟩

/-! ## Requests -/

/-- What a client writes for a call is a text with a line end after it. A worker reads the text as
one line that is not blank, in whatever pieces the octets arrive; if it has an answer, it writes the
announcement and the answer, and if it has none, the announcement only. A reader with further line
ends reads the same line exactly if none of them stands in it. If they are not ASCII, as separators
are, it reads one line more for each of them in the strings of the envelope, so the text is one line
for it exactly if none of these strings has one. -/
theorem request_is_one_line {text : String} (h : request caps m f args kwargs = .ok text) :
    ∃ j body, envelope caps m f args kwargs = .ok j ∧ text = body ++ "\n" ∧
      Text.isBlankLine body = false ∧
      (∀ pieces : List Octets, pieces.flatten = Utf8.encode text → Session.linesOf pieces = [body]) ∧
      (∀ ends, linesAt ends text.toList = [body] ↔ ∀ c ∈ body.toList, ends c = false) ∧
      (linesAt separators text.toList = [body] ↔
        ∀ s ∈ j.words, '\u2028' ∉ s.toList ∧ '\u2029' ∉ s.toList) ∧
      (∀ ends, Json.BeyondAscii ends →
        (linesAt ends text.toList).length = Json.tally ends j.words + 1) ∧
      ∀ w : Worker,
        (∀ r, w.answer body = some (.ok r) →
          (Session.run w none [body]).written = [w.readyLine, r.line] ∧
            (Session.run w none [body]).taken = [body] ∧
            (Session.run w none [body]).ending = .closed) ∧
        ∀ failure, w.answer body = some (.error failure) →
          (Session.run w none [body]).written = [w.readyLine] ∧
            (Session.run w none [body]).taken = [body] ∧
            (Session.run w none [body]).ending = .failed failure := by
  obtain ⟨j, hj, rfl⟩ := ok_of_map h
  have hbody := noBreak_render j
  -- What is counted in the text is counted in the strings, since nothing else in it is beyond
  -- ASCII.
  have hcount (ends : Char → Bool) (hends : Json.BeyondAscii ends) :
      j.render.toList.countP ends = Json.tally ends j.words := by
    rw [Json.render, String.toList_ofList, Json.countP_chars hends]
  have hline (ends : Char → Bool) : linesAt ends (j.render ++ "\n").toList = [j.render] ↔
      ∀ c ∈ j.render.toList, ends c = false := by
    have hends := linesAt_line_iff ends hbody
    rwa [String.ofList_toList, ← toList_line] at hends
  refine ⟨j, j.render, hj, rfl, isBlankLine_render j, ?pieces, hline, ?cut, ?count, ?answer⟩
  case pieces =>
    intro pieces hpieces
    exact linesOf_line hbody hpieces
  case cut =>
    have hnone : (∀ c ∈ j.render.toList, separators c = false) ↔
        ∀ s ∈ j.words, ∀ c ∈ s.toList, separators c = false := by
      rw [← Json.tally_eq_zero, ← hcount separators beyondAscii_separators, List.countP_eq_zero]
      simp only [Bool.not_eq_true]
    exact (hline separators).trans (hnone.trans (forall₂_congr fun s _ => forall_separators_iff))
  case count =>
    intro ends hends
    rw [← hcount ends hends, ← length_linesAt_line ends hbody, ← toList_line]
    rfl
  case answer =>
    exact fun w => ⟨fun r => Session.run_one, fun failure => Session.run_one_failed⟩

/-- A request with no arguments is written. -/
theorem request_plain (m f : String) :
    request .full m f [] (.mapping []) =
      .ok (writeLine (.obj [("m", .str m), ("f", .str f), ("a", .arr [])])) :=
  rfl

/-- A call of a function without arguments, where no name has a separator. -/
theorem request_is_one_line_sample :
    ∃ text body, request .full "math" "pi" [] (.mapping []) = .ok text ∧
      linesAt separators text.toList = [body] := by
  obtain ⟨j, body, hj, -, -, -, -, hcut, -⟩ := request_is_one_line (request_plain "math" "pi")
  refine ⟨_, body, request_plain _ _, hcut.mpr ?_⟩
  cases hj
  decide

/-- A worker without callables answers every line. -/
theorem answered_empty (caps : Capabilities) (line : String) :
    Session.Answered ⟨.empty, caps⟩ line := by
  intro failure h
  cases hread : readLine? line with
  | none =>
      rw [Worker.answer, Worker.exchange, hread] at h
      split at h <;> cases h
  | some data =>
      -- No callable is reached, so nothing can be raised.
      have hanswerable : (Worker.course ⟨.empty, caps⟩ (.ofJson data)).Answerable ⟨.empty, caps⟩ := by
        rw [Worker.course]
        cases Request.classify (.ofJson data) with
        | invalid e | control c =>
            trivial
        | call call =>
            dsimp only
            rw [Worker.callCourse]
            cases Worker.arguments ⟨.empty, caps⟩ call <;> trivial
      obtain ⟨r, hr⟩ := (exists_respond_iff ⟨.empty, caps⟩ data).mpr hanswerable
      rw [answer_of_readLine? hread, reported_of_response hr] at h
      cases h

/-- A reader that ends lines at separators cuts a request whose module has one in its name, and its
worker gives two answers. -/
theorem request_separator :
    ∃ text, request .full "\u2028" "f" [] (.mapping []) = .ok text ∧
      linesAt separators text.toList = ["\x7b\"m\":\"", "\",\"f\":\"f\",\"a\":[]\x7d"] ∧
      (Session.run ⟨.empty, .full⟩ none (linesAt separators text.toList)).written.length = 3 := by
  have hlines : linesAt separators
      (writeLine (.obj [("m", .str "\u2028"), ("f", .str "f"), ("a", .arr [])])).toList =
        ["\x7b\"m\":\"", "\",\"f\":\"f\",\"a\":[]\x7d"] := by
    rfl
  -- Both pieces are answered, though neither is a request.
  have hreply (line : String) (h : Text.isBlankLine line = false) :
      ∃ text, Session.reply? ⟨.empty, .full⟩ line = some text := by
    refine Option.ne_none_iff_exists'.mp fun hnone => ?_
    have hblank := (Session.reply?_eq_none (answered_empty .full line)).mp hnone
    cases h.symm.trans hblank
  obtain ⟨first, hfirst⟩ := hreply "\x7b\"m\":\"" rfl
  obtain ⟨second, hsecond⟩ := hreply "\",\"f\":\"f\",\"a\":[]\x7d" rfl
  refine ⟨_, request_plain _ _, hlines, ?_⟩
  have hrun := Session.leaves_run (fun line (_ : line ∈ ["\x7b\"m\":\"",
    "\",\"f\":\"f\",\"a\":[]\x7d"]) => answered_empty .full line) .closed none
  rw [List.append_nil] at hrun
  rw [hlines, hrun.written, Session.replies, List.filterMap_cons_some hfirst,
    List.filterMap_cons_some hsecond]
  rfl

end Client
end LineRpc
