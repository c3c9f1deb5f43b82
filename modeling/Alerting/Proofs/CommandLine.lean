import Alerting.CommandLine
import Alerting.Proofs.Json.Line
import Alerting.Proofs.Text

/-!
# Requests do not see each other

A session handles one line after the other, and what it writes for a line is on a line of its own.

* `CommandLine.Session.settings_step`, `CommandLine.Session.written_step` : one line leaves the
  settings as they are, and adds its reply to what has been written.
* `CommandLine.Session.settings_run`, `CommandLine.Session.written_run` : so do any number of lines.
* `CommandLine.answers_eq` : one line is written for each line that is not blank.
* `CommandLine.requests_isolated` : what is written for a request depends on nothing but the
  request, whatever lines stand around it and whether or not they fail.
-/

namespace Alerting

namespace CommandLine

/-! ### One line -/

/-- What a session with some settings writes for a line. -/
def reply (settings : Config) (line : String) : String :=
  if Text.isBlankText line then ""
  else (answer settings (Text.trim line.toList)).compact ++ "\n"

namespace Session

variable {s : Session} {line : String} {lines : List String}

theorem step_eq : s.step line = { s with written := s.written ++ reply s.settings line } := by
  unfold step reply
  dsimp only
  rw [Text.isEmpty_trim]
  split
  · simp
  · simp [writeLine, String.append_assoc]

theorem settings_step : (s.step line).settings = s.settings := by rw [step_eq]

theorem written_step : (s.step line).written = s.written ++ reply s.settings line := by
  rw [step_eq]

/-! ### A run -/

theorem settings_run : (s.run lines).settings = s.settings := by
  induction lines generalizing s with
  | nil => rfl
  | cons line lines ih => exact ih.trans settings_step

theorem written_run :
    (s.run lines).written = s.written ++ String.join (lines.map (reply s.settings)) := by
  induction lines generalizing s with
  | nil => simp [run]
  | cons line lines ih =>
    show ((s.step line).run lines).written = _
    rw [ih, settings_step, written_step, String.append_assoc]
    simp

end Session

/-! ### Lines that are written -/

/-- The lines that are not blank. -/
def requests (lines : List String) : List String := lines.filter fun l => !Text.isBlankText l

/-- The line that answers a request. -/
def response (line : String) : String := (answer .initial (Text.trim line.toList)).compact

/-- Each reply is a line of its own. -/
theorem lines_replies (lines : List String) :
    Text.lines (String.join (lines.map (reply .initial))).toList =
      ((requests lines).map response).map String.toList := by
  induction lines with
  | nil => rfl
  | cons line lines ih =>
    rw [List.map_cons, String.join_cons, String.toList_append, requests, List.filter_cons]
    cases hblank : Text.isBlankText line with
    | true =>
      have hreply : reply .initial line = "" := by simp [reply, hblank]
      rw [hreply]
      exact ih
    | false =>
      have hreply : (reply .initial line).toList =
          (answer .initial (Text.trim line.toList)).compactText ++ ['\n'] := by
        simp [reply, hblank, Json.compact]
      rw [hreply, List.append_assoc, List.singleton_append,
        Text.lines_append_newLine (Json.newLine_notMem_compactText _), ih]
      simp [response, Json.compact, requests]

/-- One line is written for each line that is not blank, in their order. -/
theorem answers_eq (lines : List String) : answers lines = (requests lines).map response := by
  unfold answers
  rw [Session.written_run]
  show (Text.lines ("" ++ String.join (lines.map (reply .initial))).toList).map _ = _
  rw [String.empty_append, lines_replies]
  simp

example : answers [" ", "[", "[\"build_schedule\", \"hourly\"]"] =
    ["\x7b\"error\":true,\"message\":\"json parse\"\x7d", "null"] := by
  decide +kernel

/-! ### Errors -/

section Errors

variable {settings : Config} {line : List Char} {r : Request} {e : CompileError}

theorem answer_of_none (h : request? line = none) :
    answer settings line = failure "json parse" none := by
  unfold answer
  rw [h]

theorem answer_of_error (h : request? line = some r) (he : r.result settings = .error e) :
    answer settings line = refusal e := by
  unfold answer
  simp only [h, he]

theorem error_refusal (e : CompileError) : (refusal e).get? "error" = some (.bool true) := by
  cases e <;> rfl

/-- Only what validation objects to has a field. -/
theorem field_refusal (e : CompileError) :
    (refusal e).get? "field" = match e with
      | .invalid v => some (.str v.field)
      | _ => none := by
  cases e <;> rfl

theorem isSome_field_refusal (e : CompileError) :
    ((refusal e).get? "field").isSome = true ↔ ∃ v, e = .invalid v := by
  rw [field_refusal]
  cases e <;> simp

end Errors

/-- A line is read from its characters. -/
theorem request?_eq (line : List Char) :
    request? line =
      (Json.parseWhole? (Json.readValue Json.maxDepth (2 * line.length + 1)) line).bind
        Request.ofJson? := by
  rw [request?, Json.parse?, String.toList_ofList, String.length_ofList]

/-! ### Isolation -/

/-- **Requests do not see each other.**  One line is written for each line that is not blank, in
their order; requests that are equal are answered by equal lines, wherever they stand and whatever
stands around them; no request changes the settings; and a request that fails is answered by an
error, which has a field exactly if validation objects. -/
theorem requests_isolated :
    (∀ lines, answers lines = (requests lines).map response) ∧
      (∀ (lines lines' : List String) (k k' : Nat),
        (requests lines)[k]? = (requests lines')[k']? →
          (answers lines)[k]? = (answers lines')[k']?) ∧
      (∀ lines, (Session.start.run lines).settings = .initial) ∧
      (∀ line, request? line = none →
        (answer .initial line).get? "error" = some (.bool true) ∧
          (answer .initial line).get? "field" = none) ∧
      ∀ line r e, request? line = some r → r.result .initial = .error e →
        (answer .initial line).get? "error" = some (.bool true) ∧
          (((answer .initial line).get? "field").isSome = true ↔ ∃ v, e = .invalid v) := by
  refine ⟨answers_eq, ?_, fun _ => Session.settings_run, ?_, ?_⟩
  · intro lines lines' k k' h
    rw [answers_eq, answers_eq, List.getElem?_map, List.getElem?_map, h]
  · intro line h
    rw [answer_of_none h]
    exact ⟨rfl, rfl⟩
  · intro line r e h he
    rw [answer_of_error h he]
    exact ⟨error_refusal e, isSome_field_refusal e⟩

/-- A request with settings of its own and the same request without, a query that is not JSON text,
and a line that is not. -/
theorem requests_isolated_ownSettings :
    let form : Json := .obj [("name", .str "m"), ("timeField", .str "t"),
      ("where", .obj [("fieldName", .arr [.obj [("label", .str "a")]])])]
    let own := (Json.obj [("op", .str "compile_monitor"), ("monitor", form),
      ("config", .obj [("max_where_filters", .nat 0)])]).compact
    let plain := (Json.obj [("op", .str "compile_monitor"), ("monitor", form)]).compact
    let query := (Json.obj [("op", .str "compile_monitor"), ("monitor", .obj [("name", .str "m"),
      ("searchType", .str "query"), ("query", .str "]")])]).compact
    let lines := [own, " ", plain, query, "["]
    let settings : Config := { Config.initial with maxWhereFilters := 0 }
    let valueless : MonitorForm := { MonitorForm.initial with
      name := "m"
      search := { Search.initial with
        timeField := "t"
        filter := { Where.Clause.initial with fields := [⟨"a", none⟩] } } }
    let unreadable : MonitorForm := { MonitorForm.initial with
      name := "m"
      search := { Search.initial with kind := .query }
      query := "]" }
    answers lines = [own, plain, query, "["].map response ∧
      (answers lines)[1]? = (answers [plain])[0]? ∧
      (Session.start.run lines).settings = .initial ∧
      (request? own.toList = some (.compileMonitor valueless [] (some settings)) ∧
        (Request.compileMonitor valueless [] (some settings)).result .initial =
          .error (.invalid (.tooManyFields 0)) ∧
        ((answer .initial own.toList).get? "field").isSome = true) ∧
      (request? plain.toList = some (.compileMonitor valueless [] none) ∧
        (Request.compileMonitor valueless [] none).result .initial =
          .error (.invalid .valueMissing) ∧
        ((answer .initial plain.toList).get? "field").isSome = true) ∧
      (request? query.toList = some (.compileMonitor unreadable [] none) ∧
        (Request.compileMonitor unreadable [] none).result .initial = .error .querySyntax ∧
        ((answer .initial query.toList).get? "field").isSome = false) ∧
      request? "[".toList = none ∧ (answer .initial "[".toList).get? "field" = none := by
  intro form own plain query lines settings valueless unreadable
  obtain ⟨hanswers, hsame, hsettings, hnone, herror⟩ := requests_isolated
  have hown : own.toList = _ := String.toList_ofList
  have hplain : plain.toList = _ := String.toList_ofList
  have hquery : query.toList = _ := String.toList_ofList
  have hrequests : requests lines = [own, plain, query, "["] := by
    simp only [requests, Text.isBlankText, lines, List.filter_cons, hown, hplain, hquery]
    decide +kernel
  have hrequest : requests [plain] = [plain] := by
    simp only [requests, Text.isBlankText, List.filter_cons, hplain]
    decide +kernel
  have hreadOwn : request? own.toList = some (.compileMonitor valueless [] (some settings)) := by
    rw [request?_eq, hown]
    decide +kernel
  have hreadPlain : request? plain.toList = some (.compileMonitor valueless [] none) := by
    rw [request?_eq, hplain]
    decide +kernel
  have hreadQuery : request? query.toList = some (.compileMonitor unreadable [] none) := by
    rw [request?_eq, hquery]
    decide +kernel
  have hreadOpen : request? "[".toList = none := by decide +kernel
  have hlimited : (Request.compileMonitor valueless [] (some settings)).result .initial =
      .error (.invalid (.tooManyFields 0)) := by
    decide +kernel
  have hvalueless : (Request.compileMonitor valueless [] none).result .initial =
      .error (.invalid .valueMissing) := by
    decide +kernel
  have hunreadable : (Request.compileMonitor unreadable [] none).result .initial =
      .error .querySyntax := by
    decide +kernel
  refine ⟨(hanswers lines).trans (congrArg _ hrequests), hsame _ _ 1 0 ?_, hsettings lines,
    ⟨hreadOwn, hlimited, (herror _ _ _ hreadOwn hlimited).2.2 ⟨_, rfl⟩⟩,
    ⟨hreadPlain, hvalueless, (herror _ _ _ hreadPlain hvalueless).2.2 ⟨_, rfl⟩⟩,
    ⟨hreadQuery, hunreadable, ?_⟩, hreadOpen, (hnone _ hreadOpen).2⟩
  · rw [hrequests, hrequest, List.getElem?_cons_succ, List.getElem?_cons_zero,
      List.getElem?_cons_zero]
  · refine Bool.eq_false_iff.2 fun hfield => ?_
    obtain ⟨v, hv⟩ := (herror _ _ _ hreadQuery hunreadable).2.1 hfield
    cases hv

end CommandLine

end Alerting
