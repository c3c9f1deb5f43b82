import Alerting.Monitor.Rebuilt
import Alerting.Monitor.Stored
import Alerting.Text.Basic

/-!
# Command line

Requests come one to a line, as JSON, and each is answered by one line.  A request names an
operation in `op` and has the members of the operation beside it, or it is an array of the operation
and these members in order.  `CommandLine.Session` is what goes from line to line: the settings that
requests without settings of their own are handled with, and what has been written.
-/

namespace Alerting

namespace CommandLine

/-- A request. -/
inductive Request where
  /-- Compile the forms of a monitor. -/
  | compileMonitor (monitor : MonitorForm) (triggers : List TriggerForm) (config : Option Config)
  /-- Rebuild the forms of a monitor. -/
  | decompileMonitor (monitor : Monitor)
  /-- Compile a where clause. -/
  | compileWhere (clause : Where.Clause)
  /-- Build the schedule of a frequency. -/
  | buildSchedule (frequency : String) (picker : Picker)
  /-- Compile the query of a preview. -/
  | previewQuery (monitor : MonitorForm) (now : Instant)
  deriving DecidableEq

namespace Request

/-- The name of an operation and the documents of its members. -/
def parts? : Json → Option (String × Json)
  | .obj ms =>
    match ms.filter fun m => m.1 = "op" with
    | [(_, .str op)] => some (op, .obj (ms.filter fun m => m.1 ≠ "op"))
    | _ => none
  | .arr (.str op :: xs) => some (op, .arr xs)
  | _ => none

/-- Reads a request, leniently throughout. -/
def ofJson? (j : Json) : Option Request := do
  let (op, j) ← parts? j
  match op with
  | "compile_monitor" => do
    let m ← Members.ofRecord? .lenient ["monitor", "triggers", "config"] j
    return .compileMonitor (← m.required "monitor") (← m.withDefault "triggers" [])
      (← m.optional "config")
  | "decompile_monitor" => do
    let m ← Members.ofRecord? .lenient ["monitor"] j
    return .decompileMonitor (← m.required "monitor")
  | "compile_where" => do
    let m ← Members.ofRecord? .lenient ["where"] j
    return .compileWhere (← m.required "where")
  | "build_schedule" => do
    let m ← Members.ofRecord? .lenient ["schedule_type", "fields"] j
    return .buildSchedule (← m.required "schedule_type") (← m.withDefault "fields" .initial)
  | "preview_query" => do
    let m ← Members.ofRecord? .lenient ["monitor", "now"] j
    return .previewQuery (← m.required "monitor") (← Instant.parse? (← m.required "now"))
  | _ => none

/-- The result of a request in a session with some settings. -/
def result (settings : Config) : Request → Compile Value
  | .compileMonitor monitor triggers config => do
    return .ofJson (encode (← monitor.compile triggers (config.getD settings)))
  | .decompileMonitor monitor => .ok (.ofJson (MonitorForms.ofMonitor monitor).toJson)
  | .compileWhere clause =>
    .ok (.ofJson ((clause.filter?.map Where.Filter.toJson).getD .null))
  | .buildSchedule frequency picker => .ok (.ofJson (encode (picker.scheduleNamed? frequency)))
  | .previewQuery monitor now => monitor.preview now settings

end Request

/-- The answer to a request that fails: a message, and the field at fault if there is one. -/
def failure (message : String) (field : Option String) : Json :=
  .obj ([("error", .bool true), ("message", .str message)] ++ optionalMember "field" field)

/-- The answer to a request that is refused. -/
def refusal : CompileError → Json
  | .invalid v => failure v.reason (some v.field)
  | e => failure e.message none

/-- The request of a line. -/
def request? (line : List Char) : Option Request :=
  (Json.parse? (.ofList line)).bind Request.ofJson?

/-- The answer to a line, in a session with some settings. -/
def answer (settings : Config) (line : List Char) : Json :=
  match request? line with
  | none => failure "json parse" none
  | some r =>
    match r.result settings with
    | .ok v => v.json
    | .error e => refusal e

/-- A running command line. -/
structure Session where
  /-- The settings. -/
  settings : Config
  /-- What has been written. -/
  written : String

namespace Session

/-- A session that starts. -/
def start : Session := { settings := .initial, written := "" }

/-- Writes a document and ends the line. -/
def writeLine (s : Session) (j : Json) : Session :=
  { s with written := s.written ++ j.compact ++ "\n" }

/-- Handles a line, without the blanks around it.  Nothing is written for a blank line. -/
def step (s : Session) (line : String) : Session :=
  let line := Text.trim line.toList
  if line.isEmpty then s else s.writeLine (answer s.settings line)

/-- Handles some lines. -/
def run (s : Session) (lines : List String) : Session := lines.foldl step s

end Session

/-- The lines that are written for some lines. -/
def answers (lines : List String) : List String :=
  (Text.lines (Session.start.run lines).written.toList).map .ofList

end CommandLine

end Alerting
