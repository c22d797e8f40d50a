import TextLog.Session.Handling
import TextLog.Session.Raised
import TextLog.Message.Render
import TextLog.Time.Timestamp

/-!
# Records

Events of the classic kind: with a numeric level, a message pattern with
arguments, and a timestamp.

A record handler renders them through a logger, under the name of the logger
that the record came from. A record is first filtered by its numeric level, at
the place it comes from and at the handler, and then by the threshold of the
logger; a record that does not pass is not even formatted. Whatever goes wrong
while a record is handled is caught, and nothing is written then.

## Main definitions

* `LevelNumber`: A numeric level.
* `severityOfLevel`: The severity of a numeric level.
* `RecordHandler`: A handler of records.
* `Action.attemptRecord`: A record is written, and a failure is caught.
* `Action.handleRecord`: A record goes through its handler.
* `Action.emit`: An event is recorded and handled.
-/

namespace TextLog

open Time

/-- A numeric level. -/
inductive LevelNumber where
  | int (n : Int)
  | float (x : Binary64)

namespace LevelNumber

/-- The level that a value gives, if it is a number. -/
def ofValue? : Value → Option LevelNumber
  | .float x => some (.float x)
  | v => v.integer?.map .int

/-- The level that a value gives. -/
def ofValue (v : Value) : Except Failure LevelNumber :=
  match ofValue? v with
  | some n => .ok n
  | none => .error (.incomparable ">=" v.kind (Value.int 0).kind)

/-- The level that a value gives, where it is looked up first and then found to
    be disabled or not. -/
def ofKey (v : Value) : Except Failure LevelNumber :=
  match v, ofValue? v with
  | _, some n => .ok n
  | .list items, none => .error (.unhashable (Value.list items).kind)
  | .map entries, none => .error (.unhashable (Value.map entries).kind)
  | v, none => .error (.incomparable ">=" (Value.int 0).kind v.kind)

/-- The level is at least a given one. -/
def atLeast : LevelNumber → Int → Bool
  | .int n, bound => bound ≤ n
  | .float x, bound => x.atLeast bound

/-- The level is not among those that are disabled throughout, zero and
    below. -/
def enabled : LevelNumber → Bool
  | .int n => 0 < n
  | .float .nan => true
  | .float (.infinite negative) => !negative
  | .float (.finite negative mantissa _) => !negative && mantissa != 0

end LevelNumber

/-- The numeric levels with a severity of their own, the highest first. -/
def levelSteps : List (Int × Severity) :=
  [(50, .critical), (40, .error), (30, .warning), (20, .info), (10, .debug)]

/-- The severity of a numeric level: that of the highest step it reaches. -/
def severityOfLevel (n : LevelNumber) : Severity :=
  match levelSteps.find? fun step => n.atLeast step.1 with
  | some step => step.2
  | none => .trace

/-- The names of the numeric levels. -/
def levelNames : List (String × Int) :=
  [("CRITICAL", 50), ("FATAL", 50), ("ERROR", 40), ("WARN", 30), ("WARNING", 30),
   ("INFO", 20), ("DEBUG", 10), ("NOTSET", 0)]

/-- The numeric level that a value stands for, as it is kept: a number, or a truth
    value that counts as one. -/
def readLevel : Value → Except Failure Value
  | .int n => .ok (.int n)
  | .bool b => .ok (.bool b)
  | .text s =>
    match levelNames.lookup s with
    | some n => .ok (.int n)
    | none => .error (.unknownLevel s)
  | v => .error (.levelKind v)

/-- The number of a level as it is kept. -/
def levelRank (v : Value) : Int :=
  v.integer?.getD 0

/-- A handler of records: its logger, its level, and the name and the level of
    the place that the records come from. -/
structure RecordHandler where
  logger : LoggerId
  level : Value
  name : Value
  sourceLevel : Value

/-- What is recorded of an event beside its level and its time. Name, path and
    function are texts and the line is a number, as a rule. -/
structure RecordBody where
  message : Value
  args : List Value
  exception : Option String
  name : Value
  path : Value
  line : Value
  function : Value

/-- An event as it is recorded. -/
structure Record extends RecordBody where
  level : LevelNumber
  created : Value

namespace Record

/-- The message with its arguments, and the exception on the lines behind
    it. -/
def text (r : Record) : Except Failure String :=
  (Message.format r.message.toText r.args).map fun m =>
    match r.exception with
    | some e => m ++ "\n" ++ e
    | none => m

/-- The event that a record stands for. -/
def event (r : Record) (message : String) : Event where
  severity := severityOfLevel r.level
  message := .text message
  function := if r.function.truthy then r.function else .text ""
  line := r.line
  file := r.path

end Record

/-- Records of a level pass the level of their source and that of the
    handler. -/
def RecordHandler.accepts (h : RecordHandler) (level : LevelNumber) : Bool :=
  level.enabled && level.atLeast (levelRank h.sourceLevel) && level.atLeast (levelRank h.level)

namespace Action

/-- Makes a handler of records. Without a logger it gets one of its own. -/
def makeRecordHandler (logger : Option LoggerId) (level name sourceLevel : Value) :
    Action RecordHandler := do
  let level ← ofExcept (readLevel level)
  let sourceLevel ← ofExcept (readLevel sourceLevel)
  let id ← match logger with
    | some id => pure id
    | none => do addLogger (← ofExcept (Logger.ofOptions .verbose .stdout {}))
  return ⟨id, level, name, sourceLevel⟩

/-- A record is rendered and written. -/
def writeRecord (id : LoggerId) (r : Record) : Action Unit := do
  let l ← logger id
  if l.isLogging (severityOfLevel r.level) then
    let message ← ofExcept r.text
    let moment ← ofExcept (Moment.ofTimestamp r.created)
    let line ← formatEvent id (r.event message) none r.name (some moment)
    write id line

/-- A record is rendered and written as far as it can be. A failure is caught and
    given back. -/
def attemptRecord (id : LoggerId) (r : Record) : Action (Option Failure) := do
  try
    writeRecord id r
    return none
  catch failure =>
    return some failure

/-- A record goes through its handler, if it passes. -/
def handleRecord (h : RecordHandler) (r : Record) : Action (Option Failure) := do
  if h.accepts r.level then attemptRecord h.logger r else return none

/-- An event is recorded at a level and handled. Without a time of its own it
    happens now. -/
def emit (h : RecordHandler) (level : Value) (created : Option Value) (body : RecordBody) :
    Action (Option Failure) := do
  let level ← ofExcept (LevelNumber.ofKey level)
  if h.accepts level then
    let created ← match created with
      | some v => pure v
      | none => do ofExcept (← get).now.timestamp
    handleRecord h ⟨body, level, created⟩
  else
    return none

end Action

end TextLog
