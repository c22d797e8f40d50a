import TextLog.Session

/-!
# Handling Events

What handlers do with events.

A handler takes an event in one of two ways. Directly, with severity, message
and place; or as the last stage of a pipeline, where the event is a mapping:
some of its keys have a meaning, and all others are metadata. The second way
renders like the first, and appends the text of an exception if the event has
one. Below the level of the handler the first writes nothing and the second
drops the event.

## Main definitions

* `Action.renderHandled`, `Action.logHandled`: An event taken directly.
* `methodSeverity`: The severity of a method of structured logging.
* `Action.process`: An event taken as a mapping.
* `Action.sharedLogger`: The logger of handlers that are made without one.
-/

namespace TextLog

/-- The severities of the methods of structured logging. -/
def methodSeverities : List (String × Severity) :=
  [("trace", .trace), ("debug", .debug), ("info", .info), ("msg", .info), ("log", .info),
   ("notice", .notice), ("warn", .warning), ("warning", .warning), ("err", .error),
   ("error", .error), ("exception", .error), ("critical", .critical), ("fatal", .critical)]

/-- The severity of a method; a method that is not known informs. -/
def methodSeverity (method : String) : Severity :=
  (methodSeverities.lookup method).getD .info

/-- The keys of a structured event that have a meaning. -/
def reservedKeys : List String :=
  ["event", "pathname", "filename", "func_name", "lineno", "exception", "exc_info"]

namespace Metadata

/-- The text of a key, empty if it is absent. -/
def textOf (m : Metadata) (key : String) : String :=
  match get? m key with
  | some v => v.toText
  | none => ""

/-- The value of a key if it is there and not empty. -/
def present? (m : Metadata) (key : String) : Option Value :=
  (get? m key).filter Value.truthy

end Metadata

/-- The source file of a structured event: the whole path, or else the name. -/
def eventFile (dict : Metadata) : Value :=
  match Metadata.present? dict "pathname", Metadata.present? dict "filename" with
  | some v, _ => v
  | none, some v => v
  | none, none => .text ""

/-- A structured event as an event of a severity. -/
def eventOf (severity : Severity) (dict : Metadata) : Event where
  severity := severity
  message := .text (Metadata.textOf dict "event")
  function := (Metadata.get? dict "func_name").getD (.text "")
  line := (Metadata.get? dict "lineno").getD (.int 0)
  file := eventFile dict

/-- The text of an exception behind a line. -/
def exceptionTail (dict : Metadata) : String :=
  match Metadata.present? dict "exception" with
  | some v => "\n" ++ v.toText
  | none => ""

namespace Action

/-- The line that a handler makes of an event and its metadata. -/
def renderHandled (id : HandlerId) (e : Event) (own : Metadata) : Action String := do
  let h ← handler id
  formatEvent h.logger e (h.metadataText own) h.label none

/-- An event goes through a handler, if it reaches its level. -/
def logHandled (id : HandlerId) (e : Event) (own : Metadata) : Action Unit := do
  let h ← handler id
  if h.isLogging e.severity then
    let line ← renderHandled id e own
    write h.logger line

/-- The line of a structured event, and what is left of the event. -/
def process (id : HandlerId) (method : String) (dict : Metadata) :
    Action (String × Metadata) := do
  let h ← handler id
  let severity := methodSeverity method
  if h.isLogging severity then
    let own := Metadata.without dict reservedKeys
    let line ← renderHandled id (eventOf severity dict) own
    return (line ++ exceptionTail dict, own)
  else
    throw .dropped

/-- The logger of handlers that are made without one. It is made when it is
    first needed. -/
def sharedLogger : Action LoggerId := do
  match (← get).shared with
  | some id => return id
  | none =>
    let l ← ofExcept (Logger.ofOptions .verbose .stdout {})
    let id ← addLogger l
    modify fun s => { s with shared := some id }
    return id

/-- Makes a handler. Without a logger it takes the shared one. -/
def makeHandler (label : Value) (logger : Option LoggerId) (level metadata : Value) :
    Action HandlerId := do
  let backend ← match logger with
    | some id => pure id
    | none => sharedLogger
  let h ← ofExcept (Handler.make label backend level metadata)
  addHandler h

end Action

end TextLog
