import TextLog.Handler

/-!
# Sessions

Everything that lives while a program logs: the outputs, the loggers, the
dispatchers, the handlers, the loggers with bound values, and the clock.

Objects are kept in tables and referred to by their place, so that two holders
of a reference see the same object and a change is seen by both. An action
works on a session and may fail; what it has done before it fails stays done.

## Main definitions

* `Session`: All objects and outputs.
* `Action`: A step that may change a session and may fail.
* `Action.writeLine`: A line goes to a sink.
* `Action.editLogger`, `Action.editHandler`: Assignment to a logger or handler.
* `Action.logEvent`: An event goes through a logger.
-/

namespace TextLog

open Time

/-- A reference to a dispatcher. -/
structure DispatcherId where
  index : Nat
  deriving DecidableEq, Repr

/-- A reference to a handler. -/
structure HandlerId where
  index : Nat
  deriving DecidableEq, Repr

/-- A dispatcher: a handle with an optional active logger. -/
structure Dispatcher where
  active : Option LoggerId
  deriving DecidableEq, Repr

/-- A diagnostic about the use of the library. -/
structure Diagnostic where
  event : String
  level : String
  sink : String
  deriving DecidableEq, Repr

/-- The pipeline of structured events: the handler that renders them and the
    logger whose sink they are written to. -/
structure Pipeline where
  handler : HandlerId
  target : LoggerId
  deriving DecidableEq, Repr

/-- A reference to a bound logger. -/
structure BoundId where
  index : Nat
  deriving DecidableEq, Repr

/-- A logger with bound values. Without a pipeline of its own it uses the one
    that is configured when an event happens. -/
structure BoundLogger where
  bound : Metadata
  pipeline : Option Pipeline

/-- Everything that lives while a program logs. `shared` is the logger of the
    handlers that are made without one, `ambient` the metadata that every
    structured event takes along. -/
structure Session where
  now : Moment
  stdout : Stdout
  streams : Array Stream
  memories : Array (List String)
  loggers : Array Logger
  dispatchers : Array Dispatcher
  handlers : Array Handler
  bounds : Array BoundLogger
  shared : Option LoggerId
  pipeline : Option Pipeline
  ambient : Metadata
  diagnostics : List Diagnostic

/-- A step that may change a session and may fail. -/
abbrev Action := ExceptT Failure (StateM Session)

namespace Session

/-- The session at the start: an empty standard output and one dispatcher
    without a logger. -/
def start (now : Moment) (plain : Bool) : Session where
  now := now
  stdout := Stdout.empty plain
  streams := #[]
  memories := #[]
  loggers := #[]
  dispatchers := #[⟨none⟩]
  handlers := #[]
  bounds := #[]
  shared := none
  pipeline := none
  ambient := []
  diagnostics := []

/-- The dispatcher that is there from the start. -/
def defaultDispatcher : DispatcherId := ⟨0⟩

/-- The logger of a reference. -/
def logger? (s : Session) (id : LoggerId) : Option Logger :=
  s.loggers[id.index]?

/-- The handler of a reference. -/
def handler? (s : Session) (id : HandlerId) : Option Handler :=
  s.handlers[id.index]?

/-- The bound logger of a reference. -/
def bound? (s : Session) (id : BoundId) : Option BoundLogger :=
  s.bounds[id.index]?

/-- The reference to the active logger of a dispatcher. -/
def active? (s : Session) (id : DispatcherId) : Option LoggerId :=
  s.dispatchers[id.index]?.bind Dispatcher.active

/-- The active logger of a dispatcher. -/
def activeLogger? (s : Session) (id : DispatcherId) : Option Logger :=
  (s.active? id).bind s.logger?

/-- The lines that a memory keeps. -/
def lines (s : Session) (id : MemoryId) : List String :=
  (s.memories[id.index]?).getD []

/-- The stream of a reference. -/
def stream? (s : Session) (id : StreamId) : Option Stream :=
  s.streams[id.index]?

end Session

namespace Action

/-- The outcome of a computation as an action. -/
def ofExcept {α : Type} (x : Except Failure α) : Action α :=
  ExceptT.mk (pure x)

/-- An object that has to exist. -/
def require {α : Type} (x : Option α) : Action α :=
  match x with
  | some a => pure a
  | none => throw .dangling

/-- The logger of a reference. -/
def logger (id : LoggerId) : Action Logger := do
  require ((← get).logger? id)

/-- The handler of a reference. -/
def handler (id : HandlerId) : Action Handler := do
  require ((← get).handler? id)

/-- Adds a logger. -/
def addLogger (l : Logger) : Action LoggerId := do
  let s ← get
  set { s with loggers := s.loggers.push l }
  return ⟨s.loggers.size⟩

/-- Makes a logger. -/
def makeLogger (threshold : Value) (sink : Sink) (o : LoggerOptions) : Action LoggerId := do
  let l ← ofExcept (Logger.make threshold sink o)
  addLogger l

/-- Adds a handler. -/
def addHandler (h : Handler) : Action HandlerId := do
  let s ← get
  set { s with handlers := s.handlers.push h }
  return ⟨s.handlers.size⟩

/-- Adds a bound logger. -/
def addBound (b : BoundLogger) : Action BoundId := do
  let s ← get
  set { s with bounds := s.bounds.push b }
  return ⟨s.bounds.size⟩

/-- Adds a dispatcher. -/
def addDispatcher (active : Option LoggerId) : Action DispatcherId := do
  let s ← get
  set { s with dispatchers := s.dispatchers.push ⟨active⟩ }
  return ⟨s.dispatchers.size⟩

/-- Adds a stream. -/
def addStream (stream : Stream) : Action StreamId := do
  let s ← get
  set { s with streams := s.streams.push stream }
  return ⟨s.streams.size⟩

/-- Adds an empty memory. -/
def addMemory : Action MemoryId := do
  let s ← get
  set { s with memories := s.memories.push [] }
  return ⟨s.memories.size⟩

/-- Forgets the lines of a memory. -/
def clearMemory (id : MemoryId) : Action Unit :=
  modify fun s => { s with memories := s.memories.setIfInBounds id.index [] }

/-- Moves the clock. -/
def setClock (now : Moment) : Action Unit :=
  modify fun s => { s with now := now }

/-- Puts a logger in the place of another one. -/
def putLogger (id : LoggerId) (l : Logger) : Action Unit :=
  modify fun s => { s with loggers := s.loggers.setIfInBounds id.index l }

/-- Assigns to a part of a logger. -/
def editLogger (id : LoggerId) (e : LoggerEdit) : Action Unit := do
  let l ← logger id
  match l.edit e with
  | .ok edited => putLogger id edited
  | .error failure =>
    putLogger id (l.leftBy e)
    throw failure

/-- Assigns to a part of a handler. -/
def editHandler (id : HandlerId) (e : HandlerEdit) : Action Unit := do
  let h ← handler id
  let h ← ofExcept (h.edit e)
  modify fun s => { s with handlers := s.handlers.setIfInBounds id.index h }

/-- A line goes to a sink. -/
def writeLine (sink : Sink) (line : String) : Action Unit :=
  match sink with
  | .stdout => modify fun s => { s with stdout := s.stdout.writeLine line }
  | .memory id =>
    modify fun s => { s with memories := s.memories.modify id.index (· ++ [line]) }
  | .stream id => do
    let stream ← require ((← get).stream? id)
    let stream ← ofExcept (stream.writeLine line)
    modify fun s => { s with streams := s.streams.setIfInBounds id.index stream }

/-- A line goes to the sink that a logger has at this moment. -/
def write (id : LoggerId) (line : String) : Action Unit := do
  let l ← logger id
  writeLine l.sink line

/-- The line that a logger makes of an event. Without a moment of its own the
    event happens now. -/
def formatEvent (id : LoggerId) (e : Event) (metadata : Option String) (label : Value)
    (moment : Option Moment) : Action String := do
  let l ← logger id
  let now := (← get).now
  ofExcept (l.formatEvent (.ofMoment? moment now) e metadata label)

/-- An event goes through a logger, if it passes the threshold. -/
def logEvent (id : LoggerId) (e : Event) (metadata : Metadata) : Action Unit := do
  let l ← logger id
  if l.isLogging e.severity then
    let line ← formatEvent id e metadata.pretty .null none
    write id line

end Action

end TextLog
