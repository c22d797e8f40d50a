import TextLog.Session.Dispatch
import TextLog.Session.Handling
import TextLog.Message.Render

/-!
# Structured Events

Loggers with bound values, whose events go through the configured pipeline.

An event starts as the bound values, overridden and extended by the values of
the call. To these come the message, the ambient values whose keys are still
free, the place of the call and the text of an exception. The handler of the
pipeline renders the result, and the line goes to the sink of the target. An
event below the level of the handler vanishes.

A logger that was derived from another one keeps the pipeline that was
configured then; one that was only requested looks the pipeline up when it is
used.

## Main definitions

* `StructuredLogger`: A logger that was requested or derived.
* `BoundLogger.bind`, `BoundLogger.unbind`: Changes of bound values.
* `structuredEvent`: The mapping that the handler renders.
* `Action.derive`: A logger derived from another one.
* `Action.emitStructured`: An event of a logger.
* `Action.configurePipeline`: A new handler becomes the one of the pipeline.
-/

namespace TextLog

/-- A logger of structured events: one that was only requested, or one with
    bound values. -/
inductive StructuredLogger where
  | requested
  | derived (id : BoundId)

namespace BoundLogger

/-- The bound values and the pipeline of a logger that was only requested. -/
def requested : BoundLogger :=
  ⟨[], none⟩

/-- The pipeline to be used. -/
def pipelineIn (b : BoundLogger) (s : Session) : Option Pipeline :=
  match b.pipeline with
  | some p => some p
  | none => s.pipeline

/-- Binds more values. -/
def bind (b : BoundLogger) (s : Session) (values : Metadata) : BoundLogger :=
  ⟨Metadata.merge b.bound values, b.pipelineIn s⟩

/-- The logger without its bound values. -/
def cleared (b : BoundLogger) : BoundLogger :=
  { b with bound := [] }

/-- Removes keys, all of which have to be there. -/
def unbindKeys : List String → Metadata → Except Failure Metadata
  | [], m => .ok m
  | k :: rest, m =>
    if Metadata.has m k then unbindKeys rest (Metadata.erase m k) else .error (.missingKey k)

/-- Removes keys from the bound values. -/
def unbind (b : BoundLogger) (s : Session) (keys : List String) : Except Failure BoundLogger :=
  (unbindKeys keys b.bound).map fun m => ⟨m, b.pipelineIn s⟩

/-- Removes keys from the bound values as far as they are there. -/
def tryUnbind (b : BoundLogger) (s : Session) (keys : List String) : BoundLogger :=
  ⟨Metadata.without b.bound keys, b.pipelineIn s⟩

end BoundLogger

/-- How a logger is derived from another one. -/
inductive Derivation where
  /-- With more values. -/
  | bind (values : Metadata)
  /-- With other values. -/
  | fresh (values : Metadata)
  /-- Without keys, all of which have to be there. -/
  | unbind (keys : List String)
  /-- Without keys, as far as they are there. -/
  | tryUnbind (keys : List String)

/-- The name under which a method of a bound logger reaches the pipeline. -/
def boundMethods : List (String × String) :=
  [("debug", "debug"), ("info", "info"), ("msg", "info"), ("warn", "warning"),
   ("warning", "warning"), ("error", "error"), ("exception", "error"),
   ("critical", "critical"), ("fatal", "critical")]

/-- The methods of the numeric levels. -/
def levelMethods : List (Int × String) :=
  [(10, "debug"), (20, "info"), (30, "warning"), (40, "error"), (50, "critical")]

/-- How an event is emitted: by a method of its own, or by a numeric level. -/
inductive EmitBy where
  | method (name : String)
  | level (v : Value)

/-- The value is a number below zero. -/
def belowZero : Value → Except Failure Bool
  | .float .nan => .ok false
  | .float (.infinite negative) => .ok negative
  | .float (.finite negative mantissa _) => .ok (negative && mantissa != 0)
  | v =>
    match v.integer? with
    | some n => .ok (n < 0)
    | none => .error (.incomparable "<" v.kind (Value.int 0).kind)

/-- The method of a numeric level, whatever kind of number gives it. -/
def levelMethod? (v : Value) : Option String :=
  match v with
  | .float x => (levelMethods.find? fun p => some x == Binary64.ofInt? p.1).map Prod.snd
  | v => v.integer?.bind fun n => levelMethods.lookup n

/-- The method that an event reaches the pipeline under; none for negative
    levels, at which nothing is ever emitted. -/
def EmitBy.resolve : EmitBy → Except Failure (Option String)
  | .method name =>
    match boundMethods.lookup name with
    | some m => .ok (some m)
    | none => .error (.missingMethod "BoundLoggerFilteringAtNotset" name)
  | .level v =>
    (belowZero v).bind fun below =>
      if below then .ok none
      else
        match levelMethod? v with
        | some m => .ok (some m)
        | none => .error (.missingLevel v)

/-- The function behind a way to emit events, and the names that its arguments
    have and the values of an event can therefore not. -/
def EmitBy.signature : EmitBy → String × List String
  | .method "exception" => ("exception", ["self", "event"])
  | .method _ =>
    ("_make_filtering_bound_logger.<locals>.make_method.<locals>.meth", ["self", "event"])
  | .level _ => ("_make_filtering_bound_logger.<locals>.log", ["self", "level", "event"])

/-- The values do not use the name of an argument. -/
def checkNames (signature : String × List String) (values : Metadata) : Except Failure Unit :=
  match values.find? fun p => signature.2.contains p.1 with
  | some p => .error (.repeatedArgument signature.1 p.1)
  | none => .ok ()

/-- A message with its arguments. Without arguments it may be any value. -/
def fillMessage (message : Value) (args : List Value) : Except Failure Value :=
  if args.isEmpty then .ok message
  else
    match message with
    | .text pattern => (Message.format pattern args).map .text
    | v =>
      let mapping := match args with
        | [.map entries] => !entries.isEmpty
        | _ => false
      .error (.noPattern v.kind mapping)

/-- Adds a value whose key is still free. -/
def addMissing (m : Metadata) (p : String × Value) : Metadata :=
  if Metadata.has m p.1 then m else Metadata.set m p.1 p.2

/-- Puts the place of a call into an event. -/
def addCallSite (m : Metadata) (site : CallSite) : Metadata :=
  Metadata.merge m
    [("pathname", site.file), ("func_name", site.function), ("lineno", site.line)]

/-- Puts the text of an exception into an event. -/
def addException (m : Metadata) (exception : Option String) : Metadata :=
  match exception with
  | some text => Metadata.set (Metadata.erase m "exc_info") "exception" (.text text)
  | none => Metadata.erase m "exc_info"

/-- Puts the message into an event, unless it is null. -/
def addMessage (m : Metadata) : Value → Metadata
  | .null => m
  | v => Metadata.set m "event" v

/-- The mapping that the handler of a pipeline renders. -/
def structuredEvent (bound values ambient : Metadata) (message : Value) (site : CallSite)
    (exception : Option String) : Metadata :=
  -- The message counts as given, so an ambient value cannot replace it.
  let called := addMessage (Metadata.merge bound values) message
  addException (addCallSite (ambient.foldl addMissing called) site) exception

namespace Action

/-- Makes a handler and configures the pipeline with it. -/
def configurePipeline (label : Value) (logger : Option LoggerId) (level : Value) :
    Action HandlerId := do
  let id ← makeHandler label logger level (.map [])
  let h ← handler id
  modify fun s => { s with pipeline := some ⟨id, h.logger⟩ }
  return id

/-- The bound values and the pipeline of a logger. -/
def boundLogger : StructuredLogger → Action BoundLogger
  | .requested => pure .requested
  | .derived id => do require ((← get).bound? id)

/-- Forgets the bound values of a logger, also for those who hold it already. -/
def clearBound : StructuredLogger → Action Unit
  | .requested => pure ()
  | .derived id =>
    modify fun s => { s with bounds := s.bounds.modify id.index BoundLogger.cleared }

/-- The names of values that are bound are not those of arguments. -/
def checkBound (l : StructuredLogger) (method : String) (values : Metadata) : Action Unit :=
  let owner := match l with
    | .requested => "BoundLoggerLazyProxy."
    | .derived _ => "BoundLoggerBase."
  ofExcept (checkNames (owner ++ method, ["self"]) values)

/-- Derives a logger from another one. To bind other values, the bound ones of
    the other logger itself are forgotten first. -/
def derive (l : StructuredLogger) (how : Derivation) : Action StructuredLogger := do
  match how with
  | .bind values => checkBound l "bind" values
  | .fresh values => do
    checkBound l "new" values
    clearBound l
  | _ => pure ()
  let b ← boundLogger l
  let s ← get
  let new ← match how with
    | .bind values => pure (b.bind s values)
    | .fresh values => pure (b.bind s values)
    | .unbind keys => ofExcept (b.unbind s keys)
    | .tryUnbind keys => pure (b.tryUnbind s keys)
  .derived <$> addBound new

/-- An event of a logger. -/
def emitStructured (l : StructuredLogger) (how : EmitBy) (message : Value) (args : List Value)
    (values : Metadata) (site : CallSite) (exception : Option String) : Action Unit := do
  let b ← boundLogger l
  -- A method has to be there before it can refuse its arguments.
  if let .method _ := how then
    let _ ← ofExcept how.resolve
  ofExcept (checkNames how.signature values)
  match ← ofExcept how.resolve with
  | none => pure ()
  | some method =>
    let text ← ofExcept (fillMessage message args)
    ofExcept (checkNames ("BoundLoggerBase._proxy_to_logger", ["method_name"]) values)
    let s ← get
    match b.pipelineIn s with
    | none => pure ()
    | some pipeline =>
      let dict := structuredEvent b.bound values s.ambient text site exception
      let h ← handler pipeline.handler
      if h.isLogging (methodSeverity method) then
        let rendered ← process pipeline.handler method dict
        write pipeline.target rendered.1

/-- Asks a logger whether it takes events of a numeric level. All loggers take
    levels from zero on. -/
def takesLevel (level : Value) (args : List Value) : Action Bool :=
  if args.isEmpty then
    match belowZero level with
    | .ok below => pure (!below)
    | .error _ => throw (.incomparable ">=" level.kind (Value.int 0).kind)
  else
    throw (.surplusArguments "_make_filtering_bound_logger.<locals>.<lambda>" 2 (args.length + 2))

/-- Adds to the ambient values. -/
def bindAmbient (values : Metadata) : Action Unit :=
  modify fun s => { s with ambient := Metadata.merge s.ambient values }

/-- Removes ambient values as far as they are there. -/
def unbindAmbient (keys : List String) : Action Unit :=
  modify fun s => { s with ambient := Metadata.without s.ambient keys }

end Action

/-- The methods of the plain writer of lines that stands at the end of the
    pipeline. -/
def writerMethods : List String :=
  ["msg", "log", "debug", "info", "warn", "warning", "fatal", "failure", "err", "error",
   "critical", "exception"]

/-- A line goes to a logger by a method of the writer. -/
def Action.writeBy (id : LoggerId) (method line : String) : Action Unit :=
  if writerMethods.contains method then Action.write id line
  else throw (.missingMethod "SinkLogger" method)

end TextLog
