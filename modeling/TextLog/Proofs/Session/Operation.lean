import TextLog.Proofs.Logger.Configuration
import TextLog.Session.Dispatch
import TextLog.Session.Handling

/-!
# Operations on Sessions

What a program can do with outputs, loggers, dispatchers and handlers, and what
each of its operations does to the session.

An operation is data, so that a program is a list of operations and a statement
about every program is one about every list. Each operation is performed by the
action of its name; the answer is whether it was accepted, which only an
activation can deny without failing. A session that operations leave is reached
whether they succeed or fail.

The lemmas here say once what each action does, its failures included. Whatever
is proved of an operation is read off them, and no later proof looks into an
action again.

## Main definitions

* `Stream.opened`: A stream to which nothing has been written.
* `Operation`: What a program can do.
* `Operation.perform`: The action of an operation.
* `Session.afterOp`, `Session.after`: The session that operations leave.

## Theorems

* `runOn_makeLogger`, `runOn_activate_new`, `runOn_activate_given`,
  `runOn_activateStream`: Loggers are made and activated.
* `runOn_logEvent`, `runOn_dispatch`, `runOn_logHandled`: Events are logged.
* `runOn_editHandler`, `runOn_makeHandler_given`, `runOn_process_snd`: Handlers.
-/

namespace TextLog

open Time

/-- A stream to which nothing has been written yet. -/
def Stream.opened (canFlush : Bool) (refusal : String → Option String) : Stream :=
  ⟨canFlush, refusal, "", "", 0⟩

/-- What a program can do with the objects of a session. -/
inductive Operation where
  | setClock (now : Moment)
  | openStream (canFlush : Bool) (refusal : String → Option String)
  | openMemory
  | makeLogger (threshold : Value) (sink : Sink) (o : LoggerOptions)
  | editLogger (id : LoggerId) (e : LoggerEdit)
  /-- An event goes through a logger itself. -/
  | log (id : LoggerId) (e : Event) (metadata : Metadata)
  | makeDispatcher (active : Option LoggerId)
  | activate (id : DispatcherId) (threshold : Value) (prepared : Option LoggerId)
  | activateStream (id : DispatcherId) (target : SinkTarget) (threshold : Value)
  /-- Any logger is made the active one, or none. -/
  | assignLogger (id : DispatcherId) (active : Option LoggerId)
  | dispatch (id : DispatcherId) (severity : Severity) (message : Value) (given : GivenSite)
      (level : Nat) (stack : List CallSite)
  | makeHandler (label : Value) (logger : Option LoggerId) (level metadata : Value)
  | editHandler (id : HandlerId) (e : HandlerEdit)
  | copyHandler (id : HandlerId)
  | renderHandled (id : HandlerId) (e : Event) (own : Metadata)
  | logHandled (id : HandlerId) (e : Event) (own : Metadata)
  /-- A handler takes an event as the last stage of a pipeline. -/
  | process (id : HandlerId) (method : String) (dict : Metadata)

namespace Operation

/-- Performs an operation. The answer is whether it was accepted. -/
def perform : Operation → Action Bool
  | .setClock now => do
    Action.setClock now
    return true
  | .openStream canFlush refusal => do
    let _ ← Action.addStream (.opened canFlush refusal)
    return true
  | .openMemory => do
    let _ ← Action.addMemory
    return true
  | .makeLogger threshold sink o => do
    let _ ← Action.makeLogger threshold sink o
    return true
  | .editLogger id e => do
    Action.editLogger id e
    return true
  | .log id e metadata => do
    Action.logEvent id e metadata
    return true
  | .makeDispatcher active => do
    let _ ← Action.addDispatcher active
    return true
  | .activate id threshold prepared => Action.activate id threshold prepared
  | .activateStream id target threshold => do
    let _ ← Action.activateStream id target threshold
    return true
  | .assignLogger id active => do
    Action.assignLogger id active
    return true
  | .dispatch id severity message given level stack => do
    Action.dispatch id severity message given level stack
    return true
  | .makeHandler label logger level metadata => do
    let _ ← Action.makeHandler label logger level metadata
    return true
  | .editHandler id e => do
    Action.editHandler id e
    return true
  | .copyHandler id => do
    let h ← Action.handler id
    let _ ← Action.addHandler h.copy
    return true
  | .renderHandled id e own => do
    let _ ← Action.renderHandled id e own
    return true
  | .logHandled id e own => do
    Action.logHandled id e own
    return true
  | .process id method dict => do
    let _ ← Action.process id method dict
    return true

end Operation

namespace Session

/-- The session that an operation leaves, whether it succeeds or fails. -/
def afterOp (s : Session) (op : Operation) : Session :=
  (op.perform.runOn s).2

/-- The session that operations leave one after the other. -/
def after (s : Session) (ops : List Operation) : Session :=
  ops.foldl afterOp s

theorem after_cons (s : Session) (op : Operation) (ops : List Operation) :
    s.after (op :: ops) = (s.afterOp op).after ops := rfl

/-- A property that every operation keeps is kept by a run of operations. -/
theorem after_induction {P : Session → Prop} (hstep : ∀ s op, P s → P (s.afterOp op))
    (s : Session) (ops : List Operation) (hs : P s) : P (s.after ops) := by
  induction ops generalizing s with
  | nil => exact hs
  | cons op ops ih => exact ih (s.afterOp op) (hstep s op hs)

end Session

namespace Action

/-- An action whose answer is not asked for leaves what it leaves. -/
theorem runOn_then_true {α : Type} (a : Action α) (s : Session) :
    (do let _ ← a; return true : Action Bool).runOn s =
      ((a.runOn s).1.map fun _ => true, (a.runOn s).2) := by
  rw [runOn_bind]
  rcases a.runOn s with ⟨outcome, t⟩
  cases outcome <;> rfl

/-! ### Lines -/

theorem runOn_writeLine_stdout (line : String) (s : Session) :
    (writeLine .stdout line).runOn s =
      (.ok (), { s with stdout := s.stdout.writeLine line }) := rfl

theorem runOn_writeLine_memory (id : MemoryId) (line : String) (s : Session) :
    (writeLine (.memory id) line).runOn s =
      (.ok (), { s with memories := s.memories.modify id.index (· ++ [line]) }) := rfl

theorem runOn_writeLine_stream (id : StreamId) (line : String) (s : Session) :
    (writeLine (.stream id) line).runOn s =
      match s.stream? id with
      | none => (.error .dangling, s)
      | some stream =>
        match stream.writeLine line with
        | .ok written => (.ok (), { s with streams := s.streams.setIfInBounds id.index written })
        | .error failure => (.error failure, s) := by
  rw [writeLine, runOn_bind_ok (runOn_get s), runOn_bind, runOn_require]
  cases s.stream? id with
  | none => rfl
  | some stream =>
      simp only [Option.elim_some]
      rw [runOn_bind, runOn_ofExcept]
      cases stream.writeLine line <;> rfl

/-! ### Loggers -/

theorem runOn_makeLogger (threshold : Value) (sink : Sink) (o : LoggerOptions) (s : Session) :
    (makeLogger threshold sink o).runOn s =
      match Logger.make threshold sink o with
      | .ok l => (.ok ⟨s.loggers.size⟩, { s with loggers := s.loggers.push l })
      | .error failure => (.error failure, s) := by
  rw [makeLogger, runOn_bind, runOn_ofExcept]
  cases Logger.make threshold sink o <;> rfl

theorem runOn_logger_none (id : LoggerId) (s : Session) (h : s.logger? id = none) :
    (logger id).runOn s = (.error .dangling, s) := by
  rw [logger, runOn_bind, runOn_get]
  simp only [runOn_require, h, Option.elim_none]

/-- A logger is found or not, and the session stays as it is. -/
theorem runOn_logger_snd (id : LoggerId) (s : Session) : ((logger id).runOn s).2 = s := by
  cases h : s.logger? id with
  | none => rw [runOn_logger_none id s h]
  | some l => rw [runOn_logger id l s h]

theorem runOn_formatEvent (id : LoggerId) (l : Logger) (e : Event) (metadata : Option String)
    (label : Value) (moment : Option Moment) (s : Session) (h : s.logger? id = some l) :
    (formatEvent id e metadata label moment).runOn s =
      (l.formatEvent (.ofMoment? moment s.now) e metadata label, s) := by
  rw [formatEvent, runOn_bind_ok (runOn_logger id l s h)]
  rfl

/-- Rendering leaves the session as it is, whatever comes of it. -/
theorem runOn_formatEvent_snd (id : LoggerId) (e : Event) (metadata : Option String)
    (label : Value) (moment : Option Moment) (s : Session) :
    ((formatEvent id e metadata label moment).runOn s).2 = s :=
  runOn_bind_snd (runOn_logger_snd id s) fun _ => rfl

theorem runOn_write (id : LoggerId) (l : Logger) (line : String) (s : Session)
    (h : s.logger? id = some l) : (write id line).runOn s = (writeLine l.sink line).runOn s := by
  rw [write, runOn_bind_ok (runOn_logger id l s h)]

/-- An event goes through a logger: below the threshold nothing happens, a line
    that cannot be made is a failure, and a line that is made goes to the
    sink. -/
theorem runOn_logEvent (id : LoggerId) (l : Logger) (e : Event) (metadata : Metadata)
    (s : Session) (h : s.logger? id = some l) :
    (logEvent id e metadata).runOn s =
      if l.isLogging e.severity then
        match l.formatEvent (.present s.now) e metadata.pretty .null with
        | .ok line => (writeLine l.sink line).runOn s
        | .error failure => (.error failure, s)
      else (.ok (), s) := by
  rw [logEvent, runOn_bind_ok (runOn_logger id l s h)]
  by_cases hlog : l.isLogging e.severity = true
  · have hformat := runOn_formatEvent id l e metadata.pretty .null none s h
    rw [if_pos hlog, if_pos hlog]
    cases hline : l.formatEvent (.present s.now) e metadata.pretty .null with
    | ok line =>
        rw [Occasion.ofMoment?_none, hline] at hformat
        rw [runOn_bind_ok hformat]
        exact runOn_write id l line s h
    | error failure =>
        rw [Occasion.ofMoment?_none, hline] at hformat
        exact runOn_bind_error hformat _
  · rw [if_neg hlog, if_neg hlog]
    rfl

theorem runOn_logEvent_none (id : LoggerId) (e : Event) (metadata : Metadata) (s : Session)
    (h : s.logger? id = none) : (logEvent id e metadata).runOn s = (.error .dangling, s) := by
  rw [logEvent, runOn_bind_error (runOn_logger_none id s h)]

/-! ### Dispatchers -/

/-- The active logger of a dispatcher behind its reference. -/
theorem exists_active_of_activeLogger? {s : Session} {id : DispatcherId} {l : Logger}
    (h : s.activeLogger? id = some l) :
    ∃ active, s.active? id = some active ∧ s.logger? active = some l :=
  Option.bind_eq_some_iff.mp h

/-- A dispatcher lets through what its active logger lets through. -/
theorem isLogging_iff (s : Session) (id : DispatcherId) (severity : Severity) :
    s.isLogging id severity = true ↔
      ∃ l, s.activeLogger? id = some l ∧ l.isLogging severity = true := by
  rw [Session.isLogging]
  cases s.activeLogger? id with
  | none => simp only [Bool.false_eq_true, reduceCtorEq, false_and, exists_false]
  | some l => simp only [Option.some.injEq, exists_eq_left']

theorem runOn_dispatch_silent (id : DispatcherId) (severity : Severity) (message : Value)
    (given : GivenSite) (level : Nat) (stack : List CallSite) (s : Session)
    (h : s.isLogging id severity = false) :
    (dispatch id severity message given level stack).runOn s = (.ok (), s) := by
  rw [dispatch, runOn_bind, runOn_get]
  simp only [h]
  cases s.active? id <;> rfl

/-- An event that a dispatcher lets through is placed and goes through the active
    logger. -/
theorem runOn_dispatch (id : DispatcherId) (severity : Severity) (message : Value)
    (given : GivenSite) (level : Nat) (stack : List CallSite) (s : Session) (l : Logger)
    (hl : s.activeLogger? id = some l) (hlog : l.isLogging severity = true) :
    (dispatch id severity message given level stack).runOn s =
      match given.resolve level stack with
      | .ok site =>
        match l.formatEvent (.present s.now)
            ⟨severity, message, site.function, site.line, site.file⟩ none .null with
        | .ok line => (writeLine l.sink line).runOn s
        | .error failure => (.error failure, s)
      | .error failure => (.error failure, s) := by
  rcases exists_active_of_activeLogger? hl with ⟨active, hactive, hlogger⟩
  have hpass : s.isLogging id severity = true := (isLogging_iff s id severity).mpr ⟨l, hl, hlog⟩
  rw [dispatch, runOn_bind, runOn_get]
  simp only [hactive, hpass]
  cases hsite : given.resolve level stack with
  | error failure => rfl
  | ok site =>
      -- The logger filters a second time, by the same threshold.
      exact (runOn_logEvent active l _ [] s hlogger).trans (if_pos hlog)

theorem runOn_activate_new (id : DispatcherId) (threshold : Value) (s : Session) :
    (activate id threshold none).runOn s =
      match Logger.make threshold .stdout {} with
      | .ok l =>
        (.ok true,
          { s with
            stdout := s.stdout.unbuffer
            loggers := s.loggers.push l
            dispatchers := s.dispatchers.setIfInBounds id.index ⟨some ⟨s.loggers.size⟩⟩ })
      | .error failure => (.error failure, s) := by
  rw [activate, runOn_bind, runOn_makeLogger]
  cases Logger.make threshold .stdout {} <;> rfl

theorem runOn_activate_given (id : DispatcherId) (threshold : Value) (given : LoggerId)
    (l : Logger) (s : Session) (h : s.logger? given = some l) :
    (activate id threshold (some given)).runOn s =
      if l.sink.isDefault then
        (.ok true,
          { s with
            stdout := s.stdout.unbuffer
            dispatchers := s.dispatchers.setIfInBounds id.index ⟨some given⟩ })
      else (.ok false, { s with diagnostics := s.diagnostics ++ [refusalDiagnostic l] }) := by
  rw [activate, runOn_bind_ok (runOn_logger given l s h)]
  by_cases hsink : l.sink.isDefault = true
  · rw [if_pos hsink, if_pos hsink]
    rfl
  · rw [if_neg hsink, if_neg hsink]
    rfl

theorem runOn_activate_dangling (id : DispatcherId) (threshold : Value) (given : LoggerId)
    (s : Session) (h : s.logger? given = none) :
    (activate id threshold (some given)).runOn s = (.error .dangling, s) := by
  rw [activate, runOn_bind_error (runOn_logger_none given s h)]

theorem runOn_activateStream (id : DispatcherId) (target : SinkTarget) (threshold : Value)
    (s : Session) :
    (activateStream id target threshold).runOn s =
      match target.toSink.bind fun sink => Logger.make threshold sink {} with
      | .ok l =>
        (.ok ⟨s.loggers.size⟩,
          { s with
            loggers := s.loggers.push l
            dispatchers := s.dispatchers.setIfInBounds id.index ⟨some ⟨s.loggers.size⟩⟩ })
      | .error failure => (.error failure, s) := by
  rw [activateStream]
  cases target.toSink with
  | error failure => rfl
  | ok sink =>
      rw [runOn_bind_ok (runOn_ofExcept _ s), runOn_bind, runOn_makeLogger]
      simp only [Except.bind]
      cases Logger.make threshold sink {} <;> rfl

/-! ### Handlers -/

theorem runOn_handler (id : HandlerId) (h : Handler) (s : Session) (hh : s.handler? id = some h) :
    (handler id).runOn s = (.ok h, s) := by
  rw [handler, runOn_bind, runOn_get]
  simp only [runOn_require, hh, Option.elim_some]

theorem runOn_handler_none (id : HandlerId) (s : Session) (hh : s.handler? id = none) :
    (handler id).runOn s = (.error .dangling, s) := by
  rw [handler, runOn_bind, runOn_get]
  simp only [runOn_require, hh, Option.elim_none]

/-- A handler is found or not, and the session stays as it is. -/
theorem runOn_handler_snd (id : HandlerId) (s : Session) : ((handler id).runOn s).2 = s := by
  cases hh : s.handler? id with
  | none => rw [runOn_handler_none id s hh]
  | some h => rw [runOn_handler id h s hh]

theorem runOn_addHandler (h : Handler) (s : Session) :
    (addHandler h).runOn s =
      (.ok ⟨s.handlers.size⟩, { s with handlers := s.handlers.push h }) := rfl

theorem runOn_editHandler (id : HandlerId) (h : Handler) (e : HandlerEdit) (s : Session)
    (hh : s.handler? id = some h) :
    (editHandler id e).runOn s =
      match h.edit e with
      | .ok edited => (.ok (), { s with handlers := s.handlers.setIfInBounds id.index edited })
      | .error failure => (.error failure, s) := by
  rw [editHandler, runOn_bind_ok (runOn_handler id h s hh)]
  cases h.edit e <;> rfl

theorem runOn_editHandler_none (id : HandlerId) (e : HandlerEdit) (s : Session)
    (hh : s.handler? id = none) : (editHandler id e).runOn s = (.error .dangling, s) := by
  rw [editHandler, runOn_bind_error (runOn_handler_none id s hh)]

theorem runOn_renderHandled (id : HandlerId) (h : Handler) (e : Event) (own : Metadata)
    (s : Session) (hh : s.handler? id = some h) :
    (renderHandled id e own).runOn s =
      (formatEvent h.logger e (h.metadataText own) h.label none).runOn s := by
  rw [renderHandled, runOn_bind_ok (runOn_handler id h s hh)]

/-- Rendering by a handler leaves the session as it is. -/
theorem runOn_renderHandled_snd (id : HandlerId) (e : Event) (own : Metadata) (s : Session) :
    ((renderHandled id e own).runOn s).2 = s :=
  runOn_bind_snd (runOn_handler_snd id s) fun h => runOn_formatEvent_snd h.logger e _ h.label none s

/-- An event goes through a handler: below its level nothing happens, and the
    threshold of the logger does not matter. -/
theorem runOn_logHandled (id : HandlerId) (h : Handler) (e : Event) (own : Metadata)
    (s : Session) (hh : s.handler? id = some h) :
    (logHandled id e own).runOn s =
      if h.isLogging e.severity then
        (renderHandled id e own >>= write h.logger).runOn s
      else (.ok (), s) := by
  rw [logHandled, runOn_bind_ok (runOn_handler id h s hh)]
  by_cases hlog : h.isLogging e.severity = true
  · rw [if_pos hlog, if_pos hlog]
  · rw [if_neg hlog, if_neg hlog]
    rfl

theorem runOn_logHandled_none (id : HandlerId) (e : Event) (own : Metadata) (s : Session)
    (hh : s.handler? id = none) : (logHandled id e own).runOn s = (.error .dangling, s) := by
  rw [logHandled, runOn_bind_error (runOn_handler_none id s hh)]

/-- A handler whose logger is not there writes nothing. -/
theorem runOn_logHandled_dangling (id : HandlerId) (h : Handler) (e : Event) (own : Metadata)
    (s : Session) (hh : s.handler? id = some h) (hl : s.logger? h.logger = none) :
    ((logHandled id e own).runOn s).2 = s := by
  -- The logger is looked for when the event is rendered.
  have hrender : (renderHandled id e own).runOn s = (.error .dangling, s) := by
    rw [runOn_renderHandled id h e own s hh, formatEvent,
      runOn_bind_error (runOn_logger_none h.logger s hl)]
  rw [runOn_logHandled id h e own s hh, runOn_bind_error hrender]
  by_cases hlog : h.isLogging e.severity = true
  · rw [if_pos hlog]
  · rw [if_neg hlog]

/-- An event goes through a handler whose logger is there. -/
theorem runOn_logHandled_logger (id : HandlerId) (h : Handler) (l : Logger) (e : Event)
    (own : Metadata) (s : Session) (hh : s.handler? id = some h)
    (hl : s.logger? h.logger = some l) :
    (logHandled id e own).runOn s =
      if h.isLogging e.severity then
        match l.formatEvent (.present s.now) e (h.metadataText own) h.label with
        | .ok line => (writeLine l.sink line).runOn s
        | .error failure => (.error failure, s)
      else (.ok (), s) := by
  have hrender := (runOn_renderHandled id h e own s hh).trans
    (runOn_formatEvent h.logger l e (h.metadataText own) h.label none s hl)
  rw [Occasion.ofMoment?_none] at hrender
  rw [runOn_logHandled id h e own s hh]
  cases hline : l.formatEvent (.present s.now) e (h.metadataText own) h.label with
  | ok line =>
      rw [hline] at hrender
      rw [runOn_bind_ok hrender, runOn_write h.logger l line s hl]
  | error failure =>
      rw [hline] at hrender
      rw [runOn_bind_error hrender]

/-- An event taken as a mapping leaves the session as it is: the handler only
    gives its line back. -/
theorem runOn_process_snd (id : HandlerId) (method : String) (dict : Metadata) (s : Session) :
    ((process id method dict).runOn s).2 = s := by
  refine runOn_bind_snd (runOn_handler_snd id s) fun h => ?_
  by_cases hlog : h.isLogging (methodSeverity method) = true
  · simp only [hlog, if_true]
    exact runOn_bind_snd (runOn_renderHandled_snd id _ _ s) fun _ => rfl
  · simp only [hlog]
    rfl

theorem runOn_makeHandler_given (label : Value) (id : LoggerId) (level metadata : Value)
    (s : Session) :
    (makeHandler label (some id) level metadata).runOn s =
      match Handler.make label id level metadata with
      | .ok h => (.ok ⟨s.handlers.size⟩, { s with handlers := s.handlers.push h })
      | .error failure => (.error failure, s) := by
  refine (runOn_bind_ok (runOn_pure id s) _).trans ?_
  simp only []
  cases Handler.make label id level metadata <;> rfl

/-- The shared logger is there already, or it is made now; nothing else is
    different. -/
theorem runOn_sharedLogger (s : Session) :
    ∃ id loggers shared, sharedLogger.runOn s =
      (.ok id, { s with loggers := loggers, shared := shared }) := by
  cases hshared : s.shared with
  | some id =>
      have hsame : sharedLogger.runOn s = (.ok id, s) := by
        rw [sharedLogger, runOn_bind_ok (runOn_get s), hshared]
        rfl
      exact ⟨id, s.loggers, s.shared, hsame⟩
  | none =>
      rcases show ∃ l, Logger.ofOptions .verbose .stdout {} = .ok l from ⟨_, rfl⟩ with ⟨l, hl⟩
      have hmade : (ofExcept (Logger.ofOptions .verbose .stdout {})).runOn s = (.ok l, s) := by
        rw [runOn_ofExcept, hl]
      refine ⟨⟨s.loggers.size⟩, s.loggers.push l, some ⟨s.loggers.size⟩, ?_⟩
      rw [sharedLogger, runOn_bind_ok (runOn_get s), hshared]
      exact runOn_bind_ok hmade _

/-- A handler without a logger of its own is one with the shared logger, which is
    made first if it has to be. -/
theorem runOn_makeHandler_shared (label level metadata : Value) (s : Session) :
    ∃ id loggers shared, (makeHandler label none level metadata).runOn s =
      (makeHandler label (some id) level metadata).runOn
        { s with loggers := loggers, shared := shared } := by
  rcases runOn_sharedLogger s with ⟨id, loggers, shared, hs⟩
  exact ⟨id, loggers, shared, runOn_bind_ok hs _⟩

end Action

end TextLog
