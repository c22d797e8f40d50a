import TextLog.Proofs.Session.Operation

/-!
# Changes of Sessions

What any operation can do to a session.

Most operations touch neither outputs nor handlers. The others open an output,
add a handler, assign to one, or log, and logging touches nothing but what
outputs hold. `Session.Change` lists these possibilities, and `change_afterOp`
goes through the operations once, so that an invariant of outputs or of handlers
is proved by a few cases and not by one for each operation.

## Main definitions

* `Session.OutputsOnly`: Nothing but what outputs hold is different.
* `Outputs`, `Session.outputs`: What the outputs hold.
* `Operation.logs`: The operations that write lines.
* `Session.Change`: What an operation can do.

## Theorems

* `outputsOnly_logEvent`, `outputsOnly_dispatch`, `outputsOnly_logHandled`:
  Logging changes outputs only.
* `change_afterOp`: Every operation does one of the things listed.
-/

namespace TextLog

open Time

/-- What the outputs of a session hold, shown or pending. -/
structure Outputs where
  shown : String
  pending : String
  streams : Array Stream
  memories : Array (List String)

/-- The operations that write lines. -/
def Operation.logs : Operation → Bool
  | .log .. => true
  | .dispatch .. => true
  | .logHandled .. => true
  | _ => false

namespace Session

/-! ### What logging can change -/

/-- Nothing but what the outputs hold is different. -/
def OutputsOnly (s t : Session) : Prop :=
  ∃ stdout streams memories,
    t = { s with stdout := stdout, streams := streams, memories := memories }

theorem outputsOnly_refl (s : Session) : s.OutputsOnly s :=
  ⟨s.stdout, s.streams, s.memories, rfl⟩

theorem outputsOnly_writeLine (sink : Sink) (line : String) (s : Session) :
    s.OutputsOnly ((Action.writeLine sink line).runOn s).2 := by
  cases sink with
  | stdout =>
      rw [Action.runOn_writeLine_stdout]
      exact ⟨_, _, _, rfl⟩
  | memory id =>
      rw [Action.runOn_writeLine_memory]
      exact ⟨_, _, _, rfl⟩
  | stream id =>
      rw [Action.runOn_writeLine_stream]
      cases s.stream? id with
      | none => exact outputsOnly_refl s
      | some stream =>
          simp only []
          cases stream.writeLine line with
          | error failure => exact outputsOnly_refl s
          | ok written => exact ⟨_, _, _, rfl⟩

theorem outputsOnly_logEvent (id : LoggerId) (e : Event) (metadata : Metadata) (s : Session) :
    s.OutputsOnly ((Action.logEvent id e metadata).runOn s).2 := by
  cases hl : s.logger? id with
  | none =>
      rw [Action.runOn_logEvent_none id e metadata s hl]
      exact outputsOnly_refl s
  | some l =>
      rw [Action.runOn_logEvent id l e metadata s hl]
      by_cases hlog : l.isLogging e.severity = true
      · rw [if_pos hlog]
        cases l.formatEvent (.present s.now) e metadata.pretty .null with
        | error failure => exact outputsOnly_refl s
        | ok line => exact outputsOnly_writeLine l.sink line s
      · rw [if_neg hlog]
        exact outputsOnly_refl s

theorem outputsOnly_dispatch (id : DispatcherId) (severity : Severity) (message : Value)
    (given : GivenSite) (level : Nat) (stack : List CallSite) (s : Session) :
    s.OutputsOnly ((Action.dispatch id severity message given level stack).runOn s).2 := by
  by_cases hpass : s.isLogging id severity = true
  · rcases (Action.isLogging_iff s id severity).mp hpass with ⟨l, hl, hlog⟩
    rw [Action.runOn_dispatch id severity message given level stack s l hl hlog]
    cases given.resolve level stack with
    | error failure => exact outputsOnly_refl s
    | ok site =>
        simp only []
        cases l.formatEvent (.present s.now)
            ⟨severity, message, site.function, site.line, site.file⟩ none .null with
        | error failure => exact outputsOnly_refl s
        | ok line => exact outputsOnly_writeLine l.sink line s
  · rw [Bool.not_eq_true] at hpass
    rw [Action.runOn_dispatch_silent id severity message given level stack s hpass]
    exact outputsOnly_refl s

theorem outputsOnly_logHandled (id : HandlerId) (e : Event) (own : Metadata) (s : Session) :
    s.OutputsOnly ((Action.logHandled id e own).runOn s).2 := by
  cases hh : s.handler? id with
  | none =>
      rw [Action.runOn_logHandled_none id e own s hh]
      exact outputsOnly_refl s
  | some h =>
      cases hl : s.logger? h.logger with
      | none =>
          rw [Action.runOn_logHandled_dangling id h e own s hh hl]
          exact outputsOnly_refl s
      | some l =>
          rw [Action.runOn_logHandled_logger id h l e own s hh hl]
          by_cases hlog : h.isLogging e.severity = true
          · rw [if_pos hlog]
            cases l.formatEvent (.present s.now) e (h.metadataText own) h.label with
            | error failure => exact outputsOnly_refl s
            | ok line => exact outputsOnly_writeLine l.sink line s
          · rw [if_neg hlog]
            exact outputsOnly_refl s

/-! ### What operations can change -/

/-- What the outputs hold. The modes of the standard output are not part of it. -/
def outputs (s : Session) : Outputs :=
  ⟨s.stdout.shown, s.stdout.pending, s.streams, s.memories⟩

/-- What an operation can do to a session. -/
inductive Change (s : Session) (op : Operation) (t : Session) : Prop where
  | quiet (hlogs : op.logs = false) (houtputs : t.outputs = s.outputs)
      (hhandlers : t.handlers = s.handlers)
  | newStream (canFlush : Bool) (refusal : String → Option String)
      (hop : op = .openStream canFlush refusal)
      (ht : t = { s with streams := s.streams.push (.opened canFlush refusal) })
  | newMemory (hop : op = .openMemory) (ht : t = { s with memories := s.memories.push [] })
  | madeHandler (h : Handler) (label : Value) (logger : LoggerId) (level metadata : Value)
      (hmade : Handler.make label logger level metadata = .ok h) (hlogs : op.logs = false)
      (houtputs : t.outputs = s.outputs) (hhandlers : t.handlers = s.handlers.push h)
  | copiedHandler (id : HandlerId) (h : Handler) (hh : s.handler? id = some h)
      (hlogs : op.logs = false) (houtputs : t.outputs = s.outputs)
      (hhandlers : t.handlers = s.handlers.push h.copy)
  | editedHandler (id : HandlerId) (h edited : Handler) (e : HandlerEdit)
      (hh : s.handler? id = some h) (hedit : h.edit e = .ok edited) (hlogs : op.logs = false)
      (houtputs : t.outputs = s.outputs)
      (hhandlers : t.handlers = s.handlers.setIfInBounds id.index edited)
  | logged (hlogs : op.logs = true) (honly : s.OutputsOnly t)

/-- Switching to writing through shows nothing. -/
theorem outputs_unbuffer (s : Session) :
    { s with stdout := s.stdout.unbuffer }.outputs = s.outputs := by
  rw [outputs, Stdout.unbuffer]
  by_cases hplain : s.stdout.plain = true
  · rw [if_pos hplain]
    rfl
  · rw [if_neg hplain]
    rfl

theorem change_makeLogger (s : Session) (threshold : Value) (sink : Sink) (o : LoggerOptions) :
    s.Change (.makeLogger threshold sink o) (s.afterOp (.makeLogger threshold sink o)) := by
  rw [afterOp, Operation.perform, Action.runOn_then_true, Action.runOn_makeLogger]
  cases Logger.make threshold sink o <;> exact .quiet rfl rfl rfl

theorem change_editLogger (s : Session) (id : LoggerId) (e : LoggerEdit) :
    s.Change (.editLogger id e) (s.afterOp (.editLogger id e)) := by
  rw [afterOp, Operation.perform, Action.runOn_then_true]
  cases hl : s.logger? id with
  | none =>
      rw [Action.editLogger, Action.runOn_bind_error (Action.runOn_logger_none id s hl)]
      exact .quiet rfl rfl rfl
  | some l =>
      rw [runOn_editLogger s id e l hl]
      exact .quiet rfl rfl rfl

theorem change_activate (s : Session) (id : DispatcherId) (threshold : Value)
    (prepared : Option LoggerId) :
    s.Change (.activate id threshold prepared) (s.afterOp (.activate id threshold prepared)) := by
  rw [afterOp, Operation.perform]
  cases prepared with
  | none =>
      rw [Action.runOn_activate_new]
      cases Logger.make threshold .stdout {} with
      | error failure => exact .quiet rfl rfl rfl
      | ok l => exact .quiet rfl (outputs_unbuffer s) rfl
  | some given =>
      cases hl : s.logger? given with
      | none =>
          rw [Action.runOn_activate_dangling id threshold given s hl]
          exact .quiet rfl rfl rfl
      | some l =>
          rw [Action.runOn_activate_given id threshold given l s hl]
          by_cases hsink : l.sink.isDefault = true
          · rw [if_pos hsink]
            exact .quiet rfl (outputs_unbuffer s) rfl
          · rw [if_neg hsink]
            exact .quiet rfl rfl rfl

theorem change_activateStream (s : Session) (id : DispatcherId) (target : SinkTarget)
    (threshold : Value) :
    s.Change (.activateStream id target threshold)
      (s.afterOp (.activateStream id target threshold)) := by
  rw [afterOp, Operation.perform, Action.runOn_then_true, Action.runOn_activateStream]
  cases target.toSink.bind fun sink => Logger.make threshold sink {} <;> exact .quiet rfl rfl rfl

/-- The shared logger may have to be made first, but it is no handler. -/
theorem change_makeHandler (s : Session) (label : Value) (logger : Option LoggerId)
    (level metadata : Value) :
    s.Change (.makeHandler label logger level metadata)
      (s.afterOp (.makeHandler label logger level metadata)) := by
  have hgiven : ∀ (id : LoggerId) (t : Session), t.outputs = s.outputs → t.handlers = s.handlers →
      s.Change (.makeHandler label logger level metadata)
        ((Action.makeHandler label (some id) level metadata).runOn t).2 := by
    intro id t houtputs hhandlers
    rw [Action.runOn_makeHandler_given]
    cases hmade : Handler.make label id level metadata with
    | error failure => exact .quiet rfl houtputs hhandlers
    | ok h =>
        exact .madeHandler h label id level metadata hmade rfl houtputs
          (congrArg (·.push h) hhandlers)
  rw [afterOp, Operation.perform, Action.runOn_then_true]
  cases logger with
  | some id => exact hgiven id s rfl rfl
  | none =>
      rcases Action.runOn_makeHandler_shared label level metadata s with
        ⟨id, loggers, shared, hmade⟩
      rw [hmade]
      exact hgiven id { s with loggers := loggers, shared := shared } rfl rfl

theorem change_editHandler (s : Session) (id : HandlerId) (e : HandlerEdit) :
    s.Change (.editHandler id e) (s.afterOp (.editHandler id e)) := by
  rw [afterOp, Operation.perform, Action.runOn_then_true]
  cases hh : s.handler? id with
  | none =>
      rw [Action.runOn_editHandler_none id e s hh]
      exact .quiet rfl rfl rfl
  | some h =>
      rw [Action.runOn_editHandler id h e s hh]
      cases hedit : h.edit e with
      | error failure => exact .quiet rfl rfl rfl
      | ok edited => exact .editedHandler id h edited e hh hedit rfl rfl rfl

theorem change_copyHandler (s : Session) (id : HandlerId) :
    s.Change (.copyHandler id) (s.afterOp (.copyHandler id)) := by
  rw [afterOp, Operation.perform]
  cases hh : s.handler? id with
  | none =>
      rw [Action.runOn_bind_error (Action.runOn_handler_none id s hh)]
      exact .quiet rfl rfl rfl
  | some h =>
      rw [Action.runOn_bind_ok (Action.runOn_handler id h s hh),
        Action.runOn_bind_ok (Action.runOn_addHandler h.copy s)]
      exact .copiedHandler id h hh rfl rfl rfl

/-- Every operation does one of the things listed, whether it succeeds or
    fails. -/
theorem change_afterOp (s : Session) (op : Operation) : s.Change op (s.afterOp op) := by
  cases op with
  | setClock now => exact .quiet rfl rfl rfl
  | openStream canFlush refusal => exact .newStream canFlush refusal rfl rfl
  | openMemory => exact .newMemory rfl rfl
  | makeLogger threshold sink o => exact change_makeLogger s threshold sink o
  | editLogger id e => exact change_editLogger s id e
  | log id e metadata =>
      rw [afterOp, Operation.perform, Action.runOn_then_true]
      exact .logged rfl (outputsOnly_logEvent id e metadata s)
  | makeDispatcher active => exact .quiet rfl rfl rfl
  | activate id threshold prepared => exact change_activate s id threshold prepared
  | activateStream id target threshold => exact change_activateStream s id target threshold
  | assignLogger id active => exact .quiet rfl rfl rfl
  | dispatch id severity message given level stack =>
      rw [afterOp, Operation.perform, Action.runOn_then_true]
      exact .logged rfl (outputsOnly_dispatch id severity message given level stack s)
  | makeHandler label logger level metadata =>
      exact change_makeHandler s label logger level metadata
  | editHandler id e => exact change_editHandler s id e
  | copyHandler id => exact change_copyHandler s id
  | renderHandled id e own =>
      rw [afterOp, Operation.perform, Action.runOn_then_true, Action.runOn_renderHandled_snd]
      exact .quiet rfl rfl rfl
  | logHandled id e own =>
      rw [afterOp, Operation.perform, Action.runOn_then_true]
      exact .logged rfl (outputsOnly_logHandled id e own s)
  | process id method dict =>
      rw [afterOp, Operation.perform, Action.runOn_then_true, Action.runOn_process_snd]
      exact .quiet rfl rfl rfl

end Session

end TextLog
