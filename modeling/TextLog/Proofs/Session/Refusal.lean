import TextLog.Proofs.Session.Operation

/-!
# Refused Operations

An operation that fails or is refused leaves the session as it was.

Each operation checks before it stores: a logger is built before it is
activated, a date formatter before it is assigned, a line is made before it is
written. A check that came too late would leave a session half changed, which
would only show in a later operation. `Operation.Refused` lists the reasons for
which an operation is refused, with what is answered and said about it. Nothing
else is different afterwards: no logger, dispatcher or handler, and no output.

Two operations are not like this. A format that is no text is kept although it
cannot be compiled, and a handler that cannot be made may have caused the shared
logger to be made. `Operation.keepsPart` names them. All others leave nothing
when they fail, for whatever reason.

## Main definitions

* `Operation.notes`: The diagnostics of an operation.
* `Operation.keepsPart`: The operations that may leave a part when they fail.
* `Operation.Refused`: The reasons for which operations are refused.

## Theorems

* `setIfInBounds_loggers_self`: A logger put in its own place changes nothing.
* `afterOp_of_not_accepted`: What is not accepted leaves a diagnostic at most.
* `outcome_of_refused`, `notes_of_refused`: What refused operations answer and
  say.
* `refused_leaves_session`: Refused operations leave everything as it was.
-/

namespace TextLog

open Time

namespace Operation

/-- The diagnostics of an operation: only the activation of a logger that does
    not write to the standard output has one. -/
def notes (s : Session) : Operation → List Diagnostic
  | .activate _ _ (some given) =>
    match s.logger? given with
    | some l => if l.sink.isDefault then [] else [refusalDiagnostic l]
    | none => []
  | _ => []

/-- The operations that may leave a part of what they were to do when they
    fail. -/
def keepsPart : Operation → Bool
  | .editLogger _ (.format _) => true
  | .makeHandler _ none _ _ => true
  | _ => false

/-- The reasons for which operations are refused, with the outcome and the
    diagnostics. -/
inductive Refused (s : Session) : Operation → Except Failure Bool → List Diagnostic → Prop where
  | threshold {id : LoggerId} {l : Logger} {v : Value} {failure : Failure}
      (hl : s.logger? id = some l) (hv : Severity.parse v = .error failure) :
      Refused s (.editLogger id (.threshold v)) (.error failure) []
  | zone {id : LoggerId} {l : Logger} {z : ZoneSetting} {failure : Failure}
      (hl : s.logger? id = some l) (hz : z.resolve = .error failure) :
      Refused s (.editLogger id (.timeZone z)) (.error failure) []
  | level {id : HandlerId} {h : Handler} {v : Value} {failure : Failure}
      (hh : s.handler? id = some h) (hv : Severity.parse v = .error failure) :
      Refused s (.editHandler id (.level v)) (.error failure) []
  | key {id : HandlerId} {h : Handler} {key : String}
      (hh : s.handler? id = some h) (hkey : Metadata.has h.metadata key = false) :
      Refused s (.editHandler id (.delete key)) (.error (.missingKey key)) []
  | newThreshold {id : DispatcherId} {v : Value} {failure : Failure}
      (hv : Severity.parse v = .error failure) :
      Refused s (.activate id v none) (.error failure) []
  /-- A prepared logger does not write to the standard output. This is no
      failure, and it is said once. -/
  | sink {id : DispatcherId} {v : Value} {given : LoggerId} {l : Logger}
      (hl : s.logger? given = some l) (hsink : l.sink.isDefault = false) :
      Refused s (.activate id v (some given)) (.ok false) [refusalDiagnostic l]
  | object {id : DispatcherId} {target threshold : Value} :
      Refused s (.activateStream id (.object target) threshold) (.error (.notWritable target)) []
  | streamThreshold {id : DispatcherId} {stream : StreamId} {v : Value} {failure : Failure}
      (hv : Severity.parse v = .error failure) :
      Refused s (.activateStream id (.stream stream) v) (.error failure) []
  | date {id : LoggerId} {l : Logger} {e : Event} {metadata : Metadata} {failure : Failure}
      (hl : s.logger? id = some l) (hlog : l.isLogging e.severity = true)
      (hdate : l.dateFormatter.formatAt (.present s.now) = .error failure) :
      Refused s (.log id e metadata) (.error failure) []
  | dispatchedDate {id : DispatcherId} {severity : Severity} {message : Value} {given : GivenSite}
      {level : Nat} {stack : List CallSite} {site : CallSite} {l : Logger} {failure : Failure}
      (hl : s.activeLogger? id = some l) (hlog : l.isLogging severity = true)
      (hsite : given.resolve level stack = .ok site)
      (hdate : l.dateFormatter.formatAt (.present s.now) = .error failure) :
      Refused s (.dispatch id severity message given level stack) (.error failure) []
  | handledDate {id : HandlerId} {h : Handler} {l : Logger} {e : Event} {own : Metadata}
      {failure : Failure} (hh : s.handler? id = some h) (hl : s.logger? h.logger = some l)
      (hlog : h.isLogging e.severity = true)
      (hdate : l.dateFormatter.formatAt (.present s.now) = .error failure) :
      Refused s (.logHandled id e own) (.error failure) []

end Operation

namespace Session

/-- A logger put in its own place changes nothing. -/
theorem setIfInBounds_loggers_self {s : Session} {id : LoggerId} {l : Logger}
    (hl : s.logger? id = some l) :
    { s with loggers := s.loggers.setIfInBounds id.index l } = s := by
  have hsame : s.loggers.setIfInBounds id.index l = s.loggers := by
    rcases Array.getElem?_eq_some_iff.mp hl with ⟨hlt, hget⟩
    rw [Array.setIfInBounds_def, dif_pos hlt, ← hget, Array.set_getElem_self]
  rw [hsame]

/-- A logger is left as it was by an assignment that fails, but for that of a
    format. -/
theorem leftBy_of_not_keepsPart (l : Logger) (id : LoggerId) (e : LoggerEdit)
    (hpart : (Operation.editLogger id e).keepsPart = false) : l.leftBy e = l := by
  cases e with
  | format v => exact absurd hpart (by simp only [Operation.keepsPart, reduceCtorEq,
      not_false_eq_true])
  | _ => rfl

/-- What an action leaves when it fails is the session that it found. -/
def FailsCleanly {α : Type} (s : Session) (a : Action α) : Prop :=
  ∀ failure, (a.runOn s).1 = .error failure → (a.runOn s).2 = s

theorem failsCleanly_of_snd {α : Type} {s : Session} {a : Action α} (h : (a.runOn s).2 = s) :
    s.FailsCleanly a :=
  fun _ _ => h

theorem failsCleanly_of_ok {α : Type} {s t : Session} {a : Action α} {x : α}
    (h : a.runOn s = (.ok x, t)) : s.FailsCleanly a := by
  intro failure hfail
  rw [h] at hfail
  exact absurd hfail (by simp only [reduceCtorEq, not_false_eq_true])

/-- An action that runs like another one fails like it. -/
theorem failsCleanly_congr {α : Type} {s : Session} {a b : Action α} (h : a.runOn s = b.runOn s)
    (hb : s.FailsCleanly b) : s.FailsCleanly a := by
  intro failure hfail
  rw [h] at hfail ⊢
  exact hb failure hfail

/-- An operation that is not accepted has failed, if its action accepts whatever
    succeeds. -/
theorem snd_of_not_accepted {α : Type} {s : Session} {a : Action α} (ha : s.FailsCleanly a)
    (h : ((do let _ ← a; return true : Action Bool).runOn s).1 ≠ .ok true) :
    ((do let _ ← a; return true : Action Bool).runOn s).2 = s := by
  rw [Action.runOn_then_true] at h ⊢
  cases houtcome : (a.runOn s).1 with
  | error failure => exact ha failure houtcome
  | ok x =>
      rw [houtcome] at h
      exact absurd rfl h

/-! ### Actions that fail cleanly -/

theorem failsCleanly_writeLine (sink : Sink) (line : String) (s : Session) :
    s.FailsCleanly (Action.writeLine sink line) := by
  cases sink with
  | stdout => exact failsCleanly_of_ok (Action.runOn_writeLine_stdout line s)
  | memory id => exact failsCleanly_of_ok (Action.runOn_writeLine_memory id line s)
  | stream id =>
      have hrun := Action.runOn_writeLine_stream id line s
      cases hstream : s.stream? id with
      | none =>
          rw [hstream] at hrun
          exact failsCleanly_of_snd (congrArg Prod.snd hrun)
      | some stream =>
          rw [hstream] at hrun
          cases hwrite : stream.writeLine line with
          | error failure =>
              simp only [hwrite] at hrun
              exact failsCleanly_of_snd (congrArg Prod.snd hrun)
          | ok written =>
              simp only [hwrite] at hrun
              exact failsCleanly_of_ok hrun

/-- A line is made before it is written, so an event that cannot be shown leaves
    nothing. -/
theorem failsCleanly_logEvent (id : LoggerId) (e : Event) (metadata : Metadata) (s : Session) :
    s.FailsCleanly (Action.logEvent id e metadata) := by
  cases hl : s.logger? id with
  | none => exact failsCleanly_of_snd (congrArg Prod.snd (Action.runOn_logEvent_none id e _ s hl))
  | some l =>
      have hrun := Action.runOn_logEvent id l e metadata s hl
      by_cases hlog : l.isLogging e.severity = true
      · rw [if_pos hlog] at hrun
        cases hline : l.formatEvent (.present s.now) e metadata.pretty .null with
        | error failure =>
            rw [hline] at hrun
            exact failsCleanly_of_snd (congrArg Prod.snd hrun)
        | ok line =>
            rw [hline] at hrun
            exact failsCleanly_congr hrun (failsCleanly_writeLine l.sink line s)
      · rw [if_neg hlog] at hrun
        exact failsCleanly_of_ok hrun

theorem failsCleanly_dispatch (id : DispatcherId) (severity : Severity) (message : Value)
    (given : GivenSite) (level : Nat) (stack : List CallSite) (s : Session) :
    s.FailsCleanly (Action.dispatch id severity message given level stack) := by
  by_cases hpass : s.isLogging id severity = true
  · rcases (Action.isLogging_iff s id severity).mp hpass with ⟨l, hl, hlog⟩
    have hrun := Action.runOn_dispatch id severity message given level stack s l hl hlog
    cases hsite : given.resolve level stack with
    | error failure =>
        rw [hsite] at hrun
        exact failsCleanly_of_snd (congrArg Prod.snd hrun)
    | ok site =>
        rw [hsite] at hrun
        simp only [] at hrun
        cases hline : l.formatEvent (.present s.now)
            ⟨severity, message, site.function, site.line, site.file⟩ none .null with
        | error failure =>
            rw [hline] at hrun
            exact failsCleanly_of_snd (congrArg Prod.snd hrun)
        | ok line =>
            rw [hline] at hrun
            exact failsCleanly_congr hrun (failsCleanly_writeLine l.sink line s)
  · rw [Bool.not_eq_true] at hpass
    exact failsCleanly_of_ok
      (Action.runOn_dispatch_silent id severity message given level stack s hpass)

theorem failsCleanly_logHandled (id : HandlerId) (e : Event) (own : Metadata) (s : Session) :
    s.FailsCleanly (Action.logHandled id e own) := by
  cases hh : s.handler? id with
  | none => exact failsCleanly_of_snd (congrArg Prod.snd (Action.runOn_logHandled_none id e _ s hh))
  | some h =>
      cases hl : s.logger? h.logger with
      | none => exact failsCleanly_of_snd (Action.runOn_logHandled_dangling id h e own s hh hl)
      | some l =>
          have hrun := Action.runOn_logHandled_logger id h l e own s hh hl
          by_cases hlog : h.isLogging e.severity = true
          · rw [if_pos hlog] at hrun
            cases hline : l.formatEvent (.present s.now) e (h.metadataText own) h.label with
            | error failure =>
                rw [hline] at hrun
                exact failsCleanly_of_snd (congrArg Prod.snd hrun)
            | ok line =>
                rw [hline] at hrun
                exact failsCleanly_congr hrun (failsCleanly_writeLine l.sink line s)
          · rw [if_neg hlog] at hrun
            exact failsCleanly_of_ok hrun

theorem failsCleanly_makeLogger (threshold : Value) (sink : Sink) (o : LoggerOptions)
    (s : Session) : s.FailsCleanly (Action.makeLogger threshold sink o) := by
  have hrun := Action.runOn_makeLogger threshold sink o s
  cases hmade : Logger.make threshold sink o with
  | error failure =>
      rw [hmade] at hrun
      exact failsCleanly_of_snd (congrArg Prod.snd hrun)
  | ok l =>
      rw [hmade] at hrun
      exact failsCleanly_of_ok hrun

theorem failsCleanly_activateStream (id : DispatcherId) (target : SinkTarget) (threshold : Value)
    (s : Session) : s.FailsCleanly (Action.activateStream id target threshold) := by
  have hrun := Action.runOn_activateStream id target threshold s
  cases hmade : target.toSink.bind fun sink => Logger.make threshold sink {} with
  | error failure =>
      rw [hmade] at hrun
      exact failsCleanly_of_snd (congrArg Prod.snd hrun)
  | ok l =>
      rw [hmade] at hrun
      exact failsCleanly_of_ok hrun

theorem failsCleanly_editLogger (id : LoggerId) (e : LoggerEdit) (s : Session)
    (hpart : (Operation.editLogger id e).keepsPart = false) :
    s.FailsCleanly (Action.editLogger id e) := by
  cases hl : s.logger? id with
  | none =>
      have hrun : (Action.editLogger id e).runOn s = (.error .dangling, s) := by
        rw [Action.editLogger, Action.runOn_bind_error (Action.runOn_logger_none id s hl)]
      exact failsCleanly_of_snd (congrArg Prod.snd hrun)
  | some l =>
      have hrun := runOn_editLogger s id e l hl
      cases hedit : l.edit e with
      | error failure =>
          -- The logger that is left is put back in its place.
          rw [Logger.assign_of_edit_eq_error hedit, leftBy_of_not_keepsPart l id e hpart,
            setIfInBounds_loggers_self hl] at hrun
          exact failsCleanly_of_snd (congrArg Prod.snd hrun)
      | ok edited =>
          rw [hedit] at hrun
          exact failsCleanly_of_ok hrun

theorem failsCleanly_makeHandler (label : Value) (id : LoggerId) (level metadata : Value)
    (s : Session) : s.FailsCleanly (Action.makeHandler label (some id) level metadata) := by
  have hrun := Action.runOn_makeHandler_given label id level metadata s
  cases hmade : Handler.make label id level metadata with
  | error failure =>
      rw [hmade] at hrun
      exact failsCleanly_of_snd (congrArg Prod.snd hrun)
  | ok h =>
      rw [hmade] at hrun
      exact failsCleanly_of_ok hrun

theorem failsCleanly_editHandler (id : HandlerId) (e : HandlerEdit) (s : Session) :
    s.FailsCleanly (Action.editHandler id e) := by
  cases hh : s.handler? id with
  | none =>
      exact failsCleanly_of_snd (congrArg Prod.snd (Action.runOn_editHandler_none id e s hh))
  | some h =>
      have hrun := Action.runOn_editHandler id h e s hh
      cases hedit : h.edit e with
      | error failure =>
          rw [hedit] at hrun
          exact failsCleanly_of_snd (congrArg Prod.snd hrun)
      | ok edited =>
          rw [hedit] at hrun
          exact failsCleanly_of_ok hrun

theorem afterOp_copyHandler_of_not_accepted (s : Session) (id : HandlerId)
    (h : ((Operation.copyHandler id).perform.runOn s).1 ≠ .ok true) :
    s.afterOp (.copyHandler id) = s := by
  cases hh : s.handler? id with
  | none =>
      rw [afterOp, Operation.perform,
        Action.runOn_bind_error (Action.runOn_handler_none id s hh)]
  | some handler =>
      rw [Operation.perform, Action.runOn_bind_ok (Action.runOn_handler id handler s hh)] at h
      exact absurd rfl h

/-- An activation that is not accepted leaves a diagnostic if it was refused, and
    nothing if it has failed. -/
theorem afterOp_activate_of_not_accepted (s : Session) (id : DispatcherId) (threshold : Value)
    (prepared : Option LoggerId)
    (h : ((Operation.activate id threshold prepared).perform.runOn s).1 ≠ .ok true) :
    s.afterOp (.activate id threshold prepared) =
      { s with
        diagnostics := s.diagnostics ++ (Operation.activate id threshold prepared).notes s } := by
  rw [afterOp, Operation.perform]
  rw [Operation.perform] at h
  cases prepared with
  | none =>
      rw [Action.runOn_activate_new] at h ⊢
      cases hmade : Logger.make threshold .stdout {} with
      | error failure => simp only [Operation.notes, List.append_nil]
      | ok l =>
          rw [hmade] at h
          exact absurd rfl h
  | some given =>
      cases hl : s.logger? given with
      | none =>
          rw [Action.runOn_activate_dangling id threshold given s hl]
          simp only [Operation.notes, hl, List.append_nil]
      | some l =>
          rw [Action.runOn_activate_given id threshold given l s hl] at h ⊢
          by_cases hsink : l.sink.isDefault = true
          · rw [if_pos hsink] at h
            exact absurd rfl h
          · simp only [Operation.notes, hl, if_neg hsink]

/-- An operation that is not accepted leaves the session as it was, but for the
    diagnostic of a refused activation. -/
theorem afterOp_of_not_accepted (s : Session) (op : Operation) (hpart : op.keepsPart = false)
    (h : (op.perform.runOn s).1 ≠ .ok true) :
    s.afterOp op = { s with diagnostics := s.diagnostics ++ op.notes s } := by
  -- All other operations say nothing, and their actions fail cleanly.
  have hsilent : ∀ t : Session, s = t → t = { s with diagnostics := s.diagnostics ++ [] } := by
    intro t ht
    rw [← ht, List.append_nil]
  cases op with
  | activate id threshold prepared => exact afterOp_activate_of_not_accepted s id threshold _ h
  | setClock now => exact absurd rfl h
  | openStream canFlush refusal => exact absurd rfl h
  | openMemory => exact absurd rfl h
  | makeDispatcher active => exact absurd rfl h
  | assignLogger id active => exact absurd rfl h
  | copyHandler id => exact hsilent _ (afterOp_copyHandler_of_not_accepted s id h).symm
  | makeLogger threshold sink o =>
      exact hsilent _ (snd_of_not_accepted (failsCleanly_makeLogger threshold sink o s) h).symm
  | editLogger id e =>
      exact hsilent _ (snd_of_not_accepted (failsCleanly_editLogger id e s hpart) h).symm
  | log id e metadata =>
      exact hsilent _ (snd_of_not_accepted (failsCleanly_logEvent id e metadata s) h).symm
  | activateStream id target threshold =>
      exact hsilent _
        (snd_of_not_accepted (failsCleanly_activateStream id target threshold s) h).symm
  | dispatch id severity message given level stack =>
      exact hsilent _
        (snd_of_not_accepted (failsCleanly_dispatch id severity message given level stack s) h).symm
  | makeHandler label logger level metadata =>
      cases logger with
      | none => exact absurd hpart (by simp only [Operation.keepsPart, reduceCtorEq,
          not_false_eq_true])
      | some id =>
          exact hsilent _
            (snd_of_not_accepted (failsCleanly_makeHandler label id level metadata s) h).symm
  | editHandler id e =>
      exact hsilent _ (snd_of_not_accepted (failsCleanly_editHandler id e s) h).symm
  | renderHandled id e own =>
      exact hsilent _ (snd_of_not_accepted
        (failsCleanly_of_snd (Action.runOn_renderHandled_snd id e own s)) h).symm
  | logHandled id e own =>
      exact hsilent _ (snd_of_not_accepted (failsCleanly_logHandled id e own s) h).symm
  | process id method dict =>
      exact hsilent _ (snd_of_not_accepted
        (failsCleanly_of_snd (Action.runOn_process_snd id method dict s)) h).symm

/-! ### Reasons -/

/-- A line cannot be made when its date cannot be rendered. -/
theorem formatEvent_of_date {l : Logger} {occasion : Time.Occasion} {failure : Failure}
    (hdate : l.dateFormatter.formatAt occasion = .error failure) (e : Event)
    (metadata : Option String) (label : Value) :
    l.formatEvent occasion e metadata label = .error failure := by
  rw [Logger.formatEvent, hdate]
  rfl

theorem make_of_threshold {v : Value} {failure : Failure} (hv : Severity.parse v = .error failure)
    (sink : Sink) (o : LoggerOptions) : Logger.make v sink o = .error failure := by
  rw [Logger.make, hv]
  rfl

/-- What refused operations answer. -/
theorem outcome_of_refused {s : Session} {op : Operation} {outcome : Except Failure Bool}
    {diagnostics : List Diagnostic} (h : op.Refused s outcome diagnostics) :
    (op.perform.runOn s).1 = outcome := by
  cases h with
  | threshold hl hv =>
      rw [Operation.perform, Action.runOn_then_true, runOn_editLogger s _ _ _ hl, Logger.edit, hv]
      rfl
  | zone hl hz =>
      rw [Operation.perform, Action.runOn_then_true, runOn_editLogger s _ _ _ hl, Logger.edit,
        DateFormatter.make, hz]
      rfl
  | level hh hv =>
      rw [Operation.perform, Action.runOn_then_true, Action.runOn_editHandler _ _ _ s hh,
        Handler.edit, hv]
      rfl
  | key hh hkey =>
      rw [Operation.perform, Action.runOn_then_true, Action.runOn_editHandler _ _ _ s hh,
        Handler.edit, hkey]
      rfl
  | newThreshold hv =>
      rw [Operation.perform, Action.runOn_activate_new, make_of_threshold hv]
  | sink hl hsink =>
      rw [Operation.perform, Action.runOn_activate_given _ _ _ _ s hl, hsink]
      rfl
  | object =>
      rw [Operation.perform, Action.runOn_then_true, Action.runOn_activateStream]
      rfl
  | streamThreshold hv =>
      rw [Operation.perform, Action.runOn_then_true, Action.runOn_activateStream, SinkTarget.toSink,
        Except.bind, make_of_threshold hv]
      rfl
  | date hl hlog hdate =>
      rw [Operation.perform, Action.runOn_then_true, Action.runOn_logEvent _ _ _ _ s hl,
        if_pos hlog, formatEvent_of_date hdate]
      rfl
  | dispatchedDate hl hlog hsite hdate =>
      rw [Operation.perform, Action.runOn_then_true, Action.runOn_dispatch _ _ _ _ _ _ s _ hl hlog,
        hsite]
      simp only [formatEvent_of_date hdate]
      rfl
  | handledDate hh hl hlog hdate =>
      rw [Operation.perform, Action.runOn_then_true,
        Action.runOn_logHandled_logger _ _ _ _ _ s hh hl, if_pos hlog, formatEvent_of_date hdate]
      rfl

/-- What refused operations say. -/
theorem notes_of_refused {s : Session} {op : Operation} {outcome : Except Failure Bool}
    {diagnostics : List Diagnostic} (h : op.Refused s outcome diagnostics) :
    op.notes s = diagnostics := by
  cases h with
  | sink hl hsink =>
      rw [Operation.notes, hl]
      simp only [hsink, Bool.false_eq_true, if_false]
  | _ => rfl

theorem keepsPart_of_refused {s : Session} {op : Operation} {outcome : Except Failure Bool}
    {diagnostics : List Diagnostic} (h : op.Refused s outcome diagnostics) :
    op.keepsPart = false := by
  cases h <;> rfl

theorem not_accepted_of_refused {s : Session} {op : Operation} {outcome : Except Failure Bool}
    {diagnostics : List Diagnostic} (h : op.Refused s outcome diagnostics) :
    outcome ≠ .ok true := by
  cases h <;> simp only [ne_eq, reduceCtorEq, not_false_eq_true, Except.ok.injEq,
    Bool.false_eq_true]

/-- A refused operation leaves everything as it was: every logger, dispatcher and
    handler with all that they keep, and what every output holds, shown or
    pending. A refused activation is reported once, and is the only one that
    is. -/
theorem refused_leaves_session (s : Session) (op : Operation) (outcome : Except Failure Bool)
    (diagnostics : List Diagnostic) (h : op.Refused s outcome diagnostics) :
    outcome ≠ .ok true ∧
      op.perform.runOn s = (outcome, { s with diagnostics := s.diagnostics ++ diagnostics }) := by
  have houtcome := outcome_of_refused h
  have hrefused := not_accepted_of_refused h
  have hafter := afterOp_of_not_accepted s op (keepsPart_of_refused h) (houtcome ▸ hrefused)
  rw [notes_of_refused h] at hafter
  exact ⟨hrefused, Prod.ext houtcome hafter⟩

/-- On the first day of the calendar the clock of the system cannot tell the time,
    so an event that passes the threshold cannot be shown; and a logger that
    writes to a memory is refused. -/
theorem refused_leaves_session_first_day :
    ∃ s : Session, ∃ l : Logger,
      s = (start ⟨⟨1, 1, 1, 0, 0, 0, 0⟩, none⟩ false).after
        [.openMemory, .makeLogger (.text "info") (.memory ⟨0⟩) {},
          .assignLogger ⟨0⟩ (some ⟨0⟩)] ∧
      s.logger? ⟨0⟩ = some l ∧
      (Operation.dispatch ⟨0⟩ .error (.text "late")
        ⟨some (.text "f"), some (.int 1), some (.text "a")⟩ 1 []).perform.runOn s =
          (.error (.yearRange 0), s) ∧
      (Operation.activate ⟨0⟩ (.text "info") (some ⟨0⟩)).perform.runOn s =
        (.ok false, { s with diagnostics := s.diagnostics ++ [refusalDiagnostic l] }) := by
  rcases show ∃ s : Session, ∃ l : Logger,
      s = (start ⟨⟨1, 1, 1, 0, 0, 0, 0⟩, none⟩ false).after
        [.openMemory, .makeLogger (.text "info") (.memory ⟨0⟩) {}, .assignLogger ⟨0⟩ (some ⟨0⟩)] ∧
      s.now = ⟨⟨1, 1, 1, 0, 0, 0, 0⟩, none⟩ ∧ s.logger? ⟨0⟩ = some l ∧
      s.activeLogger? ⟨0⟩ = some l ∧ l.sink = .memory ⟨0⟩ ∧ l.threshold = .info ∧
      l.dateFormatter = ⟨.null, .home⟩ from ⟨_, _, rfl, rfl, rfl, rfl, rfl, rfl, rfl⟩ with
    ⟨s, l, hs, hnow, hl, hactive, hsink, hthreshold, hformatter⟩
  have hlog : l.isLogging .error = true := by
    rw [Logger.isLogging, hthreshold]
    rfl
  have hdate : l.dateFormatter.formatAt (.present s.now) = .error (.yearRange 0) := by
    rw [hformatter, hnow]
    rfl
  have hcustom : l.sink.isDefault = false := by
    rw [hsink]
    rfl
  have hdispatch := refused_leaves_session s (.dispatch ⟨0⟩ .error (.text "late")
    ⟨some (.text "f"), some (.int 1), some (.text "a")⟩ 1 []) _ _
    (.dispatchedDate hactive hlog rfl hdate)
  have hactivate := refused_leaves_session s (.activate ⟨0⟩ (.text "info") (some ⟨0⟩)) _ _
    (.sink hl hcustom)
  rw [List.append_nil] at hdispatch
  exact ⟨s, l, hs, hl, hdispatch.2, hactivate.2⟩

end Session

end TextLog
