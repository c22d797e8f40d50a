import TextLog.Proofs.Handler.Freshness
import TextLog.Session.Record
import TextLog.Session.Structured

/-!
# Programs

What a program can do with pipelines of structured events and with records, beside
what it does with the objects themselves.

A session that steps leave is reached whether they succeed or fail. Most of what a
step does is of no concern to structured events: these depend on the pipeline, on
the values that are bound and on the handlers, and the outputs, loggers, dispatchers
and records of a program are apart from them. `Action.Keeps` says that an action
leaves such a part as it is, and `Action.Preserves` that it leaves a property of
sessions true. Both hold of actions one after the other if they hold of each, so that
they are read off the steps that an action is made of.

## Main definitions

* `Step`: What a program can do.
* `Operation.isHandling`: Operations that are about handlers.
* `Session.afterStep`, `Session.afterSteps`: The session that steps leave.
* `Session.Reached`: A program reaches a session.
* `Session.wiring`, `Session.setup`: What structured events depend on.
* `Action.Keeps`: An action leaves a part of every session as it is.
* `Action.Preserves`: An action leaves a property of sessions true.

## Theorems

* `holds_after_bind`, `keeps_bind`, `preserves_bind`: Actions one after the other.
* `keeps_setup_perform`, `keeps_perform`: Operations keep the wiring, and most the handlers.
* `runOn_attemptRecord`, `keeps_emit`: Records.
-/

namespace TextLog

open Time

/-- What a program can do, with pipelines of structured events and with records. -/
inductive Step where
  | operation (op : Operation)
  /-- A new handler becomes the one of the pipeline. -/
  | configure (label : Value) (logger : Option LoggerId) (level : Value)
  | derive (l : StructuredLogger) (how : Derivation)
  | emit (l : StructuredLogger) (how : EmitBy) (message : Value) (args : List Value)
      (values : Metadata) (site : CallSite) (exception : Option String)
  | bindAmbient (values : Metadata)
  | unbindAmbient (keys : List String)
  | makeRecordHandler (logger : Option LoggerId) (level name sourceLevel : Value)
  | record (h : RecordHandler) (level : Value) (created : Option Value) (body : RecordBody)

/-- Performs a step. -/
def Step.perform : Step → Action Unit
  | .operation op => do
    let _ ← op.perform
  | .configure label logger level => do
    let _ ← Action.configurePipeline label logger level
  | .derive l how => do
    let _ ← Action.derive l how
  | .emit l how message args values site exception =>
    Action.emitStructured l how message args values site exception
  | .bindAmbient values => Action.bindAmbient values
  | .unbindAmbient keys => Action.unbindAmbient keys
  | .makeRecordHandler logger level name sourceLevel => do
    let _ ← Action.makeRecordHandler logger level name sourceLevel
  | .record h level created body => do
    let _ ← Action.emit h level created body

/-- An operation makes handlers or assigns to them. -/
def Operation.isHandling : Operation → Bool
  | .makeHandler _ _ _ _ => true
  | .editHandler _ _ => true
  | .copyHandler _ => true
  | _ => false

namespace Session

/-- The session that a step leaves, whether it succeeds or fails. -/
def afterStep (s : Session) (step : Step) : Session :=
  (step.perform.runOn s).2

/-- The session that steps leave one after the other. -/
def afterSteps (s : Session) (steps : List Step) : Session :=
  steps.foldl afterStep s

/-- A property that every step keeps is kept by a run of steps. -/
theorem afterSteps_induction {P : Session → Prop} (hstep : ∀ s step, P s → P (s.afterStep step))
    (s : Session) (steps : List Step) (hs : P s) : P (s.afterSteps steps) := by
  induction steps generalizing s with
  | nil => exact hs
  | cons step steps ih => exact ih (s.afterStep step) (hstep s step hs)

/-- A program reaches the session. -/
def Reached (s : Session) : Prop :=
  ∃ now plain steps, s = (start now plain).afterSteps steps

/-- The pipeline and the loggers with bound values. -/
def wiring (s : Session) : Option Pipeline × Array BoundLogger :=
  (s.pipeline, s.bounds)

/-- What structured events depend on, but for the loggers. -/
def setup (s : Session) : (Option Pipeline × Array BoundLogger) × Array Handler :=
  (s.wiring, s.handlers)

end Session

namespace Action

section Keeps

variable {α β γ : Type} {part : Session → γ}

/-- An action leaves a part of every session as it is, whether it succeeds or
    fails. -/
def Keeps (part : Session → γ) (a : Action α) : Prop :=
  ∀ s, part (a.runOn s).2 = part s

theorem keeps_pure (x : α) : Keeps part (pure x : Action α) :=
  fun _ => rfl

theorem keeps_ofExcept (x : Except Failure α) : Keeps part (ofExcept x) :=
  fun _ => rfl

theorem keeps_get : Keeps part (get : Action Session) :=
  fun _ => rfl

theorem keeps_require (x : Option α) : Keeps part (require x) :=
  fun s => by rw [runOn_require]

theorem keeps_logger (id : LoggerId) : Keeps part (logger id) :=
  fun s => by rw [runOn_logger_snd]

theorem keeps_handler (id : HandlerId) : Keeps part (handler id) :=
  fun s => by rw [runOn_handler_snd]

/-- An object that is found is there, and the session stays as it is. -/
theorem runOn_require_ok {x : Option α} {a : α} {s t : Session}
    (h : (require x).runOn s = (.ok a, t)) : x = some a ∧ t = s := by
  rw [runOn_require, Prod.mk.injEq] at h
  cases x with
  | none => exact absurd h.1 (by simp only [Option.elim_none, reduceCtorEq, not_false_eq_true])
  | some found => exact ⟨congrArg some (Except.ok.inj h.1), h.2.symm⟩

theorem runOn_handler_ok {id : HandlerId} {h : Handler} {s t : Session}
    (hrun : (handler id).runOn s = (.ok h, t)) : s.handler? id = some h ∧ t = s :=
  runOn_require_ok hrun

/-- What the first of two actions leaves where it fails, and the second where it goes
    on. -/
theorem holds_after_bind {P : Session → Prop} {a : Action α} {f : α → Action β} {s : Session}
    (ha : P (a.runOn s).2) (hf : ∀ x t, a.runOn s = (.ok x, t) → P ((f x).runOn t).2) :
    P ((a >>= f).runOn s).2 := by
  rw [runOn_bind]
  rcases h : a.runOn s with ⟨outcome, t⟩
  cases outcome with
  | ok x => exact hf x t h
  | error failure =>
      rw [h] at ha
      exact ha

/-- What each of two actions keeps is kept by one after the other. -/
theorem keeps_bind {a : Action α} {f : α → Action β} (ha : Keeps part a)
    (hf : ∀ x, Keeps part (f x)) : Keeps part (a >>= f) := by
  intro s
  rw [runOn_bind, ← ha s]
  rcases a.runOn s with ⟨outcome, t⟩
  cases outcome with
  | ok x => exact hf x t
  | error failure => rfl

/-- An action whose answer is not asked for keeps what it keeps. -/
theorem keeps_then {a : Action α} (ha : Keeps part a) (x : β) :
    Keeps part (do let _ ← a; return x) :=
  keeps_bind ha fun _ => keeps_pure x

theorem keeps_ite {c : Prop} [Decidable c] {a b : Action α} (ha : Keeps part a)
    (hb : Keeps part b) : Keeps part (if c then a else b) := by
  by_cases hc : c
  · rw [if_pos hc]
    exact ha
  · rw [if_neg hc]
    exact hb

end Keeps

section Preserves

variable {α β γ : Type} {P : Session → Prop}

/-- An action leaves a property of sessions true, whether it succeeds or fails. -/
def Preserves (P : Session → Prop) (a : Action α) : Prop :=
  ∀ s, P s → P (a.runOn s).2

/-- What each of two actions leaves true is left true by one after the other. -/
theorem preserves_bind {a : Action α} {f : α → Action β} (ha : Preserves P a)
    (hf : ∀ x, Preserves P (f x)) : Preserves P (a >>= f) := by
  intro s hs
  have hafter := ha s hs
  refine holds_after_bind hafter fun x t ht => ?_
  rw [ht] at hafter
  exact hf x t hafter

theorem preserves_pure (x : α) : Preserves P (pure x : Action α) :=
  fun _ hs => hs

theorem preserves_ofExcept (x : Except Failure α) : Preserves P (ofExcept x) :=
  fun _ hs => hs

theorem preserves_get : Preserves P (get : Action Session) :=
  fun _ hs => hs

/-- An action whose answer is not asked for leaves true what it leaves true. -/
theorem preserves_then {a : Action α} (ha : Preserves P a) (x : β) :
    Preserves P (do let _ ← a; return x) :=
  preserves_bind ha fun _ => preserves_pure x

theorem preserves_ite {c : Prop} [Decidable c] {a b : Action α} (ha : Preserves P a)
    (hb : Preserves P b) : Preserves P (if c then a else b) := by
  by_cases hc : c
  · rw [if_pos hc]
    exact ha
  · rw [if_neg hc]
    exact hb

/-- What depends on a part alone is left true by actions that keep this part. -/
theorem preserves_of_keeps {part : Session → γ} {a : Action α} (ha : Keeps part a)
    (hP : ∀ {s t : Session}, P s → part t = part s → P t) : Preserves P a :=
  fun s hs => hP hs (ha s)

end Preserves

/-! ### Operations -/

theorem keeps_addLogger (l : Logger) : Keeps Session.setup (addLogger l) :=
  fun _ => rfl

theorem keeps_makeLogger (threshold : Value) (sink : Sink) (o : LoggerOptions) :
    Keeps Session.setup (makeLogger threshold sink o) :=
  keeps_bind (keeps_ofExcept _) keeps_addLogger

theorem keeps_editLogger (id : LoggerId) (e : LoggerEdit) :
    Keeps Session.setup (editLogger id e) := by
  refine keeps_bind (keeps_logger id) fun l => ?_
  cases l.edit e with
  | ok edited => exact fun _ => rfl
  | error failure => exact fun _ => rfl

theorem keeps_writeLine (sink : Sink) (line : String) :
    Keeps Session.setup (writeLine sink line) := by
  cases sink with
  | stdout => exact fun _ => rfl
  | memory id => exact fun _ => rfl
  | stream id =>
      exact keeps_bind keeps_get fun _ => keeps_bind (keeps_require _) fun _ =>
        keeps_bind (keeps_ofExcept _) fun _ _ => rfl

theorem keeps_write (id : LoggerId) (line : String) : Keeps Session.setup (write id line) :=
  keeps_bind (keeps_logger id) fun l => keeps_writeLine l.sink line

theorem keeps_formatEvent (id : LoggerId) (e : Event) (metadata : Option String) (label : Value)
    (moment : Option Moment) : Keeps Session.setup (formatEvent id e metadata label moment) :=
  fun s => by rw [runOn_formatEvent_snd]

theorem keeps_logEvent (id : LoggerId) (e : Event) (metadata : Metadata) :
    Keeps Session.setup (logEvent id e metadata) :=
  keeps_bind (keeps_logger id) fun _ =>
    keeps_ite (keeps_bind (keeps_formatEvent _ _ _ _ _) fun _ => keeps_write _ _) (keeps_pure ())

theorem keeps_logHandled (id : HandlerId) (e : Event) (own : Metadata) :
    Keeps Session.setup (logHandled id e own) := by
  refine keeps_bind (keeps_handler id) fun h => keeps_ite (keeps_bind ?_ fun _ => keeps_write _ _)
    (keeps_pure ())
  exact fun s => by rw [runOn_renderHandled_snd]

theorem keeps_process (id : HandlerId) (method : String) (dict : Metadata) :
    Keeps Session.setup (process id method dict) :=
  fun s => by rw [runOn_process_snd]

theorem keeps_activate (id : DispatcherId) (threshold : Value) (prepared : Option LoggerId) :
    Keeps Session.setup (activate id threshold prepared) := by
  cases prepared with
  | none =>
      exact keeps_bind (keeps_makeLogger _ _ _) fun _ _ => rfl
  | some given =>
      exact keeps_bind (keeps_logger given) fun _ => keeps_ite (fun _ => rfl) fun _ => rfl

theorem keeps_activateStream (id : DispatcherId) (target : SinkTarget) (threshold : Value) :
    Keeps Session.setup (activateStream id target threshold) :=
  keeps_bind (keeps_ofExcept _) fun _ => keeps_bind (keeps_makeLogger _ _ _) fun _ _ => rfl

theorem keeps_dispatch (id : DispatcherId) (severity : Severity) (message : Value)
    (given : GivenSite) (level : Nat) (stack : List CallSite) :
    Keeps Session.setup (dispatch id severity message given level stack) := by
  refine keeps_bind keeps_get fun s => ?_
  cases s.active? id with
  | none => exact keeps_pure ()
  | some active =>
    cases s.isLogging id severity with
    | false => exact keeps_pure ()
    | true => exact keeps_bind (keeps_ofExcept _) fun _ => keeps_logEvent _ _ _

theorem keeps_sharedLogger : Keeps Session.setup sharedLogger := by
  intro s
  rcases runOn_sharedLogger s with ⟨id, loggers, shared, hs⟩
  rw [hs]
  rfl

/-- Operations that are not about handlers leave the handlers alone, too. -/
theorem keeps_setup_perform {op : Operation} (hop : op.isHandling = false) :
    Keeps Session.setup op.perform := by
  cases op with
  | setClock now => exact fun _ => rfl
  | openStream canFlush refusal => exact fun _ => rfl
  | openMemory => exact fun _ => rfl
  | makeLogger threshold sink o => exact keeps_then (keeps_makeLogger threshold sink o) true
  | editLogger id e => exact keeps_then (keeps_editLogger id e) true
  | log id e metadata => exact keeps_then (keeps_logEvent id e metadata) true
  | makeDispatcher active => exact fun _ => rfl
  | activate id threshold prepared => exact keeps_activate id threshold prepared
  | activateStream id target threshold =>
      exact keeps_then (keeps_activateStream id target threshold) true
  | assignLogger id active => exact fun _ => rfl
  | dispatch id severity message given level stack =>
      exact keeps_then (keeps_dispatch id severity message given level stack) true
  | renderHandled id e own =>
      exact keeps_then (fun s => by rw [runOn_renderHandled_snd]) true
  | logHandled id e own => exact keeps_then (keeps_logHandled id e own) true
  | process id method dict => exact keeps_then (keeps_process id method dict) true
  | _ => exact absurd hop (by simp only [Operation.isHandling, reduceCtorEq, not_false_eq_true])

/-- Operations assign neither to the pipeline nor to bound values. -/
theorem keeps_perform (op : Operation) : Keeps Session.wiring op.perform := by
  have hof : ∀ {α : Type} {a : Action α}, Keeps Session.setup a → Keeps Session.wiring a :=
    fun ha s => congrArg Prod.fst (ha s)
  cases op with
  | makeHandler label l level metadata =>
      have hadd : ∀ backend : LoggerId, Keeps Session.wiring
          (do let h ← ofExcept (Handler.make label backend level metadata); addHandler h) :=
        fun backend => keeps_bind (keeps_ofExcept _) fun _ _ => rfl
      refine keeps_then ?_ true
      cases l with
      | none => exact keeps_bind (hof keeps_sharedLogger) hadd
      | some id => exact hadd id
  | editHandler id e =>
      exact keeps_then (keeps_bind (keeps_handler id) fun _ =>
        keeps_bind (keeps_ofExcept _) fun _ _ => rfl) true
  | copyHandler id => exact keeps_bind (keeps_handler id) fun _ _ => rfl
  | _ => exact hof (keeps_setup_perform rfl)

/-! ### Records -/

theorem keeps_makeRecordHandler (l : Option LoggerId) (level name sourceLevel : Value) :
    Keeps Session.setup (makeRecordHandler l level name sourceLevel) := by
  refine keeps_bind (keeps_ofExcept _) fun _ => keeps_bind (keeps_ofExcept _) fun _ => ?_
  cases l with
  | none =>
    exact keeps_bind (keeps_ofExcept _) fun l =>
      keeps_bind (keeps_addLogger l) fun _ => keeps_pure _
  | some id => exact keeps_pure _

theorem keeps_writeRecord (id : LoggerId) (r : Record) : Keeps Session.setup (writeRecord id r) :=
  keeps_bind (keeps_logger id) fun _ =>
    keeps_ite
      (keeps_bind (keeps_ofExcept _) fun _ => keeps_bind (keeps_ofExcept _) fun _ =>
        keeps_bind (keeps_formatEvent _ _ _ _ _) fun _ => keeps_write _ _)
      (keeps_pure ())

/-- Whatever comes of writing a record, a failure is given back and not raised. -/
theorem runOn_attemptRecord (id : LoggerId) (r : Record) (s : Session) :
    (attemptRecord id r).runOn s =
      match (writeRecord id r).runOn s with
      | (.ok _, after) => (.ok none, after)
      | (.error failure, after) => (.ok (some failure), after) := by
  rcases hwrite : (writeRecord id r).runOn s with ⟨outcome, t⟩
  -- A failure is caught, so that the lemmas about `bind` do not apply.
  have hrun : writeRecord id r s = (outcome, t) := hwrite
  unfold attemptRecord runOn StateT.run ExceptT.run
  simp only [bind, ExceptT.bind, ExceptT.mk, StateT.bind, tryCatch, tryCatchThe,
    MonadExceptOf.tryCatch, ExceptT.tryCatch, hrun]
  cases outcome <;> rfl

theorem keeps_attemptRecord (id : LoggerId) (r : Record) :
    Keeps Session.setup (attemptRecord id r) := by
  intro s
  rw [runOn_attemptRecord, ← keeps_writeRecord id r s]
  rcases (writeRecord id r).runOn s with ⟨outcome, t⟩
  cases outcome <;> rfl

theorem keeps_handleRecord (h : RecordHandler) (r : Record) :
    Keeps Session.setup (handleRecord h r) :=
  keeps_ite (keeps_attemptRecord h.logger r) (keeps_pure none)

theorem keeps_emit (h : RecordHandler) (level : Value) (created : Option Value)
    (body : RecordBody) : Keeps Session.setup (emit h level created body) := by
  refine keeps_bind (keeps_ofExcept _) fun level => keeps_ite ?_ (keeps_pure none)
  cases created with
  | none =>
    exact keeps_bind keeps_get fun _ => keeps_bind (keeps_ofExcept _) fun _ =>
      keeps_handleRecord _ _
  | some v => exact keeps_bind (keeps_pure v) fun _ => keeps_handleRecord _ _

end Action

end TextLog
