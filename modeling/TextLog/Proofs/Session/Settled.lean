import TextLog.Proofs.Session.Delivery
import TextLog.Proofs.Session.Structured

/-!
# Settled Sessions

Nothing is pending in any session that a program reaches.

Whatever a step does besides, all it does to outputs is to open new ones and to write
whole lines. A line that is written to a settled output is shown at once or refused,
so outputs stay settled from step to step, whether the steps succeed or fail. This is
read off the actions that a step is made of: what keeps the outputs as they are, or
writes a line, leaves a settled session settled, and so do such actions one after the
other.

## Theorems

* `settled_of_keeps`: What keeps the outputs leaves a session settled.
* `settled_writeLine`: A line leaves a session settled.
* `settled_emitStructured`, `settled_emit`: So do structured events and records.
* `settled_of_reached`: The sessions that a program reaches are settled.
-/

namespace TextLog

open Time

namespace Action

/-! ### What leaves outputs alone -/

/-- What keeps the outputs leaves a session settled. -/
theorem settled_of_keeps {α : Type} {a : Action α} (ha : Keeps Session.outputs a) :
    Preserves Session.Settled a :=
  preserves_of_keeps ha Session.settled_of_outputs

theorem settled_logger (id : LoggerId) : Preserves Session.Settled (logger id) :=
  settled_of_keeps (keeps_logger id)

theorem settled_handler (id : HandlerId) : Preserves Session.Settled (handler id) :=
  settled_of_keeps (keeps_handler id)

theorem settled_boundLogger (l : StructuredLogger) : Preserves Session.Settled (boundLogger l) :=
  fun s hs => by rwa [runOn_boundLogger, runOn_require]

theorem settled_process (id : HandlerId) (method : String) (dict : Metadata) :
    Preserves Session.Settled (process id method dict) :=
  fun s hs => by rwa [runOn_process_snd]

theorem settled_formatEvent (id : LoggerId) (e : Event) (metadata : Option String) (label : Value)
    (moment : Option Moment) :
    Preserves Session.Settled (formatEvent id e metadata label moment) :=
  fun s hs => by rwa [runOn_formatEvent_snd]

theorem settled_derive (l : StructuredLogger) (how : Derivation) :
    Preserves Session.Settled (derive l how) := by
  have hprepare : Preserves Session.Settled (how.prepare l) := by
    cases how with
    | fresh values =>
        refine preserves_bind (preserves_ofExcept _) fun _ => ?_
        cases l with
        | requested => exact preserves_pure ()
        | derived id => exact fun _ hs => hs
    | _ => exact fun _ hs => hs
  rw [derive_eq]
  exact preserves_bind hprepare fun _ => preserves_bind (settled_boundLogger l) fun _ =>
    preserves_bind preserves_get fun _ => preserves_bind (preserves_ofExcept _) fun _ _ hs => hs

theorem settled_makeRecordHandler (l : Option LoggerId) (level name sourceLevel : Value) :
    Preserves Session.Settled (makeRecordHandler l level name sourceLevel) := by
  refine preserves_bind (preserves_ofExcept _) fun _ => preserves_bind (preserves_ofExcept _)
    fun _ => ?_
  cases l with
  | none => exact preserves_bind (preserves_ofExcept _) fun _ _ hs => hs
  | some id => exact preserves_pure _

/-! ### What writes lines -/

/-- A line is shown at once or refused. -/
theorem settled_writeLine (sink : Sink) (line : String) :
    Preserves Session.Settled (writeLine sink line) := by
  intro s hs
  rw [Session.runOn_writeLine hs]
  cases s.refusal? sink line with
  | some failure => exact hs
  | none => exact Session.settled_append hs sink line

theorem settled_write (id : LoggerId) (line : String) : Preserves Session.Settled (write id line) :=
  preserves_bind (settled_logger id) fun l => settled_writeLine l.sink line

theorem settled_emitStructured (l : StructuredLogger) (how : EmitBy) (message : Value)
    (args : List Value) (values : Metadata) (site : CallSite) (exception : Option String) :
    Preserves Session.Settled (emitStructured l how message args values site exception) := by
  -- The last step alone can write, and before it nothing is assigned.
  have hthrough : ∀ p method dict, Preserves Session.Settled (emitThrough p method dict) :=
    fun p method dict => preserves_bind (settled_handler p.handler) fun _ =>
      preserves_ite
        (preserves_bind (settled_process _ _ _) fun rendered => settled_write p.target rendered.1)
        (preserves_pure ())
  rw [emitStructured_eq]
  refine preserves_bind (settled_boundLogger l) fun b s hs => ?_
  rw [runOn_whenAccepted]
  rcases how.accept message args values with failure | accepted
  · exact hs
  · rcases accepted with _ | ⟨method, text⟩
    · exact hs
    · refine preserves_bind preserves_get (fun t => ?_) s hs
      cases b.pipelineIn t with
      | none => exact preserves_pure ()
      | some p => exact hthrough p method _

theorem settled_writeRecord (id : LoggerId) (r : Record) :
    Preserves Session.Settled (writeRecord id r) :=
  preserves_bind (settled_logger id) fun _ =>
    preserves_ite
      (preserves_bind (preserves_ofExcept _) fun _ => preserves_bind (preserves_ofExcept _) fun _ =>
        preserves_bind (settled_formatEvent _ _ _ _ _) fun line => settled_write id line)
      (preserves_pure ())

theorem settled_attemptRecord (id : LoggerId) (r : Record) :
    Preserves Session.Settled (attemptRecord id r) := by
  intro s hs
  have hafter := settled_writeRecord id r s hs
  -- What is caught is the failure; the session is the one that it left.
  rw [runOn_attemptRecord]
  rcases hwrite : (writeRecord id r).runOn s with ⟨outcome, t⟩
  rw [hwrite] at hafter
  cases outcome with
  | ok _ => exact hafter
  | error failure => exact hafter

theorem settled_emit (h : RecordHandler) (level : Value) (created : Option Value)
    (body : RecordBody) : Preserves Session.Settled (emit h level created body) := by
  have hhandle : ∀ r, Preserves Session.Settled (handleRecord h r) := fun r =>
    preserves_ite (settled_attemptRecord h.logger r) (preserves_pure none)
  refine preserves_bind (preserves_ofExcept _) fun level => preserves_ite ?_ (preserves_pure none)
  cases created with
  | none =>
    exact preserves_bind preserves_get fun _ => preserves_bind (preserves_ofExcept _) fun _ =>
      hhandle _
  | some v => exact preserves_bind (preserves_pure v) fun _ => hhandle _

end Action

namespace Session

/-- Whatever a step does, nothing is pending behind it if nothing was before it. -/
theorem settled_afterStep (s : Session) (step : Step) (hs : s.Settled) :
    (s.afterStep step).Settled := by
  have hperform : ∀ op : Operation, Action.Preserves Settled op.perform :=
    fun op t ht => settled_afterOp t op ht
  -- Making the handler of a pipeline is an operation of its own.
  have hmade : ∀ label logger level,
      Action.Preserves Settled (Action.makeHandler label logger level (.map [])) := by
    intro label logger level t ht
    have hafter := settled_afterOp t (.makeHandler label logger level (.map [])) ht
    rwa [afterOp, Operation.perform, Action.runOn_then_true] at hafter
  cases step with
  | operation op => exact Action.preserves_then (hperform op) () s hs
  | configure label logger level =>
      refine Action.preserves_then (Action.preserves_bind (hmade label logger level) fun id => ?_)
        () s hs
      exact Action.preserves_bind (Action.settled_handler id) fun _ _ ht => ht
  | derive l how => exact Action.preserves_then (Action.settled_derive l how) () s hs
  | emit l how message args values site exception =>
      exact Action.settled_emitStructured l how message args values site exception s hs
  | bindAmbient values => exact hs
  | unbindAmbient keys => exact hs
  | makeRecordHandler logger level name sourceLevel =>
      have hmake := Action.settled_makeRecordHandler logger level name sourceLevel
      exact Action.preserves_then hmake () s hs
  | record h level created body =>
      exact Action.preserves_then (Action.settled_emit h level created body) () s hs

/-- Whatever a program has done, nothing is pending in its session. -/
theorem settled_of_reached {s : Session} (hs : s.Reached) : s.Settled := by
  rcases hs with ⟨now, plain, steps, rfl⟩
  exact afterSteps_induction settled_afterStep (start now plain) steps (settled_start now plain)

end Session

end TextLog
