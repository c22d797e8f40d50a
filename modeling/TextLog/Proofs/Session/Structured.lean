import TextLog.Proofs.Session.Program

/-!
# Structured Events Step by Step

The parts that structured events and derivations are made of.

An event comes from a logger with bound values. Its arguments may be out of order,
and then it fails; its level may be one at which nothing is emitted; or it is let
through and goes through the pipeline that the logger uses at the moment. The last
step alone can write.

## Main definitions

* `StructuredLogger.boundIn`: The bound values and the pipeline of a logger.
* `EmitBy.accept`: Whether the arguments of an event are in order.
* `Action.emitThrough`, `Action.emitBound`: An event goes through a pipeline.
* `Derivation.prepare`, `Derivation.apply`: The parts of a derivation.

## Theorems

* `emitStructured_eq`, `derive_eq`: Events and derivations as their parts.
* `runOn_whenAccepted`, `runOn_emitStructured`: Events that are let through and others.
* `keeps_emitStructured`: Events leave the set-up as it is.
-/

namespace TextLog

/-- The bound values and the pipeline of a logger, if it is there. -/
def StructuredLogger.boundIn (l : StructuredLogger) (s : Session) : Option BoundLogger :=
  match l with
  | .requested => some .requested
  | .derived id => s.bound? id

/-- The method and the message of an event whose arguments are in order; none for an
    event of a level at which nothing is emitted. -/
def EmitBy.accept (how : EmitBy) (message : Value) (args : List Value) (values : Metadata) :
    Except Failure (Option (String × Value)) :=
  let known : Except Failure Unit := match how with
    | .method _ => how.resolve.map fun _ => ()
    | .level _ => .ok ()
  known.bind fun _ =>
    (checkNames how.signature values).bind fun _ =>
      how.resolve.bind fun
        | none => .ok none
        | some reached =>
          (fillMessage message args).bind fun text =>
            (checkNames ("BoundLoggerBase._proxy_to_logger", ["method_name"]) values).map fun _ =>
              some (reached, text)

/-- An event goes through the handler of a pipeline to the target. -/
def Action.emitThrough (p : Pipeline) (method : String) (dict : Metadata) : Action Unit := do
  let h ← handler p.handler
  if h.isLogging (methodSeverity method) then
    let rendered ← process p.handler method dict
    write p.target rendered.1

/-- An event of a logger with bound values goes through the pipeline of the moment. -/
def Action.emitBound (b : BoundLogger) (method : String) (text : Value) (values : Metadata)
    (site : CallSite) (exception : Option String) : Action Unit := do
  let s ← get
  match b.pipelineIn s with
  | none => pure ()
  | some p => emitThrough p method (structuredEvent b.bound values s.ambient text site exception)

/-- Goes on with an event whose arguments are in order. -/
def Action.whenAccepted (how : EmitBy) (message : Value) (args : List Value) (values : Metadata)
    (go : String → Value → Action Unit) : Action Unit := do
  if let .method _ := how then
    let _ ← ofExcept how.resolve
  ofExcept (checkNames how.signature values)
  match ← ofExcept how.resolve with
  | none => pure ()
  | some method =>
    let text ← ofExcept (fillMessage message args)
    ofExcept (checkNames ("BoundLoggerBase._proxy_to_logger", ["method_name"]) values)
    go method text

/-- The arguments of a derivation are in order, and the bound values of the other
    logger itself are forgotten if they have to be. -/
def Derivation.prepare (how : Derivation) (l : StructuredLogger) : Action Unit :=
  match how with
  | .bind values => Action.checkBound l "bind" values
  | .fresh values => do
    Action.checkBound l "new" values
    Action.clearBound l
  | _ => pure ()

/-- What is derived from a logger with bound values. -/
def Derivation.apply (how : Derivation) (b : BoundLogger) (s : Session) :
    Except Failure BoundLogger :=
  match how with
  | .bind values => .ok (b.bind s values)
  | .fresh values => .ok (b.bind s values)
  | .unbind keys => b.unbind s keys
  | .tryUnbind keys => .ok (b.tryUnbind s keys)

namespace Action

theorem runOn_boundLogger (l : StructuredLogger) (s : Session) :
    (boundLogger l).runOn s = (require (l.boundIn s)).runOn s := by
  cases l with
  | requested => rfl
  | derived id => rfl

theorem runOn_boundLogger_ok {l : StructuredLogger} {b : BoundLogger} {s t : Session}
    (h : (boundLogger l).runOn s = (.ok b, t)) : l.boundIn s = some b ∧ t = s :=
  runOn_require_ok ((runOn_boundLogger l s).symm.trans h)

theorem keeps_boundLogger (l : StructuredLogger) : Keeps Session.setup (boundLogger l) :=
  fun s => by rw [runOn_boundLogger, runOn_require]

theorem keeps_emitThrough (p : Pipeline) (method : String) (dict : Metadata) :
    Keeps Session.setup (emitThrough p method dict) :=
  keeps_bind (keeps_handler p.handler) fun _ =>
    keeps_ite (keeps_bind (keeps_process _ _ _) fun _ => keeps_write _ _) (keeps_pure ())

theorem keeps_emitBound (b : BoundLogger) (method : String) (text : Value) (values : Metadata)
    (site : CallSite) (exception : Option String) :
    Keeps Session.setup (emitBound b method text values site exception) := by
  refine keeps_bind keeps_get fun s => ?_
  cases b.pipelineIn s with
  | none => exact keeps_pure ()
  | some p => exact keeps_emitThrough p method _

/-- An event that is refused fails, and one at whose level nothing is emitted does
    nothing. -/
theorem runOn_whenAccepted (how : EmitBy) (message : Value) (args : List Value)
    (values : Metadata) (go : String → Value → Action Unit) (s : Session) :
    (whenAccepted how message args values go).runOn s =
      match how.accept message args values with
      | .error failure => (.error failure, s)
      | .ok none => (.ok (), s)
      | .ok (some (method, text)) => (go method text).runOn s := by
  unfold whenAccepted EmitBy.accept
  cases hresolve : how.resolve with
  | error failure => cases checkNames how.signature values <;> cases how <;> rfl
  | ok resolved =>
      cases checkNames how.signature values with
      | error failure => cases how <;> rfl
      | ok _ =>
          cases resolved with
          | none => cases how <;> rfl
          | some method =>
              cases fillMessage message args with
              | error failure => cases how <;> rfl
              | ok text =>
                  cases checkNames ("BoundLoggerBase._proxy_to_logger", ["method_name"]) values <;>
                    cases how <;> rfl

theorem emitStructured_eq (l : StructuredLogger) (how : EmitBy) (message : Value)
    (args : List Value) (values : Metadata) (site : CallSite) (exception : Option String) :
    emitStructured l how message args values site exception =
      (do
        let b ← boundLogger l
        whenAccepted how message args values fun method text =>
          emitBound b method text values site exception) := rfl

/-- An event that is let through goes through the pipeline of its logger. -/
theorem runOn_emitStructured {l : StructuredLogger} {b : BoundLogger} {s : Session}
    (hb : l.boundIn s = some b) {how : EmitBy} {message : Value} {args : List Value}
    {values : Metadata} {method : String} {text : Value}
    (haccept : how.accept message args values = .ok (some (method, text))) {p : Pipeline}
    (hp : b.pipelineIn s = some p) (site : CallSite) (exception : Option String) :
    (emitStructured l how message args values site exception).runOn s =
      (emitThrough p method
        (structuredEvent b.bound values s.ambient text site exception)).runOn s := by
  have hbound : (boundLogger l).runOn s = (.ok b, s) := by
    rw [runOn_boundLogger, hb]
    rfl
  rw [emitStructured_eq, runOn_bind_ok hbound, runOn_whenAccepted, haccept]
  simp only []
  rw [emitBound, runOn_bind_ok (runOn_get s), hp]

theorem keeps_emitStructured (l : StructuredLogger) (how : EmitBy) (message : Value)
    (args : List Value) (values : Metadata) (site : CallSite) (exception : Option String) :
    Keeps Session.setup (emitStructured l how message args values site exception) := by
  rw [emitStructured_eq]
  refine keeps_bind (keeps_boundLogger l) fun b s => ?_
  rw [runOn_whenAccepted]
  rcases how.accept message args values with failure | accepted
  · rfl
  · rcases accepted with _ | ⟨method, text⟩
    · rfl
    · exact keeps_emitBound b method text values site exception s

/-- Whatever is derived, the values are bound to a new logger. -/
theorem derive_eq (l : StructuredLogger) (how : Derivation) :
    derive l how =
      (do
        how.prepare l
        let b ← boundLogger l
        let s ← get
        let new ← ofExcept (how.apply b s)
        .derived <$> addBound new) := by
  cases how with
  | fresh values => exact (bind_assoc (checkBound l "new" values) _ _).symm
  | _ => rfl

end Action

end TextLog
