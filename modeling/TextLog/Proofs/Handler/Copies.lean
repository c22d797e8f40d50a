import TextLog.Proofs.Handler.Sharing
import TextLog.Proofs.Session.Delivery

/-!
# Copies of Handlers

A copy of a handler is a value of its own, and shares nothing but the logger.

Whatever a program does, a handler is what the assignments that are addressed to it make
of it. The step is `handler?_afterOp`: an operation that assigns to a handler does to it
what the assignment does, and every other operation leaves it alone, also those that make
handlers, since these come behind the ones that are there. So a run of operations, of
whatever kind and whether they fail or not, can be cut down to those that are addressed to
one handler without a change to this handler (`handler?_after_addressed`), and operations
on different handlers can be exchanged.

Handlers may refer to their metadata, too, in mappings that are changed in place. As no two
of them refer to the same one, this makes no difference (`Heap.view_after`).

The logger of a handler is a reference, and a copy has the same one. A line that either of
them writes is made by the logger as it is at that moment and goes to the sink that it has
then. Lines are delivered in the order of the calls, whoever makes them, and an assignment
to the logger is one for both.

## Main definitions

* `Operation.addressee?`, `Operation.addressed`: Operations that are addressed to a handler.
* `Operation.edit?`, `Operation.editsOf`: The assignments among them.
* `Operation.ofCalls`: Events that handlers log.
* `Handler.line?`: The line of an event that a handler takes.

## Theorems

* `handler?_afterOp`, `handler?_after`: What becomes of a handler.
* `handler?_after_addressed`: The operations on other handlers do not matter.
* `line?_logHandled`: A line is made by the logger of the moment.
* `logger?_afterOp_editLogger`: An assignment to a logger is seen by whoever refers to it.
* `deliveries_ofCalls`: Lines are delivered in the order of the calls.
* `copies_are_values`: Copies of handlers.
-/

namespace TextLog

open Time

namespace Operation

/-- The handler that an operation is addressed to. -/
def addressee? : Operation → Option HandlerId
  | .editHandler id _ => some id
  | .copyHandler id => some id
  | .renderHandled id _ _ => some id
  | .logHandled id _ _ => some id
  | .process id _ _ => some id
  | _ => none

/-- Those operations that are addressed to a handler. -/
def addressed (id : HandlerId) (ops : List Operation) : List Operation :=
  ops.filter fun op => op.addressee? = some id

/-- The assignment to a handler that an operation makes. -/
def edit? (id : HandlerId) : Operation → Option HandlerEdit
  | .editHandler other e => if other = id then some e else none
  | _ => none

/-- The assignments to a handler that operations make. -/
def editsOf (id : HandlerId) (ops : List Operation) : List HandlerEdit :=
  ops.filterMap (edit? id)

/-- An operation that assigns to a handler is addressed to it. -/
theorem addressee?_of_edit?_ne_none {id : HandlerId} {op : Operation} (h : op.edit? id ≠ none) :
    op.addressee? = some id := by
  cases op with
  | editHandler other e =>
      by_cases hid : other = id
      · exact congrArg some hid
      · exact absurd (if_neg hid) h
  | _ => exact absurd rfl h

/-- Operations that are addressed to others make no assignments. -/
theorem editsOf_addressed (id : HandlerId) (ops : List Operation) :
    editsOf id (addressed id ops) = editsOf id ops := by
  rw [editsOf, editsOf, addressed, List.filterMap_filter]
  refine List.filterMap_congr fun op _ => ?_
  by_cases hedit : op.edit? id = none
  · rw [hedit, ite_self]
  · rw [addressee?_of_edit?_ne_none hedit, if_pos (decide_eq_true rfl)]

theorem editsOf_cons (id : HandlerId) (op : Operation) (ops : List Operation) :
    editsOf id (op :: ops) = (op.edit? id).toList ++ editsOf id ops := by
  rw [editsOf, List.filterMap_eq_flatMap_toList, List.flatMap_cons,
    ← List.filterMap_eq_flatMap_toList, ← editsOf]

end Operation

/-- Events that handlers log one after the other. -/
def Operation.ofCalls (calls : List (HandlerId × Event × Metadata)) : List Operation :=
  calls.map fun c => .logHandled c.1 c.2.1 c.2.2

/-- The line that a handler makes of an event with a logger, and the sink that it goes to:
    none if the event does not reach the level or cannot be rendered. -/
def Handler.line? (h : Handler) (l : Logger) (now : Moment) (e : Event) (own : Metadata) :
    Option (Sink × String) :=
  if h.isLogging e.severity then
    (l.formatEvent (.present now) e (h.metadataText own) h.label).toOption.map fun line =>
      (l.sink, line)
  else none

theorem Handler.assignAll_append (h : Handler) (es es' : List HandlerEdit) :
    h.assignAll (es ++ es') = (h.assignAll es).assignAll es' :=
  List.foldl_append

/-- A copy is like the original where the kept text of the latter is that of its
    metadata. -/
theorem Handler.copy_of_fresh {h : Handler} (hh : h.Fresh) : h.copy = h := by
  rw [Handler.copy, Handler.ofParts, ← show h.pretty = _ from hh]

/-- The logger of a handler is the same until another one is assigned. -/
theorem Handler.logger_assignAll {h : Handler} {es : List HandlerEdit}
    (hes : ∀ id, .logger id ∉ es) : (h.assignAll es).logger = h.logger := by
  induction es generalizing h with
  | nil => rfl
  | cons e es ih =>
      rw [Handler.assignAll_cons, ih fun id hid => hes id (List.mem_cons_of_mem e hid)]
      cases hedit : h.edit e with
      | error failure => rw [Handler.assign_of_edit_eq_error hedit]
      | ok edited =>
          rw [Handler.assign_of_edit_eq_ok hedit]
          cases e with
          | logger id => exact absurd List.mem_cons_self (hes id)
          | level v =>
              rcases exists_of_map_eq_ok hedit with ⟨severity, _, rfl⟩
              rfl
          | metadata v =>
              rcases exists_of_map_eq_ok hedit with ⟨m, _, rfl⟩
              rfl
          | item key v =>
              by_cases hv : v = .null
              · rw [hv, Handler.edit_null, Except.ok.injEq] at hedit
                rw [← hedit, Handler.withMetadata]
              · rw [Handler.edit_item h key hv, Except.ok.injEq] at hedit
                rw [← hedit, Handler.withMetadata]
          | delete key =>
              rw [Handler.edit_delete] at hedit
              split at hedit
              · rw [← Except.ok.inj hedit, Handler.withMetadata]
              · exact absurd hedit (by simp only [reduceCtorEq, not_false_eq_true])
          | label v =>
              rw [Handler.edit, Except.ok.injEq] at hedit
              rw [← hedit]
          | derived name =>
              exact absurd hedit (by simp only [Handler.edit, reduceCtorEq, not_false_eq_true])

namespace Session

/-! ### One operation -/

/-- A handler that is added comes behind those that are there. -/
theorem handler?_push {s : Session} {id : HandlerId} {h : Handler} (hh : s.handler? id = some h)
    (new : Handler) : { s with handlers := s.handlers.push new }.handler? id = some h := by
  have hlt : id.index < s.handlers.size := (Array.getElem?_eq_some_iff.mp hh).1
  rw [handler?, Array.getElem?_push, if_neg (Nat.ne_of_lt hlt)]
  exact hh

/-- An operation that makes no assignment to a handler leaves it alone. -/
theorem preserves_handler? {op : Operation} {id : HandlerId} (hop : op.edit? id = none)
    (h : Handler) : Action.Preserves (fun s => s.handler? id = some h) op.perform := by
  have hof : ∀ {α : Type} {a : Action α}, Action.Keeps setup a →
      Action.Preserves (fun s => s.handler? id = some h) a := by
    intro α a ha
    refine Action.preserves_of_keeps ha fun {s t} hs hsetup => ?_
    rw [handler?, show t.handlers = s.handlers from congrArg Prod.snd hsetup]
    exact hs
  have hadd : ∀ new : Handler,
      Action.Preserves (fun s => s.handler? id = some h) (Action.addHandler new) :=
    fun new s hs => handler?_push hs new
  cases op with
  | makeHandler label l level metadata =>
      have hmake : ∀ backend : LoggerId, Action.Preserves (fun s => s.handler? id = some h)
          (do
            let h ← Action.ofExcept (Handler.make label backend level metadata)
            Action.addHandler h) :=
        fun backend => Action.preserves_bind (Action.preserves_ofExcept _) hadd
      refine Action.preserves_then ?_ true
      cases l with
      | none => exact Action.preserves_bind (hof Action.keeps_sharedLogger) hmake
      | some backend => exact hmake backend
  | editHandler other e =>
      intro s hs
      have hid : other ≠ id := fun hid => by
        rw [Operation.edit?, if_pos hid] at hop
        exact absurd hop (by simp only [reduceCtorEq, not_false_eq_true])
      exact (handler?_afterOp_editHandler s other e id).trans ((if_neg hid).trans hs)
  | copyHandler other =>
      exact Action.preserves_bind (hof (Action.keeps_handler other)) fun original =>
        Action.preserves_then (hadd original.copy) true
  | _ => exact hof (Action.keeps_setup_perform rfl)

/-- An operation does to a handler what its assignment does, if it makes one, and nothing
    otherwise. -/
theorem handler?_afterOp {s : Session} {id : HandlerId} {h : Handler} (hh : s.handler? id = some h)
    (op : Operation) :
    (s.afterOp op).handler? id = some (h.assignAll (op.edit? id).toList) := by
  cases hedit : op.edit? id with
  | none => exact preserves_handler? hedit h s hh
  | some e =>
      cases op with
      | editHandler other e' =>
          by_cases hid : other = id
          · rw [Operation.edit?, if_pos hid, Option.some.injEq] at hedit
            rw [hid, handler?_afterOp_editHandler, if_pos rfl, hh, hedit]
            rfl
          · rw [Operation.edit?, if_neg hid] at hedit
            exact absurd hedit (by simp only [reduceCtorEq, not_false_eq_true])
      | _ => exact absurd hedit (by simp only [Operation.edit?, reduceCtorEq, not_false_eq_true])

/-! ### Runs -/

/-- A handler is what the assignments to it make of it, whatever else happens. -/
theorem handler?_after {s : Session} {id : HandlerId} {h : Handler} (hh : s.handler? id = some h)
    (ops : List Operation) :
    (s.after ops).handler? id = some (h.assignAll (Operation.editsOf id ops)) := by
  induction ops generalizing s h with
  | nil => exact hh
  | cons op ops ih =>
      rw [after_cons, ih (handler?_afterOp hh op), Operation.editsOf_cons, Handler.assignAll_append]

/-- Operations that are addressed to others do not matter, in whatever session the others
    live. -/
theorem handler?_after_addressed {s t : Session} {id : HandlerId} {h : Handler}
    (hs : s.handler? id = some h) (ht : t.handler? id = some h) (ops : List Operation) :
    (t.after (Operation.addressed id ops)).handler? id = (s.after ops).handler? id := by
  rw [handler?_after hs, handler?_after ht, Operation.editsOf_addressed]

/-! ### The logger of a handler -/

/-- A line is made by the logger that is behind the reference at that moment. -/
theorem line?_logHandled {s : Session} {id : HandlerId} {h : Handler} {backend : LoggerId}
    {l : Logger} (hh : s.handler? id = some h) (hbackend : h.logger = backend)
    (hl : s.logger? backend = some l) (e : Event) (own : Metadata) :
    (Operation.logHandled id e own).line? s = h.line? l s.now e own := by
  rw [Operation.line?, hh, Option.bind_some, hbackend, hl, Option.bind_some, Handler.line?]

/-- An assignment to a logger does not move the clock. -/
theorem now_afterOp_editLogger (s : Session) (backend : LoggerId) (e : LoggerEdit) :
    (s.afterOp (.editLogger backend e)).now = s.now := by
  rw [afterOp, Operation.perform, Action.runOn_then_true]
  cases hl : s.logger? backend with
  | none => rw [Action.editLogger, Action.runOn_bind_error (Action.runOn_logger_none backend s hl)]
  | some l => rw [runOn_editLogger s backend e l hl]

/-- An assignment to a logger, whether it succeeds or fails, is seen by whoever refers to
    it. -/
theorem logger?_afterOp_editLogger {s : Session} {backend : LoggerId} {l : Logger}
    (hl : s.logger? backend = some l) (e : LoggerEdit) :
    (s.afterOp (.editLogger backend e)).logger? backend = some (l.assign e) := by
  rw [afterOp, Operation.perform, Action.runOn_then_true, runOn_editLogger s backend e l hl]
  exact logger?_setIfInBounds s backend l (l.assign e) hl

/-! ### Calls one after the other -/

/-- A line more in an output is no reason to refuse another one, or to take one. -/
theorem refusal?_append (s : Session) (target : Sink) (written : String) (sink : Sink)
    (line : String) : (s.append target written).refusal? sink line = s.refusal? sink line := by
  cases sink with
  | stdout => rfl
  | memory id => rfl
  | stream id =>
      cases target with
      | stdout => rfl
      | memory other => rfl
      | stream other =>
          simp only [refusal?, append, stream?, Array.getElem?_modify]
          by_cases hid : other.index = id.index
          · rw [if_pos hid]
            cases s.streams[id.index]? <;> rfl
          · rw [if_neg hid]

/-- What a handler delivers does not depend on the lines that were written before. -/
theorem delivery?_written (s : Session) (w : Option (Sink × String)) (id : HandlerId) (e : Event)
    (own : Metadata) : (s.written w).delivery? (.logHandled id e own) =
      s.delivery? (.logHandled id e own) := by
  rcases w with _ | ⟨target, line⟩
  · rfl
  · rw [written]
    by_cases hrefusal : (s.refusal? target line).isNone = true
    · have hline : (Operation.logHandled id e own).line? (s.append target line) =
          (Operation.logHandled id e own).line? s := by
        cases target <;> rfl
      have htaken : ∀ p : Sink × String,
          (((s.append target line).refusal? p.1 p.2).isNone &&
              ((s.append target line).content? p.1).isSome) =
            ((s.refusal? p.1 p.2).isNone && (s.content? p.1).isSome) := by
        intro p
        rw [refusal?_append, content?_append]
        by_cases hsink : p.1 = target
        · rw [if_pos hsink, Option.isSome_map]
        · rw [if_neg hsink]
      rw [if_pos hrefusal, delivery?, delivery?, hline]
      exact congrArg (Option.filter · _) (funext htaken)
    · rw [if_neg hrefusal]

/-- Lines that handlers write are delivered in the order of the calls. -/
theorem deliveries_ofCalls {s : Session} (hs : s.Settled)
    (calls : List (HandlerId × Event × Metadata)) :
    s.deliveries (Operation.ofCalls calls) =
      calls.filterMap fun c => s.delivery? (.logHandled c.1 c.2.1 c.2.2) := by
  induction calls generalizing s with
  | nil => rfl
  | cons c calls ih =>
      rcases c with ⟨id, e, own⟩
      have hlast : s.afterOp (.logHandled id e own) =
          s.written ((Operation.logHandled id e own).line? s) := afterOp_of_logs hs rfl
      have hrest := ih (settled_afterOp s (.logHandled id e own) hs)
      simp only [hlast, delivery?_written] at hrest
      rw [List.filterMap_eq_flatMap_toList, List.flatMap_cons, ← List.filterMap_eq_flatMap_toList,
        ← hrest, ← hlast]
      rfl

/-- A copy of a handler is a value of its own and shares nothing but the logger. After
    anything that a program has done, a copy is there beside the original and is like it.
    That handlers refer to mappings which are changed in place makes no difference. From
    then on each handler is what the operations that are addressed to it make of it,
    in whatever order and whether they fail or not: it is the same if the others are left
    out or come at other times. What each output holds is what was delivered to it, in
    order, and the lines of calls are delivered in the order of the calls. As long as no
    other logger is assigned to it, each of the two has its lines made by the one logger as
    it is at the moment and written to the sink that it has then, so that an assignment to
    the logger is one for both. -/
theorem copies_are_values (now : Moment) (plain : Bool) (prior : List Operation) (a : HandlerId)
    (h : Handler) (hh : ((start now plain).after prior).handler? a = some h) :
    ∃ (t : Session) (b : HandlerId),
      (Operation.copyHandler a).perform.runOn ((start now plain).after prior) = (.ok true, t) ∧
      ((start now plain).after prior).handler? b = none ∧
      t.handler? a = some h ∧ t.handler? b = some h ∧
      (∀ ops : List Operation,
        (Heap.empty.after (start now plain) (prior ++ .copyHandler a :: ops)).view =
          (t.after ops).handlers) ∧
      (∀ (ops : List Operation) (id : HandlerId) (g : Handler), t.handler? id = some g →
        (t.after ops).handler? id = some (g.assignAll (Operation.editsOf id ops)) ∧
        (∀ u : Session, u.handler? id = some g →
          (u.after (Operation.addressed id ops)).handler? id = (t.after ops).handler? id) ∧
        ∀ ops', Operation.addressed id ops' = Operation.addressed id ops →
          (t.after ops').handler? id = (t.after ops).handler? id) ∧
      (∀ (ops : List Operation) (sink : Sink),
        (t.after ops).held sink =
          (linesTo sink (t.deliveries ops)).foldl Content.add (t.held sink)) ∧
      (∀ (ops : List Operation) (calls : List (HandlerId × Event × Metadata)),
        (t.after ops).deliveries (Operation.ofCalls calls) =
          calls.filterMap fun c => (t.after ops).delivery? (.logHandled c.1 c.2.1 c.2.2)) ∧
      ∀ (ops : List Operation) (id : HandlerId) (l : Logger), id = a ∨ id = b →
        (∀ other, .logger other ∉ Operation.editsOf id ops) →
        (t.after ops).logger? h.logger = some l →
        ∃ g, (t.after ops).handler? id = some g ∧ g.logger = h.logger ∧
          ∀ (e : Event) (own : Metadata),
            (Operation.logHandled id e own).line? (t.after ops) =
              g.line? l (t.after ops).now e own ∧
            ∀ change : LoggerEdit,
              (Operation.logHandled id e own).line?
                  ((t.after ops).afterOp (.editLogger h.logger change)) =
                g.line? (l.assign change) (t.after ops).now e own := by
  have hfresh : h.Fresh := fresh_after now plain prior h (mem_handlers hh)
  have hsettled := settled_after now plain prior
  have hheap : ∀ ops, (Heap.empty.after (start now plain) (prior ++ .copyHandler a :: ops)).view =
      ((((start now plain).after prior).afterOp (.copyHandler a)).after ops).handlers := by
    intro ops
    rw [(Heap.view_after Heap.apart_empty Heap.view_empty _).2, after, List.foldl_append]
    rfl
  generalize (start now plain).after prior = s at hh hsettled hheap ⊢
  have hcopy := runOn_copyHandler hh
  rw [Handler.copy_of_fresh hfresh] at hcopy
  have ha : { s with handlers := s.handlers.push h }.handler? a = some h := handler?_push hh h
  have hb : { s with handlers := s.handlers.push h }.handler? ⟨s.handlers.size⟩ = some h :=
    Array.getElem?_push_size
  have hsettled' : { s with handlers := s.handlers.push h }.Settled :=
    settled_of_outputs hsettled rfl
  rw [afterOp, hcopy] at hheap
  refine ⟨_, ⟨s.handlers.size⟩, hcopy, Array.getElem?_size, ha, hb, hheap, fun ops id g hg => ?_,
    fun ops sink => held_after hsettled' ops sink,
    fun ops calls => deliveries_ofCalls (after_induction settled_afterOp _ ops hsettled') calls,
    fun ops id l hid hlogger hl => ?_⟩
  · refine ⟨handler?_after hg ops, fun u hu => handler?_after_addressed hg hu ops,
      fun ops' hops => ?_⟩
    rw [← handler?_after_addressed hg hg ops, ← handler?_after_addressed hg hg ops', hops]
  · have hg := handler?_after (hid.elim (fun h => h ▸ ha) fun h => h ▸ hb) ops
    have hbackend := Handler.logger_assignAll (h := h) hlogger
    refine ⟨_, hg, hbackend, fun e own => ⟨?_, fun change => ?_⟩⟩
    · exact line?_logHandled hg hbackend hl e own
    · -- The handler is as before, and the logger behind its reference is the new one.
      have hg' := handler?_afterOp hg (.editLogger h.logger change)
      have hl' := logger?_afterOp_editLogger hl change
      rw [line?_logHandled hg' hbackend hl' e own, now_afterOp_editLogger]
      rfl

/-- A key is taken from the original and another one given to its copy, between assignments
    that fail, a copy of the copy and an event. -/
theorem copies_are_values_interleaved :
    ∃ t : Session,
      (Operation.copyHandler ⟨0⟩).perform.runOn
        ((start ⟨⟨2024, 1, 1, 0, 0, 0, 0⟩, none⟩ false).after
          [.makeLogger (.text "info") .stdout {},
            .makeHandler (.text "db") (some ⟨0⟩) (.text "info") (.map [("a", .text "1")])]) =
        (.ok true, t) ∧
      (t.after [.editHandler ⟨0⟩ (.item "a" .null), .editHandler ⟨1⟩ (.delete "b"),
        .logHandled ⟨1⟩ ⟨.warning, .text "slow", .text "run", .int 7, .text "a.py"⟩ [],
        .editHandler ⟨1⟩ (.item "b" (.text "2")), .editHandler ⟨0⟩ (.delete "a"), .copyHandler ⟨1⟩,
        .editHandler ⟨2⟩ (.item "a" .null), .editHandler ⟨1⟩ (.level (.bool true))]).handler? ⟨0⟩ =
        some ⟨.text "db", ⟨0⟩, .info, [], none⟩ ∧
      (t.after [.editHandler ⟨0⟩ (.item "a" .null), .editHandler ⟨1⟩ (.delete "b"),
        .logHandled ⟨1⟩ ⟨.warning, .text "slow", .text "run", .int 7, .text "a.py"⟩ [],
        .editHandler ⟨1⟩ (.item "b" (.text "2")), .editHandler ⟨0⟩ (.delete "a"), .copyHandler ⟨1⟩,
        .editHandler ⟨2⟩ (.item "a" .null), .editHandler ⟨1⟩ (.level (.bool true))]).handler? ⟨1⟩ =
        some ⟨.text "db", ⟨0⟩, .info, [("a", .text "1"), ("b", .text "2")], some "a=1 b=2"⟩ := by
  rcases copies_are_values ⟨⟨2024, 1, 1, 0, 0, 0, 0⟩, none⟩ false
    [.makeLogger (.text "info") .stdout {},
      .makeHandler (.text "db") (some ⟨0⟩) (.text "info") (.map [("a", .text "1")])] ⟨0⟩
    ⟨.text "db", ⟨0⟩, .info, [("a", .text "1")], some "a=1"⟩ rfl with
    ⟨t, b, hrun, -, ha, -, -, hvalues, -⟩
  have hb : t.handler? ⟨1⟩ =
      some ⟨.text "db", ⟨0⟩, .info, [("a", .text "1")], some "a=1"⟩ := by
    rw [← show _ = t from congrArg Prod.snd hrun]
    rfl
  exact ⟨t, hrun, (hvalues _ ⟨0⟩ _ ha).1, (hvalues _ ⟨1⟩ _ hb).1⟩

end Session

end TextLog
