import TextLog.Proofs.Session.Change

/-!
# Kept Renderings of Metadata

The text that a handler keeps is always that of the metadata that it has.

A handler renders its metadata when they change and shows the kept text until
they change again, so a text that was not renewed would be shown for metadata
that are gone. Metadata change in many ways: as a whole, key by key, by a key
that is removed or deleted, and some of these fail. `Handler.Fresh` says that
the kept text is the one that rendering would give. A handler that is made or
copied is fresh, and an assignment that succeeds leaves it fresh.

What an operation can do to the handlers of a session is nothing, one more, or
one assigned to. So the handlers of every session that a program reaches are
fresh, and an event without metadata of its own is shown as if they had been
rendered for it.

## Main definitions

* `Handler.Fresh`: The kept text is that of the metadata.
* `Session.Fresh`: All handlers are fresh.

## Theorems

* `Metadata.pretty_eq_none_iff`: Only empty metadata have no text.
* `fresh_make`, `fresh_copy`, `fresh_edit`: Handlers are fresh and stay so.
* `fresh_afterOp`: Operations keep handlers fresh.
* `fresh_after`: The handlers that a program reaches are fresh.
* `rendering_never_stale`: Events are shown with the metadata of the moment.
-/

namespace TextLog

open Time

/-- Only empty metadata have no text. -/
theorem Metadata.pretty_eq_none_iff (m : Metadata) : Metadata.pretty m = none ↔ m = [] := by
  cases m with
  | nil => simp only [Metadata.pretty, List.isEmpty_nil, if_true]
  | cons p rest =>
      simp only [Metadata.pretty, List.isEmpty_cons, Bool.false_eq_true, if_false, reduceCtorEq]

namespace Handler

/-- The kept text is that of the metadata. -/
def Fresh (h : Handler) : Prop :=
  h.pretty = Metadata.pretty h.metadata

theorem fresh_withMetadata (h : Handler) (m : Metadata) : (h.withMetadata m).Fresh := rfl

theorem fresh_ofParts (label : Value) (logger : LoggerId) (level : Severity) (m : Metadata) :
    (ofParts label logger level m).Fresh := rfl

theorem fresh_copy (h : Handler) : h.copy.Fresh :=
  fresh_ofParts h.label h.logger h.level h.metadata

theorem fresh_make {label : Value} {logger : LoggerId} {level metadata : Value} {h : Handler}
    (hmade : make label logger level metadata = .ok h) : h.Fresh := by
  rcases exists_of_bind_eq_ok hmade with ⟨severity, _, hmade⟩
  by_cases htruthy : metadata.truthy = true
  · rw [if_pos htruthy] at hmade
    rcases exists_of_map_eq_ok hmade with ⟨m, _, rfl⟩
    exact fresh_ofParts label logger severity m
  · rw [if_neg htruthy, Except.ok.injEq] at hmade
    rw [← hmade]
    exact fresh_ofParts label logger severity []

/-- An assignment that succeeds leaves a handler fresh. Whatever touches the
    metadata renders them anew, and the rest touches neither. -/
theorem fresh_edit {h edited : Handler} {e : HandlerEdit} (hfresh : h.Fresh)
    (hedit : h.edit e = .ok edited) : edited.Fresh := by
  cases e with
  | level v =>
      rcases exists_of_map_eq_ok hedit with ⟨severity, _, rfl⟩
      exact hfresh
  | metadata v =>
      rcases exists_of_map_eq_ok hedit with ⟨m, _, rfl⟩
      exact fresh_withMetadata h m
  | item key v =>
      -- Null removes the key, and everything else sets it.
      cases v with
      | null => exact Except.ok.inj hedit ▸ fresh_withMetadata h (Metadata.erase h.metadata key)
      | _ => exact Except.ok.inj hedit ▸ fresh_withMetadata h (Metadata.set h.metadata key _)
  | delete key =>
      by_cases hkey : Metadata.has h.metadata key = true
      · rw [edit, if_pos hkey, Except.ok.injEq] at hedit
        rw [← hedit]
        exact fresh_withMetadata h _
      · rw [edit, if_neg hkey] at hedit
        exact absurd hedit (by simp only [reduceCtorEq, not_false_eq_true])
  | label v =>
      rw [edit, Except.ok.injEq] at hedit
      rw [← hedit]
      exact hfresh
  | logger id =>
      rw [edit, Except.ok.injEq] at hedit
      rw [← hedit]
      exact hfresh
  | derived name => exact absurd hedit (by simp only [edit, reduceCtorEq, not_false_eq_true])

/-- The metadata that a fresh handler shows an event with are its own laid over
    those of the handler, also when there are none. -/
theorem metadataText_of_fresh {h : Handler} (hfresh : h.Fresh) (own : Metadata) :
    h.metadataText own = Metadata.pretty (Metadata.merge h.metadata own) := by
  cases own with
  | nil => exact hfresh
  | cons p rest => rfl

end Handler

namespace Session

/-- All handlers show their metadata as they are. -/
def Fresh (s : Session) : Prop :=
  ∀ h ∈ s.handlers, h.Fresh

theorem fresh_start (now : Moment) (plain : Bool) : (start now plain).Fresh := by
  intro h hmem
  exact absurd hmem (Array.not_mem_empty h)

theorem mem_handlers {s : Session} {id : HandlerId} {h : Handler} (hh : s.handler? id = some h) :
    h ∈ s.handlers :=
  Array.mem_of_getElem? hh

/-- Whatever an operation does, handlers stay fresh. -/
theorem fresh_afterOp (s : Session) (op : Operation) (hs : s.Fresh) : (s.afterOp op).Fresh := by
  -- A new handler is fresh, and the others are as before.
  have hpush : ∀ new : Handler, new.Fresh → ∀ h ∈ s.handlers.push new, h.Fresh := by
    intro new hnew h hmem
    rcases Array.mem_push.mp hmem with hbefore | hlast
    · exact hs h hbefore
    · rw [hlast]
      exact hnew
  intro h hmem
  cases change_afterOp s op with
  | quiet _ _ hhandlers =>
      rw [hhandlers] at hmem
      exact hs h hmem
  | newStream _ _ _ ht =>
      rw [ht] at hmem
      exact hs h hmem
  | newMemory _ ht =>
      rw [ht] at hmem
      exact hs h hmem
  | madeHandler new _ _ _ _ hmade _ _ hhandlers =>
      rw [hhandlers] at hmem
      exact hpush new (Handler.fresh_make hmade) h hmem
  | copiedHandler _ original _ _ _ hhandlers =>
      rw [hhandlers] at hmem
      exact hpush original.copy (Handler.fresh_copy original) h hmem
  | editedHandler _ old edited _ hold hedit _ _ hhandlers =>
      rw [hhandlers] at hmem
      rcases Array.mem_or_eq_of_mem_setIfInBounds hmem with hbefore | hassigned
      · exact hs h hbefore
      · rw [hassigned]
        exact Handler.fresh_edit (hs old (mem_handlers hold)) hedit
  | logged _ honly =>
      rcases honly with ⟨_, _, _, ht⟩
      rw [ht] at hmem
      exact hs h hmem

/-- The handlers of every session that a program reaches are fresh. -/
theorem fresh_after (now : Moment) (plain : Bool) (ops : List Operation) :
    ((start now plain).after ops).Fresh :=
  after_induction fresh_afterOp (start now plain) ops (fresh_start now plain)

/-- What a handler keeps is never stale. Whatever a program has done, the kept
    text of a handler is that of its metadata, and none exactly when there are
    none. Events are therefore rendered, logged or not, as if the metadata were
    laid over each other and rendered for each of them; and neither rendering
    nor logging touches a handler. -/
theorem rendering_never_stale (now : Moment) (plain : Bool) (ops : List Operation)
    (id : HandlerId) (h : Handler)
    (hh : ((start now plain).after ops).handler? id = some h) (e : Event) (own : Metadata)
    (method : String) :
    h.pretty = Metadata.pretty h.metadata ∧
      (h.pretty = none ↔ h.metadata = []) ∧
      (Action.renderHandled id e own).runOn ((start now plain).after ops) =
        (Action.formatEvent h.logger e (Metadata.pretty (Metadata.merge h.metadata own)) h.label
          none).runOn ((start now plain).after ops) ∧
      (Action.logHandled id e own).runOn ((start now plain).after ops) =
        (if h.isLogging e.severity then
          (Action.formatEvent h.logger e (Metadata.pretty (Metadata.merge h.metadata own)) h.label
            none >>= Action.write h.logger).runOn ((start now plain).after ops)
        else (.ok (), (start now plain).after ops)) ∧
      ((Action.renderHandled id e own).runOn ((start now plain).after ops)).2.handlers =
        ((start now plain).after ops).handlers ∧
      ((Action.logHandled id e own).runOn ((start now plain).after ops)).2.handlers =
        ((start now plain).after ops).handlers ∧
      ((Action.process id method own).runOn ((start now plain).after ops)).2.handlers =
        ((start now plain).after ops).handlers := by
  generalize hs : (start now plain).after ops = s at hh ⊢
  have hfresh : h.Fresh := by
    have hall := fresh_after now plain ops
    rw [hs] at hall
    exact hall h (mem_handlers hh)
  have hrender : (Action.renderHandled id e own).runOn s =
      (Action.formatEvent h.logger e (Metadata.pretty (Metadata.merge h.metadata own)) h.label
        none).runOn s := by
    rw [Action.runOn_renderHandled id h e own s hh, Handler.metadataText_of_fresh hfresh]
  have hlog : (Action.logHandled id e own).runOn s =
      (if h.isLogging e.severity then
        (Action.formatEvent h.logger e (Metadata.pretty (Metadata.merge h.metadata own)) h.label
          none >>= Action.write h.logger).runOn s
      else (.ok (), s)) := by
    rw [Action.runOn_logHandled id h e own s hh, Action.runOn_bind, Action.runOn_bind, hrender]
  refine ⟨hfresh, ?_, hrender, hlog, ?_, ?_, ?_⟩
  · rw [show h.pretty = _ from hfresh]
    exact Metadata.pretty_eq_none_iff h.metadata
  · rw [Action.runOn_renderHandled_snd]
  · rcases outputsOnly_logHandled id e own s with ⟨_, _, _, hafter⟩
    rw [hafter]
  · rw [Action.runOn_process_snd]

set_option maxRecDepth 2048 in
/-- A copy is changed after assignments to the original, three of which fail: a
    key that was removed and is set again goes to the end, in the kept text as
    in the metadata. -/
theorem rendering_never_stale_copy :
    (((start ⟨⟨2024, 1, 1, 0, 0, 0, 0⟩, none⟩ false).after
        [.makeHandler (.text "db") none (.text "info") (.map [("a", .text "1"), ("b", .text "2")]),
          .editHandler ⟨0⟩ (.item "a" .null), .editHandler ⟨0⟩ (.delete "a"),
          .editHandler ⟨0⟩ (.level (.bool true)), .editHandler ⟨0⟩ (.metadata (.int 3)),
          .copyHandler ⟨0⟩, .editHandler ⟨1⟩ (.item "a" (.text "3"))]).handler? ⟨1⟩ =
      some ⟨.text "db", ⟨0⟩, .info, [("b", .text "2"), ("a", .text "3")], some "b=2 a=3"⟩) ∧
      some "b=2 a=3" = Metadata.pretty [("b", .text "2"), ("a", .text "3")] :=
  ⟨rfl, (rendering_never_stale ⟨⟨2024, 1, 1, 0, 0, 0, 0⟩, none⟩ false
    [.makeHandler (.text "db") none (.text "info") (.map [("a", .text "1"), ("b", .text "2")]),
      .editHandler ⟨0⟩ (.item "a" .null), .editHandler ⟨0⟩ (.delete "a"),
      .editHandler ⟨0⟩ (.level (.bool true)), .editHandler ⟨0⟩ (.metadata (.int 3)),
      .copyHandler ⟨0⟩, .editHandler ⟨1⟩ (.item "a" (.text "3"))] ⟨1⟩
    ⟨.text "db", ⟨0⟩, .info, [("b", .text "2"), ("a", .text "3")], some "b=2 a=3"⟩ rfl
    ⟨.warning, .text "slow", .text "run", .int 7, .text "a.py"⟩ [] "info").1⟩

end Session

end TextLog
