import TextLog.Proofs.Logger.Rendering
import TextLog.Proofs.Session.Change
import TextLog.Proofs.Time.Occasion

/-!
# Delivery

Every line goes to one output, once, at its end, and is seen at once.

Between an event and an output stand a dispatcher, its active logger, the
threshold and the sink of that logger, and whether the output holds lines back.
All of these can change between two events, and several loggers may share an
output. `Session.append` is what one event may do: a line is added to what one
output shows. `runOn_writeLine` says that writing does exactly this, or fails
and does nothing; it needs that nothing is pending, which `Session.Settled` says
and every operation keeps.

What an output holds after a run of operations is therefore the lines that were
delivered to it, in their order, whatever happened in between. The lines are
listed by `Session.deliveries`: an operation has a line only if it logs, passes
the threshold that counts at that moment and can be rendered, and the line is
delivered if the sink does not refuse it.

## Main definitions

* `Content`: What an output holds.
* `Session.append`: A line more in one output.
* `Session.refusal?`: Why a sink refuses a line.
* `Session.Settled`: Nothing is pending.
* `Operation.line?`: The line that an operation writes.
* `Session.deliveries`: The lines that a run delivers.
* `Session.emitted`: What comes of an event that passes.

## Theorems

* `content?_append`: One output has one line more, the others are as before.
* `runOn_writeLine`: Writing adds a line or fails.
* `afterOp_of_logs`: Operations that log leave what their line leaves.
* `settled_afterOp`, `settled_after`: Nothing is pending between operations.
* `held_afterOp`, `held_after`: What outputs hold is what was delivered.
* `dispatch_delivers_once`: Events that go through a dispatcher.
* `dispatch_delivers_nothing_when_refused`: A stream that has no space.
-/

namespace TextLog

open Time

/-- What an output holds: a text, or the lines that a memory keeps. -/
inductive Content where
  | text (shown : String)
  | lines (kept : List String)
  deriving DecidableEq, Repr

/-- A line more. A text ends each line with a line feed. -/
def Content.add : Content → String → Content
  | .text shown, line => .text (shown ++ (line ++ "\n"))
  | .lines kept, line => .lines (kept ++ [line])

/-- What the output of a sink holds when nothing has been written to it. -/
def Sink.blank : Sink → Content
  | .stdout => .text ""
  | .stream _ => .text ""
  | .memory _ => .lines []

namespace Stream

/-- The stream with a line more, which is shown. -/
def append (s : Stream) (line : String) : Stream :=
  { s with
    shown := s.shown ++ (line ++ "\n")
    flushes := if s.canFlush then s.flushes + 1 else s.flushes }

/-- A stream that nothing is pending in shows a line at once or refuses it. -/
theorem writeLine_of_settled {s : Stream} (hs : s.pending = "") (line : String) :
    s.writeLine line =
      match s.refusal (line ++ "\n") with
      | some reason => .error (.stream reason)
      | none => .ok (s.append line) := by
  rw [writeLine, write]
  cases s.refusal (line ++ "\n") with
  | some reason => rfl
  | none =>
      by_cases hflush : s.canFlush = true
      · simp only [if_pos hflush, Except.map, flush, append, hs, String.empty_append]
      · simp only [if_neg hflush, Except.map, flush, append]

end Stream

namespace Stdout

/-- The standard output with a line more, which is shown. -/
def append (o : Stdout) (line : String) : Stdout :=
  { o with shown := o.shown ++ (line ++ "\n") }

/-- A line is shown at once whether or not the output writes through. -/
theorem writeLine_of_settled {o : Stdout} (ho : o.pending = "") (line : String) :
    o.writeLine line = o.append line := by
  rw [writeLine, write]
  by_cases hthrough : o.writeThrough = true
  · simp only [if_pos hthrough, flush, append, ho, String.append_empty]
  · simp only [if_neg hthrough, flush, append, ho, String.empty_append]

end Stdout

namespace Session

/-- What the output of a sink holds, if there is one. What is pending does not
    count. -/
def content? (s : Session) : Sink → Option Content
  | .stdout => some (.text s.stdout.shown)
  | .stream id => (s.stream? id).map fun stream => .text stream.shown
  | .memory id => (s.memories[id.index]?).map .lines

/-- The session with a line more in the output of a sink. -/
def append (s : Session) (sink : Sink) (line : String) : Session :=
  match sink with
  | .stdout => { s with stdout := s.stdout.append line }
  | .stream id => { s with streams := s.streams.modify id.index fun stream => stream.append line }
  | .memory id => { s with memories := s.memories.modify id.index fun kept => kept ++ [line] }

/-- Why a sink refuses a line. -/
def refusal? (s : Session) (sink : Sink) (line : String) : Option Failure :=
  match sink with
  | .stream id =>
    match s.stream? id with
    | some stream => (stream.refusal (line ++ "\n")).map .stream
    | none => some .dangling
  | _ => none

/-- Nothing is pending in any output. -/
def Settled (s : Session) : Prop :=
  s.stdout.pending = "" ∧ ∀ stream ∈ s.streams, stream.pending = ""

/-! ### One line -/

/-- A line more in the output of one sink is no change to that of another. -/
theorem content?_append (s : Session) (sink : Sink) (line : String) (other : Sink) :
    (s.append sink line).content? other =
      if other = sink then (s.content? other).map (·.add line) else s.content? other := by
  cases sink with
  | stdout =>
      cases other with
      | stdout => rfl
      | stream id => rfl
      | memory id => rfl
  | stream id =>
      cases other with
      | stdout => rfl
      | memory id' => rfl
      | stream id' =>
          simp only [content?, append, stream?, Array.getElem?_modify]
          by_cases hid : id = id'
          · simp only [hid, if_true, Option.map_map]
            rfl
          · have hindex : id.index ≠ id'.index := fun h => hid (congrArg StreamId.mk h)
            have hne : Sink.stream id' ≠ Sink.stream id := fun h => hid (Sink.stream.inj h).symm
            rw [if_neg hindex, if_neg hne]
  | memory id =>
      cases other with
      | stdout => rfl
      | stream id' => rfl
      | memory id' =>
          simp only [content?, append, Array.getElem?_modify]
          by_cases hid : id = id'
          · simp only [hid, if_true, Option.map_map]
            rfl
          · have hindex : id.index ≠ id'.index := fun h => hid (congrArg MemoryId.mk h)
            have hne : Sink.memory id' ≠ Sink.memory id := fun h => hid (Sink.memory.inj h).symm
            rw [if_neg hindex, if_neg hne]

theorem settled_append {s : Session} (hs : s.Settled) (sink : Sink) (line : String) :
    (s.append sink line).Settled := by
  cases sink with
  | stdout => exact hs
  | memory id => exact hs
  | stream id =>
      refine ⟨hs.1, ?_⟩
      intro stream hmem
      rcases Array.mem_iff_getElem?.mp hmem with ⟨i, hi⟩
      simp only [append, Array.getElem?_modify] at hi
      by_cases hindex : id.index = i
      · rw [if_pos hindex] at hi
        rcases Option.map_eq_some_iff.mp hi with ⟨before, hbefore, happend⟩
        rw [← happend]
        exact hs.2 before (Array.mem_of_getElem? hbefore)
      · rw [if_neg hindex] at hi
        exact hs.2 stream (Array.mem_of_getElem? hi)

/-- An assignment to a place of an array that depends on what is there. -/
theorem setIfInBounds_eq_modify {α : Type} {xs : Array α} {i : Nat} {x : α} (h : xs[i]? = some x)
    (f : α → α) : xs.setIfInBounds i (f x) = xs.modify i f := by
  refine Array.ext_getElem? fun j => ?_
  rw [Array.getElem?_modify, Array.getElem?_setIfInBounds]
  by_cases hij : i = j
  · rcases Array.getElem?_eq_some_iff.mp h with ⟨hlt, _⟩
    rw [← hij, if_pos rfl, if_pos rfl, if_pos hlt, h]
    rfl
  · rw [if_neg hij, if_neg hij]

/-- Writing to a sink of a settled session adds a line to its output, or fails
    and does nothing. -/
theorem runOn_writeLine {s : Session} (hs : s.Settled) (sink : Sink) (line : String) :
    (Action.writeLine sink line).runOn s =
      match s.refusal? sink line with
      | some failure => (.error failure, s)
      | none => (.ok (), s.append sink line) := by
  cases sink with
  | stdout =>
      rw [Action.runOn_writeLine_stdout, Stdout.writeLine_of_settled hs.1]
      rfl
  | memory id => exact Action.runOn_writeLine_memory id line s
  | stream id =>
      rw [Action.runOn_writeLine_stream]
      cases hstream : s.stream? id with
      | none => simp only [refusal?, hstream]
      | some stream =>
          have hpending : stream.pending = "" := hs.2 stream (Array.mem_of_getElem? hstream)
          simp only [refusal?, hstream, Stream.writeLine_of_settled hpending]
          cases stream.refusal (line ++ "\n") with
          | some reason => rfl
          | none =>
              simp only [Option.map_none, append]
              rw [setIfInBounds_eq_modify hstream fun stream => stream.append line]

end Session

/-! ### The line of an operation -/

/-- The line that an operation writes, and the sink that it goes to: none if it
    does not log, if nothing is active, if the event does not pass, or if it
    cannot be rendered. -/
def Operation.line? (s : Session) : Operation → Option (Sink × String)
  | .log id e metadata =>
    (s.logger? id).bind fun l =>
      if l.isLogging e.severity then
        (l.formatEvent (.present s.now) e metadata.pretty .null).toOption.map fun line =>
          (l.sink, line)
      else none
  | .dispatch id severity message given level stack =>
    (s.activeLogger? id).bind fun l =>
      if l.isLogging severity then
        (given.resolve level stack).toOption.bind fun site =>
          (l.formatEvent (.present s.now) ⟨severity, message, site.function, site.line, site.file⟩
            none .null).toOption.map fun line => (l.sink, line)
      else none
  | .logHandled id e own =>
    (s.handler? id).bind fun h =>
      (s.logger? h.logger).bind fun l =>
        if h.isLogging e.severity then
          (l.formatEvent (.present s.now) e (h.metadataText own) h.label).toOption.map fun line =>
            (l.sink, line)
        else none
  | _ => none

theorem Operation.line?_of_not_logs {op : Operation} (h : op.logs = false) (s : Session) :
    op.line? s = none := by
  cases op with
  | log id e metadata => exact absurd h (by simp only [Operation.logs, reduceCtorEq,
      not_false_eq_true])
  | dispatch id severity message given level stack => exact absurd h (by simp only [Operation.logs,
      reduceCtorEq, not_false_eq_true])
  | logHandled id e own => exact absurd h (by simp only [Operation.logs, reduceCtorEq,
      not_false_eq_true])
  | _ => rfl

namespace Session

/-- The session after a line was given to its sink. -/
def written (s : Session) : Option (Sink × String) → Session
  | some (sink, line) => if (s.refusal? sink line).isNone then s.append sink line else s
  | none => s

theorem settled_written {s : Session} (hs : s.Settled) (w : Option (Sink × String)) :
    (s.written w).Settled := by
  rcases w with _ | ⟨sink, line⟩
  · exact hs
  · rw [written]
    by_cases hrefusal : (s.refusal? sink line).isNone = true
    · rw [if_pos hrefusal]
      exact settled_append hs sink line
    · rw [if_neg hrefusal]
      exact hs

/-- A line that is made is given to its sink, and one that is not made is
    not. -/
theorem snd_of_line {s : Session} (hs : s.Settled) (sink : Sink) (made : Except Failure String) :
    (match made with
      | .ok line => (Action.writeLine sink line).runOn s
      | .error failure => (.error failure, s)).2 =
      s.written (made.toOption.map fun line => (sink, line)) := by
  cases made with
  | error failure => rfl
  | ok line =>
      simp only [Except.toOption, Option.map_some, written, runOn_writeLine hs]
      cases s.refusal? sink line <;> rfl

/-- An operation that logs leaves the session that its line leaves. -/
theorem afterOp_of_logs {s : Session} (hs : s.Settled) {op : Operation} (hlogs : op.logs = true) :
    s.afterOp op = s.written (op.line? s) := by
  cases op with
  | log id e metadata =>
      rw [afterOp, Operation.perform, Action.runOn_then_true, Operation.line?]
      cases hl : s.logger? id with
      | none =>
          rw [Action.runOn_logEvent_none id e metadata s hl]
          rfl
      | some l =>
          rw [Action.runOn_logEvent id l e metadata s hl, Option.bind_some]
          by_cases hlog : l.isLogging e.severity = true
          · rw [if_pos hlog, if_pos hlog]
            exact snd_of_line hs l.sink _
          · rw [if_neg hlog, if_neg hlog]
            rfl
  | dispatch id severity message given level stack =>
      rw [afterOp, Operation.perform, Action.runOn_then_true, Operation.line?]
      by_cases hpass : s.isLogging id severity = true
      · rcases (Action.isLogging_iff s id severity).mp hpass with ⟨l, hl, hlog⟩
        rw [Action.runOn_dispatch id severity message given level stack s l hl hlog, hl,
          Option.bind_some, if_pos hlog]
        cases given.resolve level stack with
        | error failure => rfl
        | ok site => exact snd_of_line hs l.sink _
      · rw [Bool.not_eq_true] at hpass
        rw [Action.runOn_dispatch_silent id severity message given level stack s hpass]
        cases hl : s.activeLogger? id with
        | none => rfl
        | some l =>
            rw [isLogging, hl] at hpass
            simp only [Option.bind_some, hpass, Bool.false_eq_true, if_false, written]
  | logHandled id e own =>
      rw [afterOp, Operation.perform, Action.runOn_then_true, Operation.line?]
      cases hh : s.handler? id with
      | none =>
          rw [Action.runOn_logHandled_none id e own s hh]
          rfl
      | some h =>
          cases hl : s.logger? h.logger with
          | none =>
              rw [Action.runOn_logHandled_dangling id h e own s hh hl, Option.bind_some, hl]
              rfl
          | some l =>
              rw [Action.runOn_logHandled_logger id h l e own s hh hl, Option.bind_some, hl,
                Option.bind_some]
              by_cases hlog : h.isLogging e.severity = true
              · rw [if_pos hlog, if_pos hlog]
                exact snd_of_line hs l.sink _
              · rw [if_neg hlog, if_neg hlog]
                rfl
  | _ => exact absurd hlogs (by simp only [Operation.logs, reduceCtorEq, not_false_eq_true])

/-! ### Runs -/

theorem settled_of_outputs {s t : Session} (hs : s.Settled) (h : t.outputs = s.outputs) :
    t.Settled := by
  rw [outputs, outputs, Outputs.mk.injEq] at h
  rcases h with ⟨_, hpending, hstreams, _⟩
  rw [Settled, hpending, hstreams]
  exact hs

theorem content?_of_outputs {s t : Session} (h : t.outputs = s.outputs) (sink : Sink) :
    t.content? sink = s.content? sink := by
  rw [outputs, outputs, Outputs.mk.injEq] at h
  rcases h with ⟨hshown, _, hstreams, hmemories⟩
  cases sink with
  | stdout => rw [content?, content?, hshown]
  | stream id => rw [content?, content?, stream?, stream?, hstreams]
  | memory id => rw [content?, content?, hmemories]

/-- Nothing is pending after an operation if nothing was before. -/
theorem settled_afterOp (s : Session) (op : Operation) (hs : s.Settled) :
    (s.afterOp op).Settled := by
  cases change_afterOp s op with
  | quiet _ houtputs _ => exact settled_of_outputs hs houtputs
  | newStream canFlush refusal _ ht =>
      rw [ht]
      refine ⟨hs.1, ?_⟩
      intro stream hmem
      rcases Array.mem_push.mp hmem with hbefore | hlast
      · exact hs.2 stream hbefore
      · rw [hlast]
        rfl
  | newMemory _ ht =>
      rw [ht]
      exact hs
  | madeHandler _ _ _ _ _ _ _ houtputs _ => exact settled_of_outputs hs houtputs
  | copiedHandler _ _ _ _ houtputs _ => exact settled_of_outputs hs houtputs
  | editedHandler _ _ _ _ _ _ _ houtputs _ => exact settled_of_outputs hs houtputs
  | logged hlogs _ =>
      rw [afterOp_of_logs hs hlogs]
      exact settled_written hs _

theorem settled_start (now : Moment) (plain : Bool) : (start now plain).Settled := by
  refine ⟨rfl, ?_⟩
  intro stream hmem
  exact absurd hmem (Array.not_mem_empty stream)

theorem settled_after (now : Moment) (plain : Bool) (ops : List Operation) :
    ((start now plain).after ops).Settled :=
  after_induction settled_afterOp (start now plain) ops (settled_start now plain)

/-- The line that an operation delivers, and the sink that it goes to: the sink
    is there and does not refuse it. -/
def delivery? (s : Session) (op : Operation) : Option (Sink × String) :=
  (op.line? s).filter fun p => (s.refusal? p.1 p.2).isNone && (s.content? p.1).isSome

/-- The lines that operations deliver one after the other. -/
def deliveries (s : Session) : List Operation → List (Sink × String)
  | [] => []
  | op :: ops => (s.delivery? op).toList ++ (s.afterOp op).deliveries ops

/-- What the output of a sink holds, nothing if there is none. -/
def held (s : Session) (sink : Sink) : Content :=
  (s.content? sink).getD sink.blank

end Session

/-- The lines among deliveries that go to a sink. -/
def linesTo (sink : Sink) (deliveries : List (Sink × String)) : List String :=
  (deliveries.filter fun p => p.1 = sink).map Prod.snd

theorem linesTo_append (sink : Sink) (xs ys : List (Sink × String)) :
    linesTo sink (xs ++ ys) = linesTo sink xs ++ linesTo sink ys := by
  rw [linesTo, List.filter_append, List.map_append]
  rfl

namespace Session

/-- What an output holds grows by the line that is delivered to it. -/
theorem held_written (s : Session) (w : Option (Sink × String)) (sink : Sink) :
    (s.written w).held sink =
      (linesTo sink (w.filter fun p => (s.refusal? p.1 p.2).isNone &&
        (s.content? p.1).isSome).toList).foldl Content.add (s.held sink) := by
  rcases w with _ | ⟨target, line⟩
  · rfl
  · rw [written]
    by_cases hrefusal : (s.refusal? target line).isNone = true
    · rw [if_pos hrefusal, held, content?_append]
      by_cases hsink : sink = target
      · rw [if_pos hsink, hsink]
        cases hcontent : s.content? target with
        | none =>
            simp only [held, hcontent, Option.filter_some, Option.isSome_none, Bool.and_false,
              Bool.false_eq_true, if_false, Option.toList_none]
            rfl
        | some before =>
            simp only [held, hcontent, Option.filter_some, hrefusal, Option.isSome_some,
              Bool.and_true, if_true, Option.toList_some, linesTo, List.filter_cons, decide_true]
            rfl
      · have hother : target ≠ sink := fun h => hsink h.symm
        rw [if_neg hsink]
        cases hcontent : s.content? target with
        | none =>
            simp only [hcontent, Option.filter_some, Option.isSome_none, Bool.and_false,
              Bool.false_eq_true, if_false, Option.toList_none]
            rfl
        | some before =>
            simp only [hcontent, Option.filter_some, hrefusal, Option.isSome_some, Bool.and_true,
              if_true, Option.toList_some, linesTo, List.filter_cons, hother, decide_false,
              Bool.false_eq_true, if_false]
            rfl
    · rw [if_neg hrefusal]
      simp only [Option.filter_some, hrefusal, Bool.false_and, Bool.false_eq_true, if_false,
        Option.toList_none]
      rfl

/-- A new stream holds nothing, as if it had been there before. -/
theorem held_newStream (s : Session) (canFlush : Bool) (refusal : String → Option String)
    (sink : Sink) :
    { s with streams := s.streams.push (.opened canFlush refusal) }.held sink = s.held sink := by
  cases sink with
  | stdout => rfl
  | memory id => rfl
  | stream id =>
      simp only [held, content?, stream?, Array.getElem?_push]
      by_cases hid : id.index = s.streams.size
      · have hnone : s.streams[id.index]? = none := by
          rw [Array.getElem?_eq_none_iff]
          omega
        rw [if_pos hid, hnone]
        rfl
      · rw [if_neg hid]

theorem held_newMemory (s : Session) (sink : Sink) :
    { s with memories := s.memories.push [] }.held sink = s.held sink := by
  cases sink with
  | stdout => rfl
  | stream id => rfl
  | memory id =>
      simp only [held, content?, Array.getElem?_push]
      by_cases hid : id.index = s.memories.size
      · have hnone : s.memories[id.index]? = none := by
          rw [Array.getElem?_eq_none_iff]
          omega
        rw [if_pos hid, hnone]
        rfl
      · rw [if_neg hid]

/-- What an output holds grows by the line that an operation delivers to it, and
    by nothing else. -/
theorem held_afterOp {s : Session} (hs : s.Settled) (op : Operation) (sink : Sink) :
    (s.afterOp op).held sink =
      (linesTo sink (s.delivery? op).toList).foldl Content.add (s.held sink) := by
  have hquiet : op.logs = false → (s.afterOp op).held sink = s.held sink →
      (s.afterOp op).held sink =
        (linesTo sink (s.delivery? op).toList).foldl Content.add (s.held sink) := by
    intro hlogs hheld
    rw [hheld, delivery?, Operation.line?_of_not_logs hlogs]
    rfl
  have houtputs : op.logs = false → (s.afterOp op).outputs = s.outputs →
      (s.afterOp op).held sink =
        (linesTo sink (s.delivery? op).toList).foldl Content.add (s.held sink) := by
    intro hlogs houtputs
    exact hquiet hlogs (by rw [held, held, content?_of_outputs houtputs])
  cases change_afterOp s op with
  | quiet hlogs hsame _ => exact houtputs hlogs hsame
  | newStream canFlush refusal hop ht =>
      refine hquiet (by rw [hop]; rfl) ?_
      rw [ht]
      exact held_newStream s canFlush refusal sink
  | newMemory hop ht =>
      refine hquiet (by rw [hop]; rfl) ?_
      rw [ht]
      exact held_newMemory s sink
  | madeHandler _ _ _ _ _ _ hlogs hsame _ => exact houtputs hlogs hsame
  | copiedHandler _ _ _ hlogs hsame _ => exact houtputs hlogs hsame
  | editedHandler _ _ _ _ _ _ hlogs hsame _ => exact houtputs hlogs hsame
  | logged hlogs _ =>
      rw [afterOp_of_logs hs hlogs]
      exact held_written s (op.line? s) sink

/-- What an output holds after a run is what it held before and the lines that
    the run delivered to it, in their order. -/
theorem held_after {s : Session} (hs : s.Settled) (ops : List Operation) (sink : Sink) :
    (s.after ops).held sink =
      (linesTo sink (s.deliveries ops)).foldl Content.add (s.held sink) := by
  induction ops generalizing s with
  | nil => rfl
  | cons op ops ih =>
      rw [after_cons, ih (settled_afterOp s op hs), held_afterOp hs, deliveries, linesTo_append,
        List.foldl_append]

/-- What comes of an event that passes a logger: it cannot be rendered, or the
    sink refuses the line, or the output of the sink has one line more. -/
def emitted (s : Session) (l : Logger) (e : Event) : Except Failure Unit × Session :=
  match l.formatEvent (.present s.now) e none .null with
  | .error failure => (.error failure, s)
  | .ok line =>
    match s.refusal? l.sink line with
    | some failure => (.error failure, s)
    | none => (.ok (), s.append l.sink line)

/-- An event at a given place that a dispatcher lets through. The stack of callers
    does not matter. -/
theorem runOn_dispatch_explicit {s : Session} (hs : s.Settled) {id : DispatcherId} {l : Logger}
    {severity : Severity} (hl : s.activeLogger? id = some l) (hlog : l.isLogging severity = true)
    (message : Value) (site : CallSite) (level : Nat) (stack : List CallSite) :
    (Action.dispatch id severity message ⟨some site.function, some site.line, some site.file⟩ level
        stack).runOn s =
      s.emitted l ⟨severity, message, site.function, site.line, site.file⟩ := by
  have hsite : (GivenSite.mk (some site.function) (some site.line) (some site.file)).resolve level
      stack = .ok site := rfl
  rw [Action.runOn_dispatch id severity message _ level stack s l hl hlog, hsite, emitted]
  simp only []
  cases l.formatEvent (.present s.now) ⟨severity, message, site.function, site.line, site.file⟩
    none .null with
  | error failure => rfl
  | ok line => exact runOn_writeLine hs l.sink line

/-- Delivery over whole runs. Whatever a program has done before, every output
    holds the lines that were delivered to it, in their order, and nothing is
    pending; and an event that goes through a dispatcher at a given place does
    nothing at all if the dispatcher does not let it through, and otherwise
    comes to what `emitted` says of the logger that is active at that moment.
    A line more in one output leaves all others as they were. -/
theorem dispatch_delivers_once (now : Moment) (plain : Bool) (ops : List Operation) :
    (∀ sink : Sink, ((start now plain).after ops).held sink =
        (linesTo sink ((start now plain).deliveries ops)).foldl Content.add sink.blank) ∧
      ((start now plain).after ops).Settled ∧
      (∀ (id : DispatcherId) (severity : Severity) (message : Value) (site : CallSite)
        (level : Nat) (stack : List CallSite),
        (((start now plain).after ops).isLogging id severity = false ∧
          (Action.dispatch id severity message ⟨some site.function, some site.line, some site.file⟩
              level stack).runOn ((start now plain).after ops) =
            (.ok (), (start now plain).after ops)) ∨
        (((start now plain).after ops).isLogging id severity = true ∧
          ∃ l, ((start now plain).after ops).activeLogger? id = some l ∧
            (Action.dispatch id severity message
                ⟨some site.function, some site.line, some site.file⟩ level stack).runOn
                ((start now plain).after ops) =
              ((start now plain).after ops).emitted l
                ⟨severity, message, site.function, site.line, site.file⟩)) ∧
      ∀ (sink : Sink) (line : String) (other : Sink),
        (((start now plain).after ops).append sink line).content? other =
          if other = sink then (((start now plain).after ops).content? other).map (·.add line)
          else ((start now plain).after ops).content? other := by
  have hsettled := settled_after now plain ops
  refine ⟨?_, hsettled, ?_, ?_⟩
  · intro sink
    rw [held_after (settled_start now plain)]
    -- Nothing is held at the start.
    cases sink <;> rfl
  · intro id severity message site level stack
    by_cases hpass : ((start now plain).after ops).isLogging id severity = true
    · rcases (Action.isLogging_iff _ id severity).mp hpass with ⟨l, hl, hlog⟩
      have hrun := runOn_dispatch_explicit hsettled hl hlog message site level stack
      exact Or.inr ⟨hpass, l, hl, hrun⟩
    · rw [Bool.not_eq_true] at hpass
      have hrun := Action.runOn_dispatch_silent id severity message
        ⟨some site.function, some site.line, some site.file⟩ level stack _ hpass
      exact Or.inl ⟨hpass, hrun⟩
  · intro sink line other
    exact content?_append _ sink line other

/-- An event that passes and can be rendered is not delivered if the stream has no
    space for it: the failure of the stream is that of the event. -/
theorem dispatch_delivers_nothing_when_refused :
    ∃ (s : Session) (l : Logger),
      s = (start ⟨⟨2024, 1, 1, 0, 0, 0, 0⟩, some 0⟩ false).after
        [.openStream false (Stream.faulty "fail").refusal,
          .activateStream ⟨0⟩ (.stream ⟨0⟩) (.text "info"),
          .editLogger ⟨0⟩ (.format (.text "(%msg)"))] ∧
      s.activeLogger? ⟨0⟩ = some l ∧ l.sink = .stream ⟨0⟩ ∧ s.isLogging ⟨0⟩ .info = true ∧
      l.formatEvent (.present s.now)
          ⟨.info, .text "will fail", .text "main", .int 1, .text "/srv/app.py"⟩ none .null =
        .ok "will fail" ∧
      (Action.dispatch ⟨0⟩ .info (.text "will fail")
          ⟨some (.text "main"), some (.int 1), some (.text "/srv/app.py")⟩ 1 []).runOn s =
        (.error (.stream "disk full"), s) ∧
      s.content? (.stream ⟨0⟩) = some (.text "") := by
  rcases show ∃ (s : Session) (l : Logger),
      s = (start ⟨⟨2024, 1, 1, 0, 0, 0, 0⟩, some 0⟩ false).after
        [.openStream false (Stream.faulty "fail").refusal,
          .activateStream ⟨0⟩ (.stream ⟨0⟩) (.text "info"),
          .editLogger ⟨0⟩ (.format (.text "(%msg)"))] ∧
      s.now = ⟨⟨2024, 1, 1, 0, 0, 0, 0⟩, some 0⟩ ∧ s.activeLogger? ⟨0⟩ = some l ∧
      l.sink = .stream ⟨0⟩ ∧ l.threshold = .info ∧
      l.formatter = none ∧ l.template = some (Template.ofText "(%msg)") ∧ l.colored = .bool false ∧
      l.fullFilePath = .bool false ∧ l.dateFormatter = ⟨.null, .home⟩ ∧
      s.stream? ⟨0⟩ = some (.opened false (Stream.faulty "fail").refusal) from
    ⟨_, _, rfl, rfl, rfl, rfl, rfl, rfl, rfl, rfl, rfl, rfl, rfl⟩ with
    ⟨s, l, hs, hnow, hl, hsink, hthreshold, hformatter, htemplate, hcolored, hfull, hdates,
      hstream⟩
  have hinside : (Occasion.present s.now).moment.IsInside := by
    rw [hnow]
    constructor <;> decide
  have hpattern : l.dateFormatter.pattern.IsOptionalText := by
    rw [hdates]
    trivial
  have hhome : ZoneSetting.home.resolve = .ok .home := rfl
  have hshows : l.dateFormatter.zone.ShowsAt (.present s.now) := by
    rw [hdates]
    exact showsAt_of_isInside (natAbs_offsetAt_of_resolve hhome) hinside
  rcases DateFormatter.exists_formatAt_of_showsAt hpattern hshows with ⟨date, hdate⟩
  have hlog : l.isLogging .info = true := by
    rw [Logger.isLogging, hthreshold]
    rfl
  have hpass : s.isLogging ⟨0⟩ .info = true := by
    rw [isLogging, hl]
    exact hlog
  have hline : l.formatEvent (.present s.now)
      ⟨.info, .text "will fail", .text "main", .int 1, .text "/srv/app.py"⟩ none .null =
        .ok "will fail" := by
    refine (Logger.formatEvent_plain hdate .info "will fail" "main" 1 "/srv/app.py" none
      none).trans ?_
    simp only [Logger.render, Logger.mode, Logger.paint, hformatter, htemplate, hcolored,
      Value.truthy, Bool.false_eq_true, if_false, Entry.fill_ofText]
    exact congrArg Except.ok (Template.expand_placeholder _ .message)
  have hwrite : (Stream.opened false (Stream.faulty "fail").refusal).writeLine "will fail" =
      .error (.stream "disk full") := rfl
  have hfail : (Action.writeLine l.sink "will fail").runOn s =
      (.error (.stream "disk full"), s) := by
    rw [hsink, Action.runOn_writeLine_stream, hstream]
    simp only [hwrite]
  refine ⟨s, l, hs, hl, hsink, hpass, hline, ?_, ?_⟩
  · rw [Action.runOn_dispatch ⟨0⟩ .info (.text "will fail") _ 1 [] s l hl hlog]
    simp only [GivenSite.resolve, GivenSite.complete?, bind, Option.bind, pure, hline]
    exact hfail
  · rw [content?, hstream]
    rfl

end Session

end TextLog
