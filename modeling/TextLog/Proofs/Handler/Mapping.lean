import TextLog.Proofs.Session.Wiring

/-!
# Events Taken as Mappings

A handler does the same with an event taken as a mapping as with one taken directly.

As the last stage of a pipeline a handler gets an event as a mapping and takes the
keys that have a meaning out of it, one after the other; what is left is metadata.
`Handler.consume` goes through the mapping in this way, and a mapping that is not
taken stays as it is. What is taken out is what the keys have in the mapping as it
was, and what is left are the other pairs in their order, so that the event and its
metadata can be given to the handler directly instead. The two then agree: an event
below the level of the handler is dropped where it would not be written, and
otherwise the lines are the same but for the text of an exception.

## Main definitions

* `Metadata.unreserved`: The pairs whose keys have no meaning.
* `Event.ofArguments`: The event that arguments, some of them left out, give.
* `Handler.takeEvent`, `Handler.consume`: A mapping is consumed.
* `Logger.NeverDrops`: The formatter of a logger drops no event itself.

## Theorems

* `run_takeEvent`: What is taken out and what is left.
* `run_consume_of_not_logging`, `run_consume_of_logging`: Mappings below and above
  the level.
* `runOn_process`: An event taken as a mapping, in terms of one that is rendered.
* `formatEvent_ne_dropped`: Events are dropped by handlers alone.
* `mapping_taken_like_event`: The two ways to take an event agree.
-/

namespace TextLog

open Time

namespace Metadata

/-- The pairs whose keys have no meaning to a handler. -/
def unreserved (dict : Metadata) : Metadata :=
  dict.filter fun p => p.1 ∉ reservedKeys

/-- The value of a key, which is taken out. -/
def pop (key : String) : StateM Metadata (Option Value) :=
  modifyGet fun m => (get? m key, erase m key)

theorem unreserved_eq_without {dict : Metadata} (hdict : dict.Distinct) :
    dict.unreserved = without dict reservedKeys :=
  (without_eq_filter hdict reservedKeys).symm

/-- A key with a meaning is no metadata, whether it is there or not. -/
theorem unreserved_erase {dict : Metadata} (hdict : dict.Distinct) {key : String}
    (hkey : key ∈ reservedKeys) : unreserved (erase dict key) = dict.unreserved := by
  rw [unreserved, unreserved, erase_eq_filter hdict, List.filter_filter]
  refine List.filter_congr fun p _ => ?_
  by_cases hp : p.1 = key
  · simp only [hp, hkey, not_true_eq_false, decide_false, Bool.false_and]
  · simp only [hp, ne_eq, not_false_eq_true, decide_true, Bool.and_true]

end Metadata

/-- The event that arguments give. The path is preferred to the name of a file, and
    what is left out is empty or zero. -/
def Event.ofArguments (severity : Severity) (message path name function line : Option Value) :
    Event where
  severity := severity
  message := .text ((message.map Value.toText).getD "")
  function := function.getD (.text "")
  line := line.getD (.int 0)
  file := ((path.filter Value.truthy).or (name.filter Value.truthy)).getD (.text "")

/-- The text of an exception on a line of its own, if there is any. -/
def exceptionLine (exception : Option Value) : String :=
  match exception.filter Value.truthy with
  | some v => "\n" ++ v.toText
  | none => ""

theorem eventOf_eq_ofArguments (severity : Severity) (dict : Metadata) :
    eventOf severity dict =
      Event.ofArguments severity (Metadata.get? dict "event") (Metadata.get? dict "pathname")
        (Metadata.get? dict "filename") (Metadata.get? dict "func_name")
        (Metadata.get? dict "lineno") := by
  rw [eventOf, Event.ofArguments, Event.mk.injEq]
  refine ⟨rfl, ?_, rfl, rfl, ?_⟩
  · rw [Metadata.textOf]
    cases Metadata.get? dict "event" <;> rfl
  · rw [eventFile, Metadata.present?, Metadata.present?]
    cases (Metadata.get? dict "pathname").filter Value.truthy <;>
      cases (Metadata.get? dict "filename").filter Value.truthy <;> rfl

namespace Handler

/-- The keys that have a meaning are taken out of a mapping, one after the other. They
    give an event and the value of an exception. -/
def takeEvent (severity : Severity) : StateM Metadata (Event × Option Value) := do
  let message ← Metadata.pop "event"
  let path ← Metadata.pop "pathname"
  let name ← Metadata.pop "filename"
  let function ← Metadata.pop "func_name"
  let line ← Metadata.pop "lineno"
  let exception ← Metadata.pop "exception"
  let _ ← Metadata.pop "exc_info"
  return (Event.ofArguments severity message path name function line, exception)

/-- The line that a handler makes of an event and its metadata in a session. -/
def lineIn (h : Handler) (s : Session) (e : Event) (own : Metadata) : Except Failure String :=
  ((Action.formatEvent h.logger e (h.metadataText own) h.label none).runOn s).1

/-- A handler consumes a mapping as far as it takes it, and gives back the line. -/
def consume (h : Handler) (s : Session) (method : String) :
    StateM Metadata (Except Failure String) := do
  if h.isLogging (methodSeverity method) then
    let taken ← takeEvent (methodSeverity method)
    let own ← get
    return (h.lineIn s taken.1 own).map (· ++ exceptionLine taken.2)
  else
    return .error .dropped

/-- Taking a key out changes nothing about the others, so the keys give what they have
    in the mapping as it was. -/
theorem run_takeEvent (severity : Severity) (dict : Metadata) :
    (takeEvent severity).run dict =
      ((eventOf severity dict, Metadata.get? dict "exception"),
        Metadata.without dict reservedKeys) := by
  -- Each key is looked up in what the keys before it have left.
  have hrun : (takeEvent severity).run dict =
      ((Event.ofArguments severity (Metadata.get? dict "event")
          (Metadata.get? (Metadata.without dict ["event"]) "pathname")
          (Metadata.get? (Metadata.without dict ["event", "pathname"]) "filename")
          (Metadata.get? (Metadata.without dict ["event", "pathname", "filename"]) "func_name")
          (Metadata.get? (Metadata.without dict ["event", "pathname", "filename", "func_name"])
            "lineno"),
        Metadata.get?
          (Metadata.without dict ["event", "pathname", "filename", "func_name", "lineno"])
          "exception"), Metadata.without dict reservedKeys) := rfl
  have hget : ∀ (key : String) (keys : List String), key ∉ keys →
      Metadata.get? (Metadata.without dict keys) key = Metadata.get? dict key :=
    fun key keys hkey => Metadata.get?_without_of_not_mem dict hkey
  rw [hrun, hget _ _ (by decide), hget _ _ (by decide), hget _ _ (by decide),
    hget _ _ (by decide), hget _ _ (by decide), eventOf_eq_ofArguments]

theorem run_consume_of_not_logging {h : Handler} {method : String}
    (hlog : h.isLogging (methodSeverity method) = false) (s : Session) (dict : Metadata) :
    (h.consume s method).run dict = (.error .dropped, dict) := by
  rw [consume, hlog]
  rfl

theorem run_consume_of_logging {h : Handler} {method : String}
    (hlog : h.isLogging (methodSeverity method) = true) (s : Session) (dict : Metadata) :
    (h.consume s method).run dict =
      ((h.lineIn s (eventOf (methodSeverity method) dict)
          (Metadata.without dict reservedKeys)).map (· ++ exceptionTail dict),
        Metadata.without dict reservedKeys) := by
  have hrun : (h.consume s method).run dict =
      (((h.lineIn s ((takeEvent (methodSeverity method)).run dict).1.1
          ((takeEvent (methodSeverity method)).run dict).2).map
            (· ++ exceptionLine ((takeEvent (methodSeverity method)).run dict).1.2)),
        ((takeEvent (methodSeverity method)).run dict).2) := by
    rw [consume, hlog]
    rfl
  rw [hrun, run_takeEvent]
  rfl

end Handler

/-! ### Drops -/

theorem ne_dropped_bind {α β : Type} {x : Except Failure α} {f : α → Except Failure β}
    (hx : x ≠ .error .dropped) (hf : ∀ a, f a ≠ .error .dropped) : x.bind f ≠ .error .dropped := by
  cases x with
  | error failure => exact fun h => hx (congrArg Except.error (Except.error.inj h))
  | ok a => exact hf a

theorem ne_dropped_map {α β : Type} {x : Except Failure α} {f : α → β}
    (hx : x ≠ .error .dropped) : x.map f ≠ .error .dropped := by
  cases x with
  | error failure => exact fun h => hx (congrArg Except.error (Except.error.inj h))
  | ok a => simp only [Except.map, ne_eq, reduceCtorEq, not_false_eq_true]

theorem ne_dropped_ok {α : Type} (a : α) : (.ok a : Except Failure α) ≠ .error .dropped := by
  simp only [ne_eq, reduceCtorEq, not_false_eq_true]

theorem ne_dropped_error {α : Type} {failure : Failure} (h : failure ≠ .dropped) :
    (.error failure : Except Failure α) ≠ .error .dropped :=
  fun hdropped => h (Except.error.inj hdropped)

theorem ne_dropped_ite {α : Type} {c : Prop} [Decidable c] {x y : Except Failure α}
    (hx : x ≠ .error .dropped) (hy : y ≠ .error .dropped) :
    (if c then x else y) ≠ .error .dropped := by
  by_cases hc : c
  · rw [if_pos hc]
    exact hx
  · rw [if_neg hc]
    exact hy

theorem locate_ne_dropped (m : Moment) : m.locate ≠ .error .dropped := by
  rw [Moment.locate]
  cases m.offset with
  | some offset => exact ne_dropped_ok _
  | none =>
      exact ne_dropped_ite (ne_dropped_error nofun)
        (ne_dropped_ite (ne_dropped_error nofun) (ne_dropped_ok _))

theorem wallAt_ne_dropped (z : Zone) (instant : Int) : z.wallAt instant ≠ .error .dropped :=
  ne_dropped_ite (ne_dropped_ite (ne_dropped_ok _) (ne_dropped_error nofun))
    (ne_dropped_error nofun)

theorem momentAt_ne_dropped (z : Zone) (instant : Int) : z.momentAt instant ≠ .error .dropped := by
  cases z with
  | home =>
      exact ne_dropped_ite (ne_dropped_error nofun)
        (ne_dropped_ite (ne_dropped_error nofun) (ne_dropped_ok _))
  | _ => exact ne_dropped_map (wallAt_ne_dropped _ instant)

theorem format_ne_dropped (f : DateFormatter) (moment : Moment) :
    f.format moment ≠ .error .dropped := by
  refine ne_dropped_bind (locate_ne_dropped moment) fun instant =>
    ne_dropped_bind (wallAt_ne_dropped f.zone instant) fun shown => ?_
  rw [DateFormatter.layOut]
  cases f.pattern with
  | null => exact ne_dropped_ok _
  | text p => exact ne_dropped_ok _
  | _ => exact ne_dropped_error nofun

/-- A date may fail, but it drops no event. -/
theorem formatAt_ne_dropped (f : DateFormatter) (occasion : Occasion) :
    f.formatAt occasion ≠ .error .dropped := by
  cases occasion with
  | given moment => exact format_ne_dropped f moment
  | present now =>
      -- The clock of the session, the clocks of the zone, and then the date.
      exact ne_dropped_bind (ne_dropped_bind (locate_ne_dropped now) (momentAt_ne_dropped f.zone))
        (format_ne_dropped f)

theorem accepts_ne_dropped (m : RenderMode) (e : Event) (label : Value) :
    m.accepts e label ≠ .error .dropped := by
  cases m with
  | template t =>
      simp only [RenderMode.accepts]
      split
      · exact ne_dropped_error nofun
      · exact ne_dropped_ok ()
  | _ => exact ne_dropped_ok ()

namespace Logger

/-- The formatter of a logger, if it has one, drops no event itself. -/
def NeverDrops (l : Logger) : Prop :=
  ∀ f, l.formatter = some f → ∀ entry, f.render entry ≠ .error .dropped

theorem render_ne_dropped {l : Logger} (hl : l.NeverDrops) (entry : Entry) :
    l.render entry ≠ .error .dropped := by
  rw [render, mode]
  cases hformatter : l.formatter with
  | some f => exact hl f hformatter entry
  | none =>
      cases l.template with
      | none => exact ne_dropped_ok _
      | some t => exact ne_dropped_ok _

/-- Rendering may fail, but unless it is the formatter that drops the event, the event
    is not dropped. -/
theorem formatEvent_ne_dropped {l : Logger} (hl : l.NeverDrops) (occasion : Occasion) (e : Event)
    (metadata : Option String) (label : Value) :
    l.formatEvent occasion e metadata label ≠ .error .dropped := by
  refine ne_dropped_bind (formatAt_ne_dropped _ occasion) fun date =>
    ne_dropped_bind ?file fun file => ne_dropped_bind ?accepts fun _ => render_ne_dropped hl _
  case file =>
      cases e.file with
      | text path => exact ne_dropped_ok _
      | _ => exact ne_dropped_ite (ne_dropped_ok _) (ne_dropped_error nofun)
  case accepts => exact accepts_ne_dropped l.mode _ label

end Logger

namespace Session

theorem runOn_renderHandled_eq {s : Session} {id : HandlerId} {h : Handler}
    (hh : s.handler? id = some h) (e : Event) (own : Metadata) :
    (Action.renderHandled id e own).runOn s = (h.lineIn s e own, s) := by
  rw [Action.runOn_renderHandled id h e own s hh, Handler.lineIn, Prod.ext_iff]
  exact ⟨rfl, Action.runOn_formatEvent_snd _ _ _ _ _ s⟩

/-- An event taken as a mapping, in terms of the same event rendered. -/
theorem runOn_process {s : Session} {id : HandlerId} {h : Handler} (hh : s.handler? id = some h)
    (method : String) (dict : Metadata) :
    (Action.process id method dict).runOn s =
      if h.isLogging (methodSeverity method) then
        ((h.lineIn s (eventOf (methodSeverity method) dict)
          (Metadata.without dict reservedKeys)).map fun line =>
            (line ++ exceptionTail dict, Metadata.without dict reservedKeys), s)
      else (.error .dropped, s) := by
  rw [Action.process, Action.runOn_bind_ok (Action.runOn_handler id h s hh)]
  by_cases hlog : h.isLogging (methodSeverity method) = true
  · simp only [hlog, if_true]
    rw [Action.runOn_bind, runOn_renderHandled_eq hh]
    cases h.lineIn s (eventOf (methodSeverity method) dict) (Metadata.without dict reservedKeys) <;>
      rfl
  · simp only [hlog]
    rfl

/-- An event below the level of a handler is dropped as a mapping, which is left
    alone, and not written otherwise. -/
theorem taken_of_not_logging {s : Session} {id : HandlerId} {h : Handler}
    (hh : s.handler? id = some h) {method : String}
    (hlog : h.isLogging (methodSeverity method) = false) (dict own : Metadata) :
    (h.consume s method).run dict = (.error .dropped, dict) ∧
      (Action.process id method dict).runOn s = (.error .dropped, s) ∧
      (Action.logHandled id (eventOf (methodSeverity method) dict) own).runOn s =
        (.ok (), s) := by
  have hnot : ¬ h.isLogging (methodSeverity method) = true := by
    rw [hlog]
    exact Bool.false_ne_true
  refine ⟨Handler.run_consume_of_not_logging hlog s dict, ?_, ?_⟩
  · rw [runOn_process hh, if_neg hnot]
  · rw [Action.runOn_logHandled id h _ own s hh]
    exact if_neg hnot

/-- An event that reaches the level of a handler is rendered once. The line is written,
    or it is given back with the text of an exception and what is left of the
    mapping. -/
theorem taken_of_logging {s : Session} {id : HandlerId} {h : Handler}
    (hh : s.handler? id = some h) {method : String}
    (hlog : h.isLogging (methodSeverity method) = true) {dict : Metadata}
    (hdict : dict.Distinct) :
    ∃ outcome, (Action.renderHandled id (eventOf (methodSeverity method) dict)
          dict.unreserved).runOn s = (outcome, s) ∧
      (Action.logHandled id (eventOf (methodSeverity method) dict) dict.unreserved).runOn s =
        (match outcome with
        | .ok line => (Action.write h.logger line).runOn s
        | .error failure => (.error failure, s)) ∧
      (h.consume s method).run dict =
        (outcome.map (· ++ exceptionTail dict), dict.unreserved) ∧
      (Action.process id method dict).runOn s =
        (outcome.map fun line => (line ++ exceptionTail dict, dict.unreserved), s) := by
  refine ⟨_, runOn_renderHandled_eq hh _ _, ?_, ?_, ?_⟩
  · have hpass : h.isLogging (eventOf (methodSeverity method) dict).severity = true := hlog
    rw [Action.runOn_logHandled id h _ _ s hh, if_pos hpass, Action.runOn_bind,
      runOn_renderHandled_eq hh]
    cases h.lineIn s (eventOf (methodSeverity method) dict) dict.unreserved <;> rfl
  · rw [Handler.run_consume_of_logging hlog, Metadata.unreserved_eq_without hdict]
  · rw [runOn_process hh, if_pos hlog, Metadata.unreserved_eq_without hdict]

/-- An event is dropped below the level of the handler, and otherwise only if rendering
    drops it. -/
theorem process_dropped_iff {s : Session} {id : HandlerId} {h : Handler}
    (hh : s.handler? id = some h) (method : String) {dict : Metadata} (hdict : dict.Distinct) :
    ((Action.process id method dict).runOn s).1 = .error .dropped ↔
      h.isLogging (methodSeverity method) = false ∨
        ((Action.renderHandled id (eventOf (methodSeverity method) dict)
          dict.unreserved).runOn s).1 = .error .dropped := by
  rw [runOn_process hh, runOn_renderHandled_eq hh, ← Metadata.unreserved_eq_without hdict]
  by_cases hlog : h.isLogging (methodSeverity method) = true
  · rw [if_pos hlog, hlog]
    cases h.lineIn s (eventOf (methodSeverity method) dict) dict.unreserved with
    | ok line => simp only [Except.map, reduceCtorEq, or_self]
    | error failure => simp only [Except.map, Except.error.injEq, reduceCtorEq, false_or]
  · rw [if_neg hlog]
    rw [Bool.not_eq_true] at hlog
    simp only [hlog, true_or]

/-- A handler whose logger has no formatter that drops events drops none that reaches
    its level. -/
theorem renderHandled_ne_dropped {s : Session} {id : HandlerId} {h : Handler}
    (hh : s.handler? id = some h) (hnever : ∀ l, s.logger? h.logger = some l → l.NeverDrops)
    (e : Event) (own : Metadata) :
    ((Action.renderHandled id e own).runOn s).1 ≠ .error .dropped := by
  rw [Action.runOn_renderHandled id h e own s hh]
  cases hl : s.logger? h.logger with
  | none =>
      rw [Action.formatEvent, Action.runOn_bind_error (Action.runOn_logger_none _ s hl)]
      exact ne_dropped_error (by simp only [ne_eq, reduceCtorEq, not_false_eq_true])
  | some l =>
      rw [Action.runOn_formatEvent _ l _ _ _ _ s hl]
      exact Logger.formatEvent_ne_dropped (hnever l hl) _ e _ _

/-- The text of an exception is all that the key of an exception does. -/
theorem process_erase_exception {s : Session} {id : HandlerId} {h : Handler}
    (hh : s.handler? id = some h) (method : String) {dict : Metadata} (hdict : dict.Distinct) :
    (Action.process id method dict).runOn s =
      (((Action.process id method (Metadata.erase dict "exception")).runOn s).1.map fun taken =>
        (taken.1 ++ exceptionTail dict, taken.2), s) := by
  have hrest := Metadata.distinct_erase hdict "exception"
  have hown : Metadata.without (Metadata.erase dict "exception") reservedKeys =
      Metadata.without dict reservedKeys := by
    rw [← Metadata.unreserved_eq_without hrest, Metadata.unreserved_erase hdict (by decide),
      Metadata.unreserved_eq_without hdict]
  have hevent : eventOf (methodSeverity method) (Metadata.erase dict "exception") =
      eventOf (methodSeverity method) dict := by
    rw [eventOf_eq_ofArguments, eventOf_eq_ofArguments]
    iterate 5 rw [Metadata.get?_erase_of_ne _ (by decide)]
  have htail : exceptionTail (Metadata.erase dict "exception") = "" := by
    have hgone : Metadata.get? (Metadata.erase dict "exception") "exception" = none :=
      Metadata.get?_erase_self hdict "exception"
    rw [exceptionTail, Metadata.present?, hgone]
    rfl
  rw [runOn_process hh, runOn_process hh, hown, hevent, htail]
  by_cases hlog : h.isLogging (methodSeverity method) = true
  · rw [if_pos hlog, if_pos hlog]
    rcases h.lineIn s (eventOf (methodSeverity method) dict)
      (Metadata.without dict reservedKeys) with failure | line
    · rfl
    · simp only [Except.map, String.append_empty]
  · rw [if_neg hlog, if_neg hlog]
    rfl

/-- An event without metadata of its own is shown with those of the handler alone. -/
theorem renderHandled_of_reserved {s : Session} (hs : s.Fresh) {id : HandlerId} {h : Handler}
    (hh : s.handler? id = some h) {dict : Metadata} (hreserved : ∀ p ∈ dict, p.1 ∈ reservedKeys)
    (e : Event) :
    (Action.renderHandled id e dict.unreserved).runOn s =
      (Action.formatEvent h.logger e (Metadata.pretty h.metadata) h.label none).runOn s := by
  have hnone : dict.unreserved = [] :=
    List.filter_eq_nil_iff.mpr fun p hp => by
      simp only [hreserved p hp, not_true_eq_false, decide_false, Bool.false_eq_true,
        not_false_eq_true]
  rw [Action.runOn_renderHandled id h e _ s hh, hnone,
    Handler.metadataText_of_fresh (hs h (mem_handlers hh))]
  rfl

/-- Whatever the threshold of the logger of a handler is, the handler makes the same
    lines. -/
theorem runOn_formatEvent_threshold (s : Session) (id : LoggerId) (v : Value) (e : Event)
    (metadata : Option String) (label : Value) :
    ((Action.formatEvent id e metadata label none).runOn
        (s.afterOp (.editLogger id (.threshold v)))).1 =
      ((Action.formatEvent id e metadata label none).runOn s).1 := by
  rw [afterOp, Operation.perform, Action.runOn_then_true]
  cases hl : s.logger? id with
  | none => rw [Action.editLogger, Action.runOn_bind_error (Action.runOn_logger_none id s hl)]
  | some l =>
      -- A threshold that is refused leaves the logger as it was.
      have hassign : ∃ severity, l.assign (.threshold v) = { l with threshold := severity } := by
        rw [Logger.assign, Logger.edit]
        cases Severity.parse v with
        | ok severity => exact ⟨severity, rfl⟩
        | error failure => exact ⟨l.threshold, rfl⟩
      rcases hassign with ⟨severity, hassign⟩
      rw [runOn_editLogger s id _ l hl, hassign,
        Action.runOn_formatEvent id _ e metadata label none _ (logger?_setIfInBounds s id l _ hl),
        Action.runOn_formatEvent id l e metadata label none s hl]
      rfl

theorem process_threshold {s : Session} {id : HandlerId} {h : Handler}
    (hh : s.handler? id = some h) (v : Value) (method : String) (dict : Metadata) :
    ((Action.process id method dict).runOn
        (s.afterOp (.editLogger h.logger (.threshold v)))).1 =
      ((Action.process id method dict).runOn s).1 := by
  have hsetup : (s.afterOp (.editLogger h.logger (.threshold v))).setup = s.setup :=
    Action.keeps_then (Action.keeps_editLogger h.logger (.threshold v)) true s
  have hh' : (s.afterOp (.editLogger h.logger (.threshold v))).handler? id = some h := by
    rw [handler?, show (s.afterOp _).handlers = s.handlers from congrArg Prod.snd hsetup]
    exact hh
  have hline : h.lineIn (s.afterOp (.editLogger h.logger (.threshold v)))
      (eventOf (methodSeverity method) dict) (Metadata.without dict reservedKeys) =
      h.lineIn s (eventOf (methodSeverity method) dict) (Metadata.without dict reservedKeys) :=
    runOn_formatEvent_threshold s h.logger v _ _ _
  rw [runOn_process hh, runOn_process hh', hline]
  by_cases hlog : h.isLogging (methodSeverity method) = true
  · rw [if_pos hlog, if_pos hlog]
  · rw [if_neg hlog, if_neg hlog]

/-- The two ways to take an event agree. Whatever a program has done, an event below the
    level of a handler is dropped as a mapping, which stays as it was, where it would
    not be written; and one that reaches the level is consumed to the line that would be
    written for its message, place and other pairs, with the text of an exception behind
    it. It is dropped in no other case, unless the formatter of the logger drops it; the
    exception does nothing else; without other pairs the metadata of the handler alone
    are shown; and the threshold of the logger does not matter. -/
theorem mapping_taken_like_event (s : Session) (hs : s.Reached) (id : HandlerId) (h : Handler)
    (hh : s.handler? id = some h) (method : String) (dict : Metadata) (hdict : dict.Distinct) :
    (h.isLogging (methodSeverity method) = false →
      (h.consume s method).run dict = (.error .dropped, dict) ∧
        (Action.process id method dict).runOn s = (.error .dropped, s) ∧
        (Action.logHandled id (eventOf (methodSeverity method) dict) dict.unreserved).runOn s =
          (.ok (), s)) ∧
      (h.isLogging (methodSeverity method) = true →
        ∃ outcome, (Action.renderHandled id (eventOf (methodSeverity method) dict)
              dict.unreserved).runOn s = (outcome, s) ∧
          (Action.logHandled id (eventOf (methodSeverity method) dict) dict.unreserved).runOn s =
            (match outcome with
            | .ok line => (Action.write h.logger line).runOn s
            | .error failure => (.error failure, s)) ∧
          (h.consume s method).run dict =
            (outcome.map (· ++ exceptionTail dict), dict.unreserved) ∧
          (Action.process id method dict).runOn s =
            (outcome.map fun line => (line ++ exceptionTail dict, dict.unreserved), s)) ∧
      (((Action.process id method dict).runOn s).1 = .error .dropped ↔
        h.isLogging (methodSeverity method) = false ∨
          ((Action.renderHandled id (eventOf (methodSeverity method) dict)
            dict.unreserved).runOn s).1 = .error .dropped) ∧
      ((∀ l, s.logger? h.logger = some l → l.NeverDrops) →
        ((Action.renderHandled id (eventOf (methodSeverity method) dict)
          dict.unreserved).runOn s).1 ≠ .error .dropped) ∧
      (Action.process id method dict).runOn s =
        (((Action.process id method (Metadata.erase dict "exception")).runOn s).1.map fun taken =>
          (taken.1 ++ exceptionTail dict, taken.2), s) ∧
      ((∀ p ∈ dict, p.1 ∈ reservedKeys) →
        (Action.renderHandled id (eventOf (methodSeverity method) dict) dict.unreserved).runOn s =
          (Action.formatEvent h.logger (eventOf (methodSeverity method) dict)
            (Metadata.pretty h.metadata) h.label none).runOn s) ∧
      ∀ v, ((Action.process id method dict).runOn
          (s.afterOp (.editLogger h.logger (.threshold v)))).1 =
        ((Action.process id method dict).runOn s).1 :=
  ⟨fun hlog => taken_of_not_logging hh hlog dict dict.unreserved,
    fun hlog => taken_of_logging hh hlog hdict, process_dropped_iff hh method hdict,
    fun hnever => renderHandled_ne_dropped hh hnever _ _, process_erase_exception hh method hdict,
    fun hreserved => renderHandled_of_reserved (wired_of_reached hs).fresh hh hreserved _,
    fun v => process_threshold hh v method dict⟩

/-- A logger that lets critical events through alone does not keep a handler from a
    warning, whose path is empty and whose region is not that of the handler. -/
theorem mapping_taken_like_event_exception :
    ∃ (s : Session) (h : Handler) (dict : Metadata),
      s = (start ⟨⟨2024, 1, 1, 0, 0, 0, 0⟩, some 0⟩ false).afterSteps
        [.operation .openMemory, .operation (.makeLogger (.text "critical") (.memory ⟨0⟩)
          { format := .text "(%file) (%msg) (%metadata)", timeZone := .name "UTC" }),
          .operation (.makeHandler (.text "api") (some ⟨0⟩) (.text "info")
            (.map [("region", .text "eu")]))] ∧
      s.handler? ⟨0⟩ = some h ∧
      dict = [("size", .int 3), ("event", .text "slow"), ("pathname", .text ""),
        ("filename", .text "a.py"), ("region", .text "us"), ("exception", .text "Boom"),
        ("exc_info", .bool true)] ∧
      dict.Distinct ∧ h.isLogging (methodSeverity "warning") = true ∧
      ∃ outcome,
        (Action.renderHandled ⟨0⟩ (eventOf (methodSeverity "warning") dict)
          dict.unreserved).runOn s = (outcome, s) ∧
        (Action.process ⟨0⟩ "warning" dict).runOn s =
          (outcome.map fun line => (line ++ exceptionTail dict, dict.unreserved), s) ∧
        outcome = .ok "a.py slow region=us size=3" ∧
        exceptionTail dict = "\nBoom" ∧
        dict.unreserved = [("size", .int 3), ("region", .text "us")] := by
  rcases show ∃ (s : Session) (h : Handler),
      s = (start ⟨⟨2024, 1, 1, 0, 0, 0, 0⟩, some 0⟩ false).afterSteps
        [.operation .openMemory, .operation (.makeLogger (.text "critical") (.memory ⟨0⟩)
          { format := .text "(%file) (%msg) (%metadata)", timeZone := .name "UTC" }),
          .operation (.makeHandler (.text "api") (some ⟨0⟩) (.text "info")
            (.map [("region", .text "eu")]))] ∧
      s.Reached ∧ s.handler? ⟨0⟩ = some h ∧ h.level = .info from
    ⟨_, _, rfl, ⟨_, _, _, rfl⟩, rfl, rfl⟩ with ⟨s, h, hs, hreached, hh, hlevel⟩
  have hlog : h.isLogging (methodSeverity "warning") = true := by
    rw [Handler.isLogging, hlevel]
    decide
  rcases (mapping_taken_like_event s hreached ⟨0⟩ h hh "warning"
    [("size", .int 3), ("event", .text "slow"), ("pathname", .text ""),
      ("filename", .text "a.py"), ("region", .text "us"), ("exception", .text "Boom"),
      ("exc_info", .bool true)] (by decide)).2.1 hlog with
    ⟨outcome, hrender, _, _, hprocess⟩
  have hline : outcome.toOption = some "a.py slow region=us size=3" := by
    rw [← show _ = outcome from congrArg Prod.fst hrender, hs]
    decide +kernel
  refine ⟨s, h, _, hs, hh, rfl, by decide, hlog, outcome, hrender, hprocess, ?_, rfl, rfl⟩
  cases outcome with
  | ok line => exact congrArg Except.ok (Option.some.inj hline)
  | error failure => exact absurd hline (by simp only [Except.toOption, reduceCtorEq,
      not_false_eq_true])

end Session

end TextLog
