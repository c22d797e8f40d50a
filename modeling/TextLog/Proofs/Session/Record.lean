import TextLog.Proofs.Logger.Rendering
import TextLog.Proofs.Session.Level
import TextLog.Proofs.Session.Settled

/-!
# Records All or Nothing

What becomes of a record that reaches a logger.

A record that the logger filters out does nothing, and its message is not looked at.
Of any other record a line is made in three steps, each of which may fail: the message
takes its arguments, the time of the record is read, and the logger renders the event.
The line is then given to the sink, which may refuse it. All four are attempted
together (`runOn_attemptRecord_eq`): a failure of any of them is given back and leaves
no trace in any output, and without a failure exactly one output has exactly one line
more.

A logger without a formatter of its own makes a line whenever the message takes its
arguments and the date of the record is rendered. Beyond these two things, only a
formatter and a sink can be in the way, and both can be: `formatted_records_not_written`
shows a record of either kind that has a message and a date and is not written.

## Main definitions

* `PlainRecord`: A record of texts and a number.
* `PlainRecord.lineOf`: The line of a record.
* `Logger.recordLine`: The line that a logger makes of a record.
* `Session.recorded`: What comes of a record.

## Theorems

* `text_toRecord`, `event_toRecord`: The parts of a plain record.
* `runOn_writeRecord`, `runOn_attemptRecord_eq`: A record is recorded.
* `recorded_of_failure`: Failures leave no trace.
* `recordLine_of_moment`, `lineOf_of_date`: The line of a record that has a message and a time.
* `exists_failure_of_recordLine`: Records without a message or a date have no line.
* `record_written_or_not`: Records are written once or not at all.
* `formatted_records_not_written`: Records that are not written.
-/

namespace TextLog

open Time

/-- A record as it usually is: the name of its source, its path and its function are
    texts, and its line is a number. -/
structure PlainRecord where
  level : LevelNumber
  message : Value
  args : List Value
  exception : Option String
  name : String
  path : String
  line : Int
  function : Option String
  created : Value

namespace PlainRecord

/-- The record as it is handled. -/
def toRecord (r : PlainRecord) : Record where
  level := r.level
  message := r.message
  args := r.args
  exception := r.exception
  name := .text r.name
  path := .text r.path
  line := .int r.line
  function := Value.ofText? r.function
  created := r.created

/-- A message, and the exception of the record on the lines behind it. -/
def withException (r : PlainRecord) (message : String) : String :=
  match r.exception with
  | some e => message ++ "\n" ++ e
  | none => message

/-- The line of a record whose message and time are known: that of an event with the
    severity of its level, under the name of its source. -/
def lineOf (r : PlainRecord) (l : Logger) (message : String) (moment : Moment) :
    Except Failure String :=
  l.formatEvent (.given moment)
    (Event.plain (severityOfLevel r.level) (r.withException message) (r.function.getD "") r.line
      r.path)
    none (.text r.name)

theorem text_toRecord (r : PlainRecord) :
    r.toRecord.text = (Message.format r.message.toText r.args).map r.withException := rfl

/-- Without a function an event has an empty one. -/
theorem event_toRecord (r : PlainRecord) (message : String) :
    r.toRecord.event message =
      Event.plain (severityOfLevel r.level) message (r.function.getD "") r.line r.path := by
  have hfunction : (if (Value.ofText? r.function).truthy then Value.ofText? r.function
      else .text "") = .text (r.function.getD "") := by
    cases r.function with
    | none => rfl
    | some f =>
        by_cases hf : f = ""
        · rw [hf]
          rfl
        · simp [Value.ofText?, Value.truthy, hf]
  exact congrArg (fun function => Event.mk (severityOfLevel r.level) (.text message) function
    (.int r.line) (.text r.path)) hfunction

end PlainRecord

/-- The line that a logger makes of a record, or the first thing that goes wrong. -/
def Logger.recordLine (l : Logger) (r : Record) : Except Failure String :=
  r.text.bind fun message =>
    (Moment.ofTimestamp r.created).bind fun moment =>
      l.formatEvent (.given moment) (r.event message) none r.name

namespace Session

/-- What comes of a record: the failure that is given back, if there is one, and the
    session. -/
def recorded (s : Session) (l : Logger) (r : Record) : Option Failure × Session :=
  if l.isLogging (severityOfLevel r.level) then
    match l.recordLine r with
    | .error failure => (some failure, s)
    | .ok line =>
      match s.refusal? l.sink line with
      | some failure => (some failure, s)
      | none => (none, s.append l.sink line)
  else (none, s)

theorem recorded_of_silent (s : Session) {l : Logger} {r : Record}
    (hlog : l.isLogging (severityOfLevel r.level) = false) : s.recorded l r = (none, s) := by
  rw [recorded, hlog]
  rfl

theorem recorded_of_error (s : Session) {l : Logger} {r : Record}
    (hlog : l.isLogging (severityOfLevel r.level) = true) {failure : Failure}
    (hline : l.recordLine r = .error failure) : s.recorded l r = (some failure, s) := by
  rw [recorded, if_pos hlog, hline]

theorem recorded_of_refused {s : Session} {l : Logger} {r : Record}
    (hlog : l.isLogging (severityOfLevel r.level) = true) {line : String}
    (hline : l.recordLine r = .ok line) {failure : Failure}
    (hrefusal : s.refusal? l.sink line = some failure) : s.recorded l r = (some failure, s) := by
  simp only [recorded, if_pos hlog, hline, hrefusal]

theorem recorded_of_line {s : Session} {l : Logger} {r : Record}
    (hlog : l.isLogging (severityOfLevel r.level) = true) {line : String}
    (hline : l.recordLine r = .ok line) (hrefusal : s.refusal? l.sink line = none) :
    s.recorded l r = (none, s.append l.sink line) := by
  simp only [recorded, if_pos hlog, hline, hrefusal]

/-- A failure leaves no trace. -/
theorem recorded_of_failure {s : Session} {l : Logger} {r : Record} {failure : Failure}
    (h : (s.recorded l r).1 = some failure) : (s.recorded l r).2 = s := by
  by_cases hlog : l.isLogging (severityOfLevel r.level) = true
  · cases hline : l.recordLine r with
    | error failure => rw [recorded_of_error s hlog hline]
    | ok line =>
        cases hrefusal : s.refusal? l.sink line with
        | some failure => rw [recorded_of_refused hlog hline hrefusal]
        | none =>
            rw [recorded_of_line hlog hline hrefusal] at h
            exact absurd h (by simp only [reduceCtorEq, not_false_eq_true])
  · rw [Bool.not_eq_true] at hlog
    rw [recorded_of_silent s hlog]

end Session

namespace Action

/-- A record that passes is rendered step by step, and its line goes to the sink. -/
theorem runOn_writeRecord {s : Session} {id : LoggerId} {l : Logger} (hl : s.logger? id = some l)
    (r : Record) :
    (writeRecord id r).runOn s =
      if l.isLogging (severityOfLevel r.level) then
        match l.recordLine r with
        | .ok line => (writeLine l.sink line).runOn s
        | .error failure => (.error failure, s)
      else (.ok (), s) := by
  rw [writeRecord, runOn_bind_ok (runOn_logger id l s hl)]
  by_cases hlog : l.isLogging (severityOfLevel r.level) = true
  · rw [if_pos hlog, if_pos hlog, Logger.recordLine]
    -- The action and the line fail at the same step, so the steps are taken one by one.
    cases htext : r.text with
    | error failure => rfl
    | ok message =>
        rw [runOn_bind_ok (runOn_ofExcept (.ok message) s)]
        cases hmoment : Moment.ofTimestamp r.created with
        | error failure => rfl
        | ok moment =>
            have hrender := runOn_formatEvent id l (r.event message) none r.name (some moment) s hl
            rw [Occasion.ofMoment?_some] at hrender
            rw [runOn_bind_ok (runOn_ofExcept (.ok moment) s), runOn_bind, hrender]
            simp only [Except.bind]
            cases l.formatEvent (.given moment) (r.event message) none r.name with
            | error failure => rfl
            | ok line => exact runOn_write id l line s hl
  · rw [if_neg hlog, if_neg hlog]
    rfl

/-- An attempt to write a record always answers: it gives back the failure, if there is
    one. -/
theorem runOn_attemptRecord_eq {s : Session} (hs : s.Settled) {id : LoggerId} {l : Logger}
    (hl : s.logger? id = some l) (r : Record) :
    (attemptRecord id r).runOn s = (.ok (s.recorded l r).1, (s.recorded l r).2) := by
  rw [runOn_attemptRecord, runOn_writeRecord hl, Session.recorded]
  by_cases hlog : l.isLogging (severityOfLevel r.level) = true
  · rw [if_pos hlog, if_pos hlog]
    cases l.recordLine r with
    | error failure => rfl
    | ok line =>
        simp only [Session.runOn_writeLine hs]
        cases s.refusal? l.sink line <;> rfl
  · rw [if_neg hlog, if_neg hlog]

end Action

namespace PlainRecord

/-- A record with a message and a time has the line of its event. -/
theorem recordLine_of_moment {r : PlainRecord} {message : String} {moment : Moment}
    (hmessage : Message.format r.message.toText r.args = .ok message)
    (hmoment : Moment.ofTimestamp r.created = .ok moment) (l : Logger) :
    l.recordLine r.toRecord = r.lineOf l message moment := by
  have hcreated : Moment.ofTimestamp r.toRecord.created = .ok moment := hmoment
  rw [Logger.recordLine, text_toRecord, hmessage, hcreated, lineOf, ← event_toRecord]
  rfl

/-- A record without a message or without a date has no line. -/
theorem exists_failure_of_recordLine {r : PlainRecord} {l : Logger}
    (h : (¬ ∃ message, Message.format r.message.toText r.args = .ok message) ∨
      ¬ ∃ moment date, Moment.ofTimestamp r.created = .ok moment ∧
        l.dateFormatter.format moment = .ok date) :
    ∃ failure, l.recordLine r.toRecord = .error failure := by
  cases hmessage : Message.format r.message.toText r.args with
  | error failure =>
      refine ⟨failure, ?_⟩
      rw [Logger.recordLine, text_toRecord, hmessage]
      rfl
  | ok message =>
      -- The message is there, so what is missing is the date: its time, or its text.
      have hdate := h.resolve_left (not_not.mpr ⟨message, hmessage⟩)
      cases hmoment : Moment.ofTimestamp r.created with
      | error failure =>
          have hcreated : Moment.ofTimestamp r.toRecord.created = .error failure := hmoment
          refine ⟨failure, ?_⟩
          rw [Logger.recordLine, text_toRecord, hmessage, hcreated]
          rfl
      | ok moment =>
          cases hformat : l.dateFormatter.format moment with
          | ok date => exact absurd ⟨moment, date, hmoment, hformat⟩ hdate
          | error failure =>
              refine ⟨failure, ?_⟩
              rw [recordLine_of_moment hmessage hmoment, lineOf, Logger.formatEvent,
                DateFormatter.formatAt_given, hformat]
              rfl

/-- The line of a record with a date is that of its entry. -/
theorem lineOf_of_date {l : Logger} {moment : Moment} {date : String}
    (hdate : l.dateFormatter.format moment = .ok date) (r : PlainRecord) (message : String) :
    r.lineOf l message moment =
      l.render ((Event.plain (severityOfLevel r.level) (r.withException message)
        (r.function.getD "") r.line (l.fileText r.path)).entry date none
          (Value.ofText? (some r.name))) := by
  have hgiven : l.dateFormatter.formatAt (.given moment) = .ok date := hdate
  exact Logger.formatEvent_plain hgiven _ _ _ _ _ none (some r.name)

/-- A logger without a formatter of its own makes a line of a record with a message and
    a date. -/
theorem exists_lineOf {l : Logger} (hformatter : l.formatter = none) {moment : Moment}
    {date : String} (hdate : l.dateFormatter.format moment = .ok date) (r : PlainRecord)
    (message : String) : ∃ line, r.lineOf l message moment = .ok line := by
  rw [lineOf_of_date hdate]
  exact Logger.exists_render hformatter _

end PlainRecord

/-- The epoch, on the clock of the system. -/
theorem Time.Moment.ofTimestamp_zero :
    Moment.ofTimestamp (.int 0) = .ok ⟨⟨1970, 1, 1, 5, 45, 0, 0⟩, none⟩ := by
  have hmoment : (Moment.ofTimestamp (.int 0)).toOption =
      some ⟨⟨1970, 1, 1, 5, 45, 0, 0⟩, none⟩ := by decide
  cases hresult : Moment.ofTimestamp (.int 0) with
  | error failure =>
      rw [hresult] at hmoment
      exact absurd hmoment (by simp only [Except.toOption, reduceCtorEq, not_false_eq_true])
  | ok moment =>
      rw [hresult] at hmoment
      exact congrArg Except.ok (Option.some.inj hmoment)

namespace Session

/-- Records are written once or not at all, and nothing is ever raised. In every settled
    session, as all are that a program reaches (`settled_of_reached`), for every logger of
    it and every record, an attempt to write the record gives an answer and leaves the
    session settled, and unchanged if there is a failure to give back. A record whose
    severity is below the threshold does nothing, whatever its message. Of any other
    record with a message and a date, a logger without a formatter of its own makes a
    line; if there is a line, then either the sink refuses it or its output has exactly
    this line more; and a record without a message or without a date fails. What a record
    passes, be it the threshold of a logger or the levels of a handler, is passed by the
    same record with any higher level, and its severity is at least as high then. -/
theorem record_written_or_not {s : Session} (hs : s.Settled) {id : LoggerId} {l : Logger}
    (hl : s.logger? id = some l) (r : PlainRecord) :
    (∃ (failure? : Option Failure) (t : Session),
      (Action.attemptRecord id r.toRecord).runOn s = (.ok failure?, t) ∧ t.Settled ∧
        (failure? ≠ none → t = s)) ∧
      (l.isLogging (severityOfLevel r.level) = false →
        (Action.attemptRecord id r.toRecord).runOn s = (.ok none, s)) ∧
      (l.isLogging (severityOfLevel r.level) = true →
        (∀ (message : String) (moment : Moment) (date : String),
          Message.format r.message.toText r.args = .ok message →
          Moment.ofTimestamp r.created = .ok moment →
          l.dateFormatter.format moment = .ok date →
          (l.formatter = none → ∃ line, r.lineOf l message moment = .ok line) ∧
            (∀ line, r.lineOf l message moment = .ok line →
              (∀ failure, s.refusal? l.sink line = some failure →
                (Action.attemptRecord id r.toRecord).runOn s = (.ok (some failure), s)) ∧
              (s.refusal? l.sink line = none →
                (Action.attemptRecord id r.toRecord).runOn s =
                    (.ok none, s.append l.sink line) ∧
                  ∀ sink, (s.append l.sink line).content? sink =
                    if sink = l.sink then (s.content? sink).map (·.add line)
                    else s.content? sink)) ∧
            ∀ failure, r.lineOf l message moment = .error failure →
              (Action.attemptRecord id r.toRecord).runOn s = (.ok (some failure), s)) ∧
        (((¬ ∃ message, Message.format r.message.toText r.args = .ok message) ∨
            ¬ ∃ moment date, Moment.ofTimestamp r.created = .ok moment ∧
              l.dateFormatter.format moment = .ok date) →
          ∃ failure, (Action.attemptRecord id r.toRecord).runOn s = (.ok (some failure), s))) ∧
      ∀ m : LevelNumber, r.level.IsAtMost m →
        (severityOfLevel r.level).rank ≤ (severityOfLevel m).rank ∧
          (l.isLogging (severityOfLevel r.level) = true → l.isLogging (severityOfLevel m) = true) ∧
          ∀ h : RecordHandler, h.accepts r.level = true → h.accepts m = true := by
  have hrun := Action.runOn_attemptRecord_eq hs hl r.toRecord
  refine ⟨⟨_, _, hrun, ?_, ?_⟩, fun hsilent => ?_, fun hlog => ⟨?_, fun hnone => ?_⟩,
    fun m hle => ?_⟩
  · have hsettled := Action.settled_attemptRecord id r.toRecord s hs
    rwa [hrun] at hsettled
  · intro hfailure
    rcases Option.ne_none_iff_exists'.mp hfailure with ⟨failure, hfailure⟩
    exact recorded_of_failure hfailure
  · rw [hrun, recorded_of_silent s (r := r.toRecord) hsilent]
  · intro message moment date hmessage hmoment hdate
    have hline := PlainRecord.recordLine_of_moment hmessage hmoment l
    refine ⟨fun hformatter => PlainRecord.exists_lineOf hformatter hdate r message, ?_, ?_⟩
    · intro line hshown
      rw [hshown] at hline
      refine ⟨fun failure hrefusal => ?_, fun hrefusal => ?_⟩
      · rw [hrun, recorded_of_refused (r := r.toRecord) hlog hline hrefusal]
      · rw [recorded_of_line (r := r.toRecord) hlog hline hrefusal] at hrun
        exact ⟨hrun, content?_append s l.sink line⟩
    · intro failure hfailure
      rw [hfailure] at hline
      rw [hrun, recorded_of_error s (r := r.toRecord) hlog hline]
  · rcases PlainRecord.exists_failure_of_recordLine hnone with ⟨failure, hline⟩
    rw [recorded_of_error s (r := r.toRecord) hlog hline] at hrun
    exact ⟨failure, hrun⟩
  · exact ⟨rank_severityOfLevel_mono hle, passes_severityOfLevel_mono hle,
      fun h => h.accepts_mono hle⟩

/-- A record with arguments and an exception reaches a memory with both in its line, under
    the name of its source. -/
theorem record_written_or_not_exception :
    ∃ (s : Session) (l : Logger) (r : PlainRecord) (moment : Moment) (date : String),
      s = (start ⟨⟨2024, 1, 1, 0, 0, 0, 0⟩, some 0⟩ false).afterSteps
        [.operation .openMemory, .operation (.makeLogger (.text "info") (.memory ⟨0⟩)
          { format := .text "(%label) [(%type)] (%msg)", timeZone := .name "UTC" })] ∧
      s.Settled ∧ s.logger? ⟨0⟩ = some l ∧
      r = ⟨.int 45, .text "query %s failed", [.int 3], some "OSError: gone", "app.db",
        "/srv/db.py", 7, none, .int 0⟩ ∧
      l.isLogging (severityOfLevel r.level) = true ∧
      Message.format r.message.toText r.args = .ok "query 3 failed" ∧
      Moment.ofTimestamp r.created = .ok moment ∧ l.dateFormatter.format moment = .ok date ∧
      r.lineOf l "query 3 failed" moment = .ok "app.db [ERROR] query 3 failed\nOSError: gone" ∧
      ((Action.attemptRecord ⟨0⟩ r.toRecord).runOn s).2.content? (.memory ⟨0⟩) =
        some (.lines ["app.db [ERROR] query 3 failed\nOSError: gone"]) ∧
      r.level.IsAtMost (.int 50) ∧ l.isLogging (severityOfLevel (.int 50)) = true := by
  rcases show ∃ (s : Session) (l : Logger) (date : String),
      s = (start ⟨⟨2024, 1, 1, 0, 0, 0, 0⟩, some 0⟩ false).afterSteps
        [.operation .openMemory, .operation (.makeLogger (.text "info") (.memory ⟨0⟩)
          { format := .text "(%label) [(%type)] (%msg)", timeZone := .name "UTC" })] ∧
      s.logger? ⟨0⟩ = some l ∧ l.sink = .memory ⟨0⟩ ∧ l.threshold = .info ∧
      l.formatter = none ∧ l.template = some (Template.ofText "(%label) [(%type)] (%msg)") ∧
      l.colored = .bool false ∧
      l.dateFormatter.format ⟨⟨1970, 1, 1, 5, 45, 0, 0⟩, none⟩ = .ok date ∧
      s.content? (.memory ⟨0⟩) = some (.lines []) from
    ⟨_, _, _, rfl, rfl, rfl, rfl, rfl, rfl, rfl, rfl, rfl⟩ with
    ⟨s, l, date, hs, hl, hsink, hthreshold, hformatter, htemplate, hcolored, hdate, hcontent⟩
  have hsettled : s.Settled := settled_of_reached ⟨_, _, _, hs⟩
  have hlog : l.isLogging .error = true := by
    rw [Logger.isLogging, hthreshold]
    rfl
  have hmessage : Message.format "query %s failed" [.int 3] = .ok "query 3 failed" := rfl
  let r : PlainRecord := ⟨.int 45, .text "query %s failed", [.int 3], some "OSError: gone",
    "app.db", "/srv/db.py", 7, none, .int 0⟩
  have hline : r.lineOf l "query 3 failed" ⟨⟨1970, 1, 1, 5, 45, 0, 0⟩, none⟩ =
      .ok "app.db [ERROR] query 3 failed\nOSError: gone" := by
    rw [PlainRecord.lineOf_of_date hdate]
    change l.render ((Event.plain .error "query 3 failed\nOSError: gone" "" 7
      (l.fileText "/srv/db.py")).entry date none (Value.ofText? (some "app.db"))) = _
    simp only [Logger.render, Logger.mode, Logger.paint, hformatter, htemplate, hcolored,
      Value.truthy, Bool.false_eq_true, if_false, Entry.fill_ofText, Logger.valueOf_entry_plain]
    cbv
  have hhigher : (LevelNumber.int 45).IsAtMost (.int 50) := ⟨_, _, rfl, rfl, by decide⟩
  rcases record_written_or_not hsettled hl r with ⟨_, _, hpassing, hmonotone⟩
  rcases (hpassing hlog).1 _ _ date hmessage Moment.ofTimestamp_zero hdate with ⟨_, hwritten, _⟩
  rcases (hwritten _ hline).2 (by rw [hsink]; rfl) with ⟨hrun, hcontents⟩
  refine ⟨s, l, _, _, date, hs, hsettled, hl, rfl, hlog, hmessage, Moment.ofTimestamp_zero, hdate,
    hline, ?_, hhigher, (hmonotone (.int 50) hhigher).2.1 hlog⟩
  rw [hrun, hcontents, if_pos hsink.symm, hcontent]
  rfl

/-- A record with a message and a date is neither written where the stream has no space
    for its line nor where the formatter of the logger fails. The failure is given back in
    both cases. -/
theorem formatted_records_not_written :
    ∃ (s : Session) (l m : Logger) (r : PlainRecord) (moment : Moment) (date : String),
      s = (start ⟨⟨2024, 1, 1, 0, 0, 0, 0⟩, some 0⟩ false).afterSteps
        [.operation (.openStream false (Stream.faulty "fail").refusal),
          .operation (.makeLogger (.text "info") (.stream ⟨0⟩)
            { format := .text "(%msg)", timeZone := .name "UTC" }),
          .operation .openMemory,
          .operation (.makeLogger (.text "info") (.memory ⟨0⟩)
            { formatter := some (.function Rendering.failing), timeZone := .name "UTC" })] ∧
      s.logger? ⟨0⟩ = some l ∧ s.logger? ⟨1⟩ = some m ∧
      r = ⟨.int 40, .text "will fail", [], none, "app", "/srv/app.py", 1, some "main", .int 0⟩ ∧
      l.isLogging (severityOfLevel r.level) = true ∧ m.isLogging (severityOfLevel r.level) = true ∧
      Message.format r.message.toText r.args = .ok "will fail" ∧
      Moment.ofTimestamp r.created = .ok moment ∧ l.dateFormatter.format moment = .ok date ∧
      m.dateFormatter.format moment = .ok date ∧
      r.lineOf l "will fail" moment = .ok "will fail" ∧
      (Action.attemptRecord ⟨0⟩ r.toRecord).runOn s = (.ok (some (.stream "disk full")), s) ∧
      (Action.attemptRecord ⟨1⟩ r.toRecord).runOn s =
        (.ok (some (.formatter "formatter failed: will fail")), s) ∧
      s.content? (.stream ⟨0⟩) = some (.text "") ∧
      s.content? (.memory ⟨0⟩) = some (.lines []) := by
  rcases show ∃ (s : Session) (l m : Logger) (date : String),
      s = (start ⟨⟨2024, 1, 1, 0, 0, 0, 0⟩, some 0⟩ false).afterSteps
        [.operation (.openStream false (Stream.faulty "fail").refusal),
          .operation (.makeLogger (.text "info") (.stream ⟨0⟩)
            { format := .text "(%msg)", timeZone := .name "UTC" }),
          .operation .openMemory,
          .operation (.makeLogger (.text "info") (.memory ⟨0⟩)
            { formatter := some (.function Rendering.failing), timeZone := .name "UTC" })] ∧
      s.logger? ⟨0⟩ = some l ∧ s.logger? ⟨1⟩ = some m ∧
      l.sink = .stream ⟨0⟩ ∧ l.threshold = .info ∧ m.threshold = .info ∧
      l.formatter = none ∧ l.template = some (Template.ofText "(%msg)") ∧
      l.colored = .bool false ∧ m.formatter = some ⟨"CallableFormatter", Rendering.failing⟩ ∧
      l.dateFormatter.format ⟨⟨1970, 1, 1, 5, 45, 0, 0⟩, none⟩ = .ok date ∧
      m.dateFormatter = l.dateFormatter ∧
      s.stream? ⟨0⟩ = some (.opened false (Stream.faulty "fail").refusal) ∧
      s.content? (.memory ⟨0⟩) = some (.lines []) from
    ⟨_, _, _, _, rfl, rfl, rfl, rfl, rfl, rfl, rfl, rfl, rfl, rfl, rfl, rfl, rfl, rfl⟩ with
    ⟨s, l, m, date, hs, hl, hm, hsink, hlthreshold, hmthreshold, hformatter, htemplate, hcolored,
      hfailing, hdate, hsame, hstream, hmemory⟩
  have hsettled : s.Settled := settled_of_reached ⟨_, _, _, hs⟩
  have hllog : l.isLogging .error = true := by
    rw [Logger.isLogging, hlthreshold]
    rfl
  have hmlog : m.isLogging .error = true := by
    rw [Logger.isLogging, hmthreshold]
    rfl
  have hmdate : m.dateFormatter.format ⟨⟨1970, 1, 1, 5, 45, 0, 0⟩, none⟩ = .ok date := by
    rw [hsame, hdate]
  let r : PlainRecord :=
    ⟨.int 40, .text "will fail", [], none, "app", "/srv/app.py", 1, some "main", .int 0⟩
  have hlline : r.lineOf l "will fail" ⟨⟨1970, 1, 1, 5, 45, 0, 0⟩, none⟩ = .ok "will fail" := by
    rw [PlainRecord.lineOf_of_date hdate]
    simp only [Logger.render, Logger.mode, Logger.paint, hformatter, htemplate, hcolored,
      Value.truthy, Bool.false_eq_true, if_false, Entry.fill_ofText]
    exact congrArg Except.ok (Template.expand_placeholder _ .message)
  have hmline : r.lineOf m "will fail" ⟨⟨1970, 1, 1, 5, 45, 0, 0⟩, none⟩ =
      .error (.formatter "formatter failed: will fail") := by
    rw [PlainRecord.lineOf_of_date hmdate]
    simp only [Logger.render, Logger.mode, hfailing]
    rfl
  have hrefusal : s.refusal? l.sink "will fail" = some (.stream "disk full") := by
    rw [hsink, refusal?, hstream]
    rfl
  have hmessage : Message.format r.message.toText r.args = .ok "will fail" := rfl
  have hrecord := PlainRecord.recordLine_of_moment hmessage Moment.ofTimestamp_zero
  refine ⟨s, l, m, r, _, date, hs, hl, hm, rfl, hllog, hmlog, hmessage, Moment.ofTimestamp_zero,
    hdate, hmdate, hlline, ?_, ?_, ?_, hmemory⟩
  · rw [Action.runOn_attemptRecord_eq hsettled hl,
      recorded_of_refused (r := r.toRecord) hllog ((hrecord l).trans hlline) hrefusal]
  · rw [Action.runOn_attemptRecord_eq hsettled hm,
      recorded_of_error s (r := r.toRecord) hmlog ((hrecord m).trans hmline)]
  · rw [content?, hstream]
    rfl

end Session

end TextLog
