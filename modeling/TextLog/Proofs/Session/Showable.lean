import TextLog.Proofs.Session.Delivery
import TextLog.Proofs.Session.Refusal
import TextLog.Proofs.Time.Occasion

/-!
# Events That Can Be Shown

A logger without a formatter of its own makes a line of every event of texts, but
for its date.

The date of an event is rendered before anything else, also when the line does not
show it. Formats and patterns are texts and zones are resolved when they are
assigned, so nothing that is configured can be in the way; the one thing that can is
an occasion that cannot be shown in the zone of the logger, be it a moment that is
given with the event or the present one, which the clocks of the zone have to tell
first. Such occasions lie on the first and the last two days of the calendar. An event
that happens then is lost with a failure, even if its line would have been the message
alone.

## Main definitions

* `Event.IsPlain`: An event of texts and a number.

## Theorems

* `zone_of_reached`: The zone of a logger is the one that its setting means.
* `exists_formatEvent_iff_showsAt`: The events that a line can be made of.
* `runOn_logEvent_of_showsAt`, `runOn_logEvent_of_not_showsAt`: What becomes of an event
  that passes.
* `line_written_iff_shown`: Events that pass are written if they can be shown.
* `last_hours_not_written`: An event that is lost though its line has no date.
-/

namespace TextLog

open Time

/-- The parts of an event are texts and a number. -/
def Event.IsPlain (e : Event) : Prop :=
  ∃ severity message function line file, e = Event.plain severity message function line file

namespace Logger

/-- The dates of a logger are those of its pattern and of the zone that its setting
    means. -/
theorem zone_of_reached {l : Logger} (hl : l.Reached) :
    ∃ zone, l.timeZone.resolve = .ok zone ∧ l.dateFormatter = ⟨l.dateFormat, zone⟩ := by
  rcases exists_of_map_eq_ok (coherent_of_reached hl).dateFormatter with ⟨zone, hzone, hformatter⟩
  exact ⟨zone, hzone, hformatter.symm⟩

/-- A line can be made of an event of texts if and only if its occasion can be shown. -/
theorem exists_formatEvent_iff_showsAt {l : Logger} (hformatter : l.formatter = none)
    (hpattern : l.dateFormatter.pattern.IsOptionalText) {e : Event} (he : e.IsPlain)
    (occasion : Occasion) (metadata label : Option String) :
    (∃ text, l.formatEvent occasion e metadata (Value.ofText? label) = .ok text) ↔
      l.dateFormatter.zone.ShowsAt occasion := by
  constructor
  · intro htext
    -- The date is rendered first, so without one nothing else is looked at.
    by_contra hshown
    rcases DateFormatter.formatAt_of_not_showsAt hshown with ⟨failure, _, hdate⟩
    rcases htext with ⟨text, htext⟩
    rw [Session.formatEvent_of_date hdate] at htext
    exact absurd htext (by simp only [reduceCtorEq, not_false_eq_true])
  · intro hshown
    rcases he with ⟨severity, message, function, line, file, rfl⟩
    rcases DateFormatter.exists_formatAt_of_showsAt hpattern hshown with ⟨date, hdate⟩
    exact exists_formatEvent hformatter hdate severity message function line file metadata label

end Logger

namespace Session

/-- An event that passes is given to the sink if the present moment can be shown. -/
theorem runOn_logEvent_of_showsAt {s : Session} (hs : s.Settled) {id : LoggerId} {l : Logger}
    (hl : s.logger? id = some l) (hformatter : l.formatter = none)
    (hpattern : l.dateFormatter.pattern.IsOptionalText) {e : Event} (he : e.IsPlain)
    (hlog : l.isLogging e.severity = true)
    (hshown : l.dateFormatter.zone.ShowsAt (.present s.now)) (metadata : Metadata) :
    ∃ text, l.formatEvent (.present s.now) e metadata.pretty .null = .ok text ∧
      (Action.logEvent id e metadata).runOn s =
        match s.refusal? l.sink text with
        | some failure => (.error failure, s)
        | none => (.ok (), s.append l.sink text) := by
  have htext : ∃ text, l.formatEvent (.present s.now) e metadata.pretty .null = .ok text :=
    (Logger.exists_formatEvent_iff_showsAt hformatter hpattern he (.present s.now) metadata.pretty
      none).mpr hshown
  rcases htext with ⟨text, htext⟩
  refine ⟨text, htext, ?_⟩
  rw [Action.runOn_logEvent id l e metadata s hl, if_pos hlog, htext]
  exact runOn_writeLine hs l.sink text

/-- An event that passes fails like its date, and leaves everything as it was. -/
theorem runOn_logEvent_of_date {s : Session} {id : LoggerId} {l : Logger}
    (hl : s.logger? id = some l) {e : Event} (hlog : l.isLogging e.severity = true)
    {failure : Failure} (hdate : l.dateFormatter.formatAt (.present s.now) = .error failure)
    (metadata : Metadata) : (Action.logEvent id e metadata).runOn s = (.error failure, s) := by
  rw [Action.runOn_logEvent id l e metadata s hl, if_pos hlog, formatEvent_of_date hdate]

/-- An event that passes fails at an end of the calendar if the present moment cannot be
    shown. -/
theorem runOn_logEvent_of_not_showsAt {s : Session} {id : LoggerId} {l : Logger}
    (hl : s.logger? id = some l) {e : Event} (hlog : l.isLogging e.severity = true)
    (hshown : ¬ l.dateFormatter.zone.ShowsAt (.present s.now)) (metadata : Metadata) :
    ∃ failure, failure.IsOfDate ∧
      (Action.logEvent id e metadata).runOn s = (.error failure, s) := by
  rcases DateFormatter.formatAt_of_not_showsAt hshown with ⟨failure, hfailure, hdate⟩
  exact ⟨failure, hfailure, runOn_logEvent_of_date hl hlog hdate metadata⟩

/-- Events that pass are written if and only if they can be shown. Whatever the
    format, the pattern, the zone and the switches of a logger without a formatter are,
    every occasion two days or more inside the calendar can be shown in the zone; a line
    can be made of an event of texts exactly if its occasion can be, be it a moment that
    is given or the present one; and an event that passes the threshold is given to the
    sink if the present moment can be shown, and otherwise fails at an end of the calendar
    and leaves everything as it was. -/
theorem line_written_iff_shown (l : Logger) (hl : l.Reached) (hformatter : l.formatter = none)
    (hpattern : l.dateFormat.IsOptionalText) (e : Event) (he : e.IsPlain) :
    ∃ zone, l.timeZone.resolve = .ok zone ∧
      (∀ occasion : Occasion, occasion.moment.IsInside → zone.ShowsAt occasion) ∧
      (∀ (occasion : Occasion) (metadata label : Option String),
        (∃ text, l.formatEvent occasion e metadata (Value.ofText? label) = .ok text) ↔
          zone.ShowsAt occasion) ∧
      ∀ (s : Session) (id : LoggerId) (metadata : Metadata), s.Settled → s.logger? id = some l →
        l.isLogging e.severity = true →
        (zone.ShowsAt (.present s.now) →
          ∃ text, l.formatEvent (.present s.now) e metadata.pretty .null = .ok text ∧
            (Action.logEvent id e metadata).runOn s =
              match s.refusal? l.sink text with
              | some failure => (.error failure, s)
              | none => (.ok (), s.append l.sink text)) ∧
        (¬ zone.ShowsAt (.present s.now) → ∃ failure, failure.IsOfDate ∧
          (Action.logEvent id e metadata).runOn s = (.error failure, s)) := by
  rcases Logger.zone_of_reached hl with ⟨zone, hzone, hdates⟩
  have hzone' : l.dateFormatter.zone = zone := by rw [hdates]
  have hpattern' : l.dateFormatter.pattern.IsOptionalText := by
    rw [hdates]
    exact hpattern
  refine ⟨zone, hzone, fun occasion => showsAt_of_isInside (natAbs_offsetAt_of_resolve hzone),
    ?_, ?_⟩
  · intro occasion metadata label
    rw [Logger.exists_formatEvent_iff_showsAt hformatter hpattern' he, hzone']
  · intro s id metadata hs hid hlog
    rw [← hzone']
    exact ⟨fun h => runOn_logEvent_of_showsAt hs hid hformatter hpattern' he hlog h metadata,
      fun h => runOn_logEvent_of_not_showsAt hid hlog h metadata⟩

/-- In Tokyo the last second of the year 9999 is shown, and an event that happens then
    is written. -/
theorem line_written_iff_shown_last_second :
    ∃ (s : Session) (l : Logger),
      s = (start ⟨⟨9999, 12, 31, 14, 59, 59, 0⟩, some 0⟩ false).after
        [.openMemory, .makeLogger (.text "info") (.memory ⟨0⟩)
          { format := .text "(%msg)", timeZone := .name "Asia/Tokyo" }] ∧
      s.logger? ⟨0⟩ = some l ∧ l.Reached ∧ l.formatter = none ∧ l.dateFormat.IsOptionalText ∧
      ∃ zone, l.timeZone.resolve = .ok zone ∧ zone.ShowsAt (.present s.now) ∧
        ∃ text, l.formatEvent (.present s.now) (Event.plain .error "late" "main" 1 "/srv/app.py")
            none .null = .ok text ∧
          (Action.logEvent ⟨0⟩ (Event.plain .error "late" "main" 1 "/srv/app.py") []).runOn s =
            (.ok (), s.append (.memory ⟨0⟩) text) := by
  rcases show ∃ (s : Session) (l : Logger),
      s = (start ⟨⟨9999, 12, 31, 14, 59, 59, 0⟩, some 0⟩ false).after
        [.openMemory, .makeLogger (.text "info") (.memory ⟨0⟩)
          { format := .text "(%msg)", timeZone := .name "Asia/Tokyo" }] ∧
      s.now = ⟨⟨9999, 12, 31, 14, 59, 59, 0⟩, some 0⟩ ∧
      s.logger? ⟨0⟩ = some l ∧ l.Reached ∧ l.formatter = none ∧ l.dateFormat = .null ∧
      l.timeZone = .name "Asia/Tokyo" ∧ l.threshold = .info ∧ l.sink = .memory ⟨0⟩ from
    ⟨_, _, rfl, rfl, rfl, ⟨.text "info", .memory ⟨0⟩,
      { format := .text "(%msg)", timeZone := .name "Asia/Tokyo" }, _, [], rfl, rfl⟩,
      rfl, rfl, rfl, rfl, rfl⟩ with
    ⟨s, l, hs, hnow, hid, hl, hformatter, hpattern, hzone, hthreshold, hsink⟩
  have htext : l.dateFormat.IsOptionalText := by
    rw [hpattern]
    trivial
  have hsettled : s.Settled := by
    rw [hs]
    exact settled_after _ _ _
  have hlog : l.isLogging .error = true := by
    rw [Logger.isLogging, hthreshold]
    rfl
  rcases line_written_iff_shown l hl hformatter htext
    (Event.plain .error "late" "main" 1 "/srv/app.py") ⟨_, _, _, _, _, rfl⟩ with
    ⟨zone, hresolve, _, _, hwritten⟩
  have hshows : zone.ShowsAt (.present s.now) := by
    have htokyo : ZoneSetting.resolve (.name "Asia/Tokyo") =
        .ok (.named (constantZone "Asia/Tokyo" "JST" 32400)) := rfl
    rw [hzone, htokyo, Except.ok.injEq] at hresolve
    rw [← hresolve, hnow]
    exact ⟨⟨fun h => absurd h (Option.some_ne_none _), by decide, by decide⟩,
      fun h => absurd h (by simp only [reduceCtorEq, not_false_eq_true])⟩
  rcases (hwritten s ⟨0⟩ [] hsettled hid hlog).1 hshows with ⟨text, hline, hrun⟩
  refine ⟨s, l, hs, hid, hl, hformatter, htext, zone, hresolve, hshows, text, hline, ?_⟩
  rw [hrun, hsink]
  rfl

/-- Five hours later the clocks of Tokyo would show the year 10000. An event that
    happens then fails and is written nowhere, though its line is the message alone. -/
theorem last_hours_not_written :
    ∃ (s : Session) (l : Logger),
      s = (start ⟨⟨9999, 12, 31, 20, 0, 0, 0⟩, some 0⟩ false).after
        [.openMemory, .makeLogger (.text "info") (.memory ⟨0⟩)
          { format := .text "(%msg)", timeZone := .name "Asia/Tokyo" }] ∧
      s.logger? ⟨0⟩ = some l ∧ l.Reached ∧ l.formatter = none ∧ l.isLogging .error = true ∧
      l.template = some (Template.ofText "(%msg)") ∧
      (Template.ofText "(%msg)").uses .date = false ∧
      l.formatEvent (.present s.now) (Event.plain .error "late" "main" 1 "/srv/app.py") none
        .null = .error .dateRange ∧
      (Action.logEvent ⟨0⟩ (Event.plain .error "late" "main" 1 "/srv/app.py") []).runOn s =
        (.error .dateRange, s) := by
  rcases show ∃ (s : Session) (l : Logger),
      s = (start ⟨⟨9999, 12, 31, 20, 0, 0, 0⟩, some 0⟩ false).after
        [.openMemory, .makeLogger (.text "info") (.memory ⟨0⟩)
          { format := .text "(%msg)", timeZone := .name "Asia/Tokyo" }] ∧
      s.now = ⟨⟨9999, 12, 31, 20, 0, 0, 0⟩, some 0⟩ ∧
      s.logger? ⟨0⟩ = some l ∧ l.Reached ∧ l.formatter = none ∧
      l.dateFormatter = ⟨.null, .named (constantZone "Asia/Tokyo" "JST" 32400)⟩ ∧
      l.template = some (Template.ofText "(%msg)") ∧ l.threshold = .info from
    ⟨_, _, rfl, rfl, rfl, ⟨.text "info", .memory ⟨0⟩,
      { format := .text "(%msg)", timeZone := .name "Asia/Tokyo" }, _, [], rfl, rfl⟩,
      rfl, rfl, rfl, rfl⟩ with
    ⟨s, l, hs, hnow, hid, hl, hformatter, hdates, htemplate, hthreshold⟩
  have hlog : l.isLogging .error = true := by
    rw [Logger.isLogging, hthreshold]
    rfl
  have hdate : l.dateFormatter.formatAt (.present s.now) = .error .dateRange := by
    rw [hdates, hnow]
    rfl
  refine ⟨s, l, hs, hid, hl, hformatter, hlog, htemplate, ?_, ?_, ?_⟩
  · decide +kernel
  · exact formatEvent_of_date hdate _ none .null
  · exact runOn_logEvent_of_date hid hlog hdate []

end Session

end TextLog
