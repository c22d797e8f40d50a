import TextLog.Proofs.Handler.Freshness
import TextLog.Proofs.Logger.Rendering
import TextLog.Proofs.Session.Refusal
import TextLog.Proofs.Template.Flow
import TextLog.Proofs.Template.RoundTrip

/-!
# Layouts as Formats

A logger without a format renders as if it had one.

The fixed layouts are put together text by text and know nothing of templates, but
each says the same as a template: `Template.ofLayout` has its segments and
`layoutFormat` its text. The text is compiled to these segments because no literal
among them contains a placeholder. What a template cannot say is that the metadata
are left out when there are none, so there are two for each layout, and the one with
the metadata is the right one exactly if there is something to show
(`fill_ofLayout_eq_layout_iff`). An event that is logged has something to show
exactly if it has a pair, since a pair shows its equals sign even if both of its
sides are empty (`getD_pretty_ne_empty_iff`).

## Main definitions

* `layoutFormat`: The format of a layout, with or without metadata.
* `Template.ofLayout`: The template of a layout.

## Theorems

* `not_hasPlaceholder_of_not_mem`: Text without an opening bracket has no placeholder.
* `ofText_layoutFormat`: The format of a layout is compiled to its template.
* `layout_eq_fill`: A layout is its template filled in, with the metadata behind it.
* `fill_ofLayout_eq_layout_iff`: When metadata are to be shown.
* `runOn_writeLine_loggers`: Loggers do not matter for a line that is written.
* `layout_eq_format`: A logger with a layout is one with the format of the layout.
-/

namespace TextLog

open Time

/-- The format of a fixed layout, the detailed or the short one, with metadata behind
    it or without. -/
def layoutFormat (detailed withMetadata : Bool) : String :=
  (if detailed then "(%date) [(%type)] [(%file):(%line) (%func)] (%msg)"
    else "(%date) [(%type)] (%msg)") ++
  (if withMetadata then " (%metadata)" else "")

namespace Template

/-- The template of a fixed layout without metadata. -/
def ofPlainLayout (detailed : Bool) : Template :=
  if detailed then
    ⟨[.token .date, .literal " [", .token .type, .literal "] [", .token .file, .literal ":",
      .token .line, .literal " ", .token .function, .literal "] ", .token .message]⟩
  else ⟨[.token .date, .literal " [", .token .type, .literal "] ", .token .message]⟩

/-- The template of a fixed layout, with metadata behind it or without. -/
def ofLayout (detailed withMetadata : Bool) : Template :=
  ⟨(ofPlainLayout detailed).segments ++
    if withMetadata then [.literal " ", .token .metadata] else []⟩

theorem text_ofLayout (detailed withMetadata : Bool) :
    (ofLayout detailed withMetadata).text = layoutFormat detailed withMetadata := by
  cases detailed <;> cases withMetadata <;> rfl

/-- Every placeholder has an opening bracket. -/
theorem not_hasPlaceholder_of_not_mem {s : String} (h : '(' ∉ s.toList) :
    ¬Text.HasPlaceholder s := by
  rintro ⟨f, i, before, after, rfl, _⟩
  refine h ?_
  rw [String.toList_append, String.toList_append, f.toList_placeholder]
  exact List.mem_append_left _ (List.mem_append_right _ List.mem_cons_self)

/-- The segment is a field, or text without an opening bracket. -/
def isUnbracketed : Segment → Bool
  | .literal s => decide ('(' ∉ s.toList)
  | .token _ => true

theorem isCanonical_ofLayout (detailed withMetadata : Bool) :
    (ofLayout detailed withMetadata).IsCanonical := by
  constructor
  · have hnormal : normalize (ofLayout detailed withMetadata).segments =
        (ofLayout detailed withMetadata).segments := by
      cases detailed <;> cases withMetadata <;> rfl
    exact hnormal ▸ isNormal_normalize _
  · have hall : (ofLayout detailed withMetadata).segments.all isUnbracketed := by
      cases detailed <;> cases withMetadata <;> decide
    intro s hs
    exact not_hasPlaceholder_of_not_mem (of_decide_eq_true (List.all_eq_true.mp hall _ hs))

/-- The format of a layout is compiled to its template. -/
theorem ofText_layoutFormat (detailed withMetadata : Bool) :
    ofText (layoutFormat detailed withMetadata) = ofLayout detailed withMetadata := by
  rw [← text_ofLayout]
  exact (ofText_text_eq_iff _).mpr (isCanonical_ofLayout detailed withMetadata)

end Template

namespace Entry

/-- Templates one behind the other are filled in one behind the other. -/
theorem fill_append (e : Entry) (xs ys : List Segment) :
    e.fill ⟨xs ++ ys⟩ = e.fill ⟨xs⟩ ++ e.fill ⟨ys⟩ := by
  rw [← String.toList_inj, String.toList_append, toList_fill_segments, toList_fill_segments,
    toList_fill_segments, List.flatMap_append]

/-- A layout is its template filled in, with the metadata behind it. -/
theorem layout_eq_fill (e : Entry) (detailed : Bool) :
    e.layout detailed = e.fill (Template.ofPlainLayout detailed) ++ e.metadataSuffix := by
  -- The texts are the same but for where they are cut.
  cases detailed with
  | false =>
      simp only [layout, fill, Template.ofPlainLayout, Bool.false_eq_true, if_false, List.map_cons,
        List.map_nil, String.join_cons, String.join_nil, segmentText, valueOf, String.append_assoc,
        String.append_empty]
  | true =>
      simp only [layout, fill, Template.ofPlainLayout, if_true, List.map_cons, List.map_nil,
        String.join_cons, String.join_nil, segmentText, valueOf, String.append_assoc,
        String.append_empty]
      rw [show "] [" = "] " ++ "[" from rfl, String.append_assoc]

theorem fill_ofLayout (e : Entry) (detailed withMetadata : Bool) :
    e.fill (Template.ofLayout detailed withMetadata) =
      e.fill (Template.ofPlainLayout detailed) ++
        if withMetadata then " " ++ e.valueOf .metadata else "" := by
  rw [Template.ofLayout, fill_append]
  congr 1
  cases withMetadata with
  | false => rfl
  | true => simp only [fill, if_true, List.map_cons, List.map_nil, String.join_cons,
      String.join_nil, segmentText, String.append_empty]

theorem metadataSuffix_eq (e : Entry) :
    e.metadataSuffix = if e.valueOf .metadata = "" then "" else " " ++ e.valueOf .metadata := by
  rw [metadataSuffix, valueOf]
  cases e.metadata <;> rfl

/-- A layout is the template that shows the metadata if there is something to show, and
    else the one that does not. The other one would not do. -/
theorem fill_ofLayout_eq_layout_iff (e : Entry) (detailed withMetadata : Bool) :
    e.fill (Template.ofLayout detailed withMetadata) = e.layout detailed ↔
      (withMetadata = true ↔ e.valueOf .metadata ≠ "") := by
  rw [fill_ofLayout, layout_eq_fill, metadataSuffix_eq, String.append_right_inj]
  by_cases hempty : e.valueOf .metadata = ""
  · rw [if_pos hempty, hempty]
    cases withMetadata <;> decide
  · rw [if_neg hempty]
    cases withMetadata with
    | true => exact iff_of_true rfl (iff_of_true rfl hempty)
    | false =>
        have hspace : "" ≠ " " ++ e.valueOf .metadata :=
          fun h => absurd (String.append_eq_empty_iff.mp h.symm).1 (by decide)
        exact iff_of_false hspace fun h => absurd (h.mpr hempty) Bool.false_ne_true

end Entry

namespace Metadata

/-- A pair shows its equals sign at least. -/
theorem pairText_ne_empty (p : String × Value) : pairText p ≠ "" := by
  intro h
  rw [pairText, String.append_eq_empty_iff, String.append_eq_empty_iff] at h
  exact absurd h.1.2 (by decide)

/-- Metadata show something as soon as there is one pair. -/
theorem getD_pretty_ne_empty_iff (m : Metadata) : (pretty m).getD "" ≠ "" ↔ m ≠ [] := by
  cases m with
  | nil => exact iff_of_false (fun h => h rfl) (fun h => h rfl)
  | cons p rest =>
      refine iff_of_true (fun h => ?_) (List.cons_ne_nil p rest)
      rw [pretty, List.isEmpty_cons, if_neg Bool.false_ne_true, Option.getD_some,
        List.map_cons] at h
      cases rest with
      | nil =>
          rw [List.map_nil, String.intercalate_singleton] at h
          exact pairText_ne_empty p h
      | cons q rest =>
          rw [List.map_cons, String.intercalate_cons_cons, String.append_eq_empty_iff,
            String.append_eq_empty_iff] at h
          exact pairText_ne_empty p h.1.1

end Metadata

namespace Logger

/-- The logger with another format. -/
def withFormat (l : Logger) (s : String) : Logger :=
  { l with format := .text s, template := some (Template.ofText s) }

theorem edit_format_text (l : Logger) (s : String) :
    l.edit (.format (.text s)) = .ok (l.withFormat s) := rfl

theorem paint_inj (l : Logger) (severity : Severity) (a b : String) :
    l.paint severity a = l.paint severity b ↔ a = b := by
  rw [paint, paint]
  by_cases hcolored : l.colored.truthy = true
  · rw [if_pos hcolored, if_pos hcolored, colorize, colorize, String.append_left_inj,
      String.append_right_inj]
  · rw [if_neg hcolored, if_neg hcolored]

/-- A logger that was never given a format, or was given none again, has no template. -/
theorem mode_of_null {l : Logger} (hl : l.Reached) (hformat : l.format = .null)
    (hformatter : l.formatter = none) : l.mode = .layout := by
  have htemplate : l.template = none := by
    refine (coherent_of_reached hl).template none ?_
    rw [hformat]
    rfl
  rw [mode, hformatter, htemplate]

/-- A logger with a layout renders an event like the same logger with the format of the
    layout, if the format shows the metadata exactly when there is something to
    show. -/
theorem formatEvent_withFormat_iff {l : Logger} (hl : l.Reached) (hformat : l.format = .null)
    (hformatter : l.formatter = none) (withMetadata : Bool) (occasion : Occasion)
    (severity : Severity) (message function : String) (line : Int) (file : String)
    (metadata label : Option String) :
    (l.withFormat (layoutFormat l.details.truthy withMetadata)).formatEvent occasion
        (Event.plain severity message function line file) metadata (Value.ofText? label) =
      l.formatEvent occasion (Event.plain severity message function line file) metadata
        (Value.ofText? label) ↔
      (withMetadata = true ↔ metadata.getD "" ≠ "") ∨
        ∃ failure, l.dateFormatter.formatAt occasion = .error failure := by
  let formatted := l.withFormat (layoutFormat l.details.truthy withMetadata)
  have hmode : formatted.mode = .template (Template.ofLayout l.details.truthy withMetadata) := by
    rw [← Template.ofText_layoutFormat, mode, show formatted.formatter = none from hformatter]
    rfl
  cases hdate : l.dateFormatter.formatAt occasion with
  | error failure =>
      have hsame : formatted.dateFormatter.formatAt occasion = .error failure := hdate
      rw [Session.formatEvent_of_date hdate, Session.formatEvent_of_date hsame]
      exact iff_of_true rfl (Or.inr ⟨failure, rfl⟩)
  | ok date =>
      have hsame : formatted.dateFormatter.formatAt occasion = .ok date := hdate
      rw [formatEvent_plain hdate, formatEvent_plain hsame, render, render,
        mode_of_null hl hformat hformatter, hmode]
      simp only [Except.ok.injEq, reduceCtorEq, exists_false, or_false]
      exact (l.paint_inj severity _ _).trans (Entry.fill_ofLayout_eq_layout_iff _ _ _)

end Logger

namespace Action

/-- Which loggers there are does not matter for a line on its way to a sink. -/
theorem runOn_writeLine_loggers (sink : Sink) (line : String) (s : Session)
    (loggers : Array Logger) :
    (writeLine sink line).runOn { s with loggers := loggers } =
      (((writeLine sink line).runOn s).1,
        { ((writeLine sink line).runOn s).2 with loggers := loggers }) := by
  cases sink with
  | stdout => rfl
  | memory id => rfl
  | stream id =>
      have hstream : { s with loggers := loggers }.stream? id = s.stream? id := rfl
      rw [runOn_writeLine_stream, runOn_writeLine_stream, hstream]
      cases s.stream? id with
      | none => rfl
      | some stream =>
          simp only []
          cases stream.writeLine line <;> rfl

/-- Two loggers with the same threshold and sink that make the same of an event do the
    same with it. -/
theorem runOn_logEvent_congr {id : LoggerId} {l m : Logger} {s : Session}
    (hl : s.logger? id = some l) {loggers : Array Logger}
    (hm : { s with loggers := loggers }.logger? id = some m) {e : Event} {metadata : Metadata}
    (hthreshold : m.threshold = l.threshold) (hsink : m.sink = l.sink)
    (hline : m.formatEvent (.present s.now) e metadata.pretty .null =
      l.formatEvent (.present s.now) e metadata.pretty .null) :
    (logEvent id e metadata).runOn { s with loggers := loggers } =
      (((logEvent id e metadata).runOn s).1,
        { ((logEvent id e metadata).runOn s).2 with loggers := loggers }) := by
  have hlogging : m.isLogging e.severity = l.isLogging e.severity := by
    rw [Logger.isLogging, Logger.isLogging, hthreshold]
  rw [runOn_logEvent id l e metadata s hl, runOn_logEvent id m e metadata _ hm, hlogging, hsink,
    hline]
  by_cases hlog : l.isLogging e.severity = true
  · rw [if_pos hlog, if_pos hlog]
    cases l.formatEvent (.present s.now) e metadata.pretty .null with
    | error failure => rfl
    | ok line => exact runOn_writeLine_loggers l.sink line s loggers
  · rw [if_neg hlog, if_neg hlog]

end Action

namespace Session

/-- A logger that has neither a format nor a formatter of its own makes the same line of
    an event, or fails alike, as the same logger with the format of its layout. The format
    has to show the metadata exactly when there is something to show, unless there is no
    line in either case; and of the pairs of an event that is logged there is something to
    show exactly when there is one. Logging then does the same with either logger. -/
theorem layout_eq_format (l : Logger) (hl : l.Reached) (hformat : l.format = .null)
    (hformatter : l.formatter = none) :
    (∀ (withMetadata : Bool) (occasion : Occasion) (severity : Severity) (message function : String)
      (line : Int) (file : String) (metadata label : Option String),
      ∃ formatted,
        l.edit (.format (.text (layoutFormat l.details.truthy withMetadata))) = .ok formatted ∧
        (formatted.formatEvent occasion (Event.plain severity message function line file) metadata
            (Value.ofText? label) =
          l.formatEvent occasion (Event.plain severity message function line file) metadata
            (Value.ofText? label) ↔
          (withMetadata = true ↔ metadata.getD "" ≠ "") ∨
            ∃ failure, l.dateFormatter.formatAt occasion = .error failure)) ∧
      (∀ pairs : Metadata, (Metadata.pretty pairs).getD "" ≠ "" ↔ pairs ≠ []) ∧
      ∀ (s : Session) (id : LoggerId) (severity : Severity) (message function : String)
        (line : Int) (file : String) (pairs : Metadata), s.logger? id = some l →
        ∃ assigned,
          (Action.editLogger id
              (.format (.text (layoutFormat l.details.truthy (!pairs.isEmpty))))).runOn s =
            (.ok (), assigned) ∧
          (Action.logEvent id (Event.plain severity message function line file) pairs).runOn
              assigned =
            (((Action.logEvent id (Event.plain severity message function line file) pairs).runOn
                s).1,
              { ((Action.logEvent id (Event.plain severity message function line file) pairs).runOn
                  s).2 with loggers := assigned.loggers }) := by
  refine ⟨?_, Metadata.getD_pretty_ne_empty_iff, ?_⟩
  · intro withMetadata occasion severity message function line file metadata label
    exact ⟨_, l.edit_format_text _, Logger.formatEvent_withFormat_iff hl hformat hformatter
      withMetadata occasion severity message function line file metadata label⟩
  · intro s id severity message function line file pairs hid
    let formatted := l.withFormat (layoutFormat l.details.truthy (!pairs.isEmpty))
    refine ⟨{ s with loggers := s.loggers.setIfInBounds id.index formatted },
      runOn_editLogger s id _ l hid, ?_⟩
    have hassigned := s.logger?_setIfInBounds id l formatted hid
    refine Action.runOn_logEvent_congr hid hassigned rfl rfl ?_
    refine (Logger.formatEvent_withFormat_iff hl hformat hformatter (!pairs.isEmpty)
      (.present s.now) severity message function line file (Metadata.pretty pairs) none).mpr
        (Or.inl ?_)
    rw [Metadata.getD_pretty_ne_empty_iff, Bool.not_eq_true', List.isEmpty_eq_false_iff]

/-- A colored logger that had a format before shows metadata that spell a placeholder
    like the format of its layout with metadata, and not like the one without. -/
theorem layout_eq_format_colored :
    ∃ l : Logger, l.Reached ∧ l.format = .null ∧ l.formatter = none ∧ l.colored = .bool true ∧
      (∃ formatted,
        l.edit (.format (.text
          "(%date) [(%type)] [(%file):(%line) (%func)] (%msg) (%metadata)")) = .ok formatted ∧
        formatted.formatEvent (.given ⟨⟨2026, 10, 19, 8, 30, 0, 0⟩, some 0⟩)
            (Event.plain .warning "(%func)" "main" 7 "/srv/app.py") (some "k=(%msg)") .null =
          l.formatEvent (.given ⟨⟨2026, 10, 19, 8, 30, 0, 0⟩, some 0⟩)
            (Event.plain .warning "(%func)" "main" 7 "/srv/app.py") (some "k=(%msg)") .null) ∧
      ∃ formatted,
        l.edit (.format (.text "(%date) [(%type)] [(%file):(%line) (%func)] (%msg)")) =
          .ok formatted ∧
        formatted.formatEvent (.given ⟨⟨2026, 10, 19, 8, 30, 0, 0⟩, some 0⟩)
            (Event.plain .warning "(%func)" "main" 7 "/srv/app.py") (some "k=(%msg)") .null ≠
          l.formatEvent (.given ⟨⟨2026, 10, 19, 8, 30, 0, 0⟩, some 0⟩)
            (Event.plain .warning "(%func)" "main" 7 "/srv/app.py") (some "k=(%msg)") .null := by
  rcases show ∃ l : Logger, l.Reached ∧ l.format = .null ∧ l.formatter = none ∧
      l.colored = .bool true ∧ l.details = .bool true ∧
      l.dateFormatter.formatAt (.given ⟨⟨2026, 10, 19, 8, 30, 0, 0⟩, some 0⟩) = .ok "2026" from
    ⟨_, ⟨.text "info", .stdout, { colored := .bool true, timeZone := .name "UTC" }, _,
      [.format (.text "(%msg)"), .dateFormat (.text "%Y"), .format .null], rfl, rfl⟩,
      rfl, rfl, rfl, rfl, rfl⟩ with
    ⟨l, hl, hformat, hformatter, hcolored, hdetails, hdate⟩
  have hdetailed : l.details.truthy = true := by
    rw [hdetails]
    rfl
  rcases layout_eq_format l hl hformat hformatter with ⟨hline, _, _⟩
  rw [hdetailed] at hline
  have hat := fun shown => hline shown (.given ⟨⟨2026, 10, 19, 8, 30, 0, 0⟩, some 0⟩) .warning
    "(%func)" "main" 7 "/srv/app.py" (some "k=(%msg)") none
  rcases hat true with ⟨full, hfull, hsame⟩
  rcases hat false with ⟨bare, hbare, hother⟩
  refine ⟨l, hl, hformat, hformatter, hcolored, ⟨full, hfull, hsame.mpr (Or.inl ?_)⟩,
    bare, hbare, fun heq => ?_⟩
  · decide
  · rcases hother.mp heq with hshown | ⟨failure, hfailure⟩
    · exact absurd hshown (by decide)
    · rw [hdate] at hfailure
      exact absurd hfailure (by simp only [reduceCtorEq, not_false_eq_true])

end Session

end TextLog
