import TextLog.Proofs.Logger.Configuration
import TextLog.Proofs.Template.Scan

/-!
# Lines of Templates

What a logger with a format makes of an event.

`Template.expand` puts values in place of the placeholders of a text in one pass
over the text itself. Filling in the compiled template gives the same
(`fill_ofText`): both are what the atoms of the text show, and the values are
never looked at. A logger that was configured in whatever way renders the
template of its format, so its lines are the format expanded with the values of
the event.

## Main definitions

* `Template.expand`: A text with values in place of its placeholders.
* `Event.shownValues`: The values of an event, as a template shows them.
* `IsLastPart`: What is left of a path behind its last slash.

## Theorems

* `fill_ofText`: Filling in a compiled template expands its text.
* `expand_placeholder`: A placeholder expands to the value of its field.
* `isLastPart_baseName`: `baseName` is the last part.
* `accepts_of_texts`: Events of texts suit every template.
* `formatEvent_plain`: Events of texts are rendered as their entries.
* `exists_formatEvent`: Events of texts are rendered if their dates are.
* `formatEvent_eq_expand`: The line of an event is the format expanded.
-/

namespace TextLog

open Time

/-- What an atom shows, given the values of the fields. -/
def Atom.shown (value : Field → String) : Atom → List Char
  | .char c => [c]
  | .field f => (value f).toList

/-- A text read once from left to right, with the value of a field in place of
    each placeholder and every other character copied. Values are not read. -/
def Template.expand (value : Field → String) (s : String) : String :=
  String.ofList ((Template.scan s.toList).flatMap (Atom.shown value))

/-- A placeholder and nothing else expands to the value of its field. -/
theorem Template.expand_placeholder (value : Field → String) (f : Field) :
    Template.expand value f.placeholder = value f := by
  have hscan : Template.scan f.placeholder.toList = [.field f] := by
    rw [← List.append_nil f.placeholder.toList, Template.scan_placeholder, Template.scan_nil]
  rw [Template.expand, hscan, List.flatMap_singleton, Atom.shown, String.ofList_toList]

/-- The part of a path behind its last slash, which is the whole path if it has
    none. -/
def IsLastPart (path name : String) : Prop :=
  '/' ∉ name.toList ∧ (path = name ∨ ∃ folder, path = folder ++ "/" ++ name)

/-- The values of an event with its date, as a template shows them. What is
    absent shows nothing. -/
def Event.shownValues (severity : Severity) (message function : String) (line : Int)
    (file date : String) (label metadata : Option String) : Field → String
  | .message => message
  | .function => function
  | .line => Decimal.intText line
  | .file => file
  | .type => severity.description
  | .date => date
  | .label => label.getD ""
  | .metadata => metadata.getD ""

namespace Entry

/-- Filling in a template shows its atoms. -/
theorem toList_fill (e : Entry) (t : Template) :
    (e.fill t).toList = (Template.atoms t.segments).flatMap (Atom.shown e.valueOf) := by
  rw [fill, String.toList_join, List.flatMap_map, Template.atoms, List.flatMap_assoc]
  refine List.flatMap_congr fun x _ => ?_
  cases x with
  | literal s =>
      rw [segmentText, Segment.atoms, List.flatMap_map]
      exact (List.flatMap_singleton' s.toList).symm
  | token f => exact (List.append_nil _).symm

/-- Filling in a compiled template expands its text. -/
theorem fill_ofText (e : Entry) (s : String) :
    e.fill (Template.ofText s) = Template.expand e.valueOf s := by
  rw [← String.toList_inj, toList_fill, Template.atoms_ofText, Template.expand,
    String.toList_ofList]

end Entry

theorem isLastPart_baseName (path : String) : IsLastPart path (baseName path) := by
  -- The path is read from its end, so its reverse is what is cut in two.
  have hsplit := List.takeWhile_append_dropWhile (p := (· != '/')) (l := path.toList.reverse)
  have hpath : path.toList = (path.toList.reverse.dropWhile (· != '/')).reverse ++
      (baseName path).toList := by
    rw [baseName, String.toList_ofList, ← List.reverse_append, hsplit, List.reverse_reverse]
  refine ⟨fun hmem => ?_, ?_⟩
  · rw [baseName, String.toList_ofList, List.mem_reverse] at hmem
    exact absurd (List.mem_takeWhile_imp hmem) (by decide)
  -- What is left is nothing, or it starts with the slash that ended the name.
  · cases hdrop : path.toList.reverse.dropWhile (· != '/') with
    | nil =>
        rw [hdrop, List.reverse_nil, List.nil_append] at hpath
        exact Or.inl (String.toList_inj.mp hpath)
    | cons c rest =>
        have hc : c = '/' := by
          have hhead := List.head?_dropWhile_not (· != '/') path.toList.reverse
          rw [hdrop] at hhead
          exact of_not_not fun hne => absurd hhead (by simp [hne])
        refine Or.inr ⟨String.ofList rest.reverse, ?_⟩
        rw [hdrop, List.reverse_cons, hc] at hpath
        rw [← String.toList_inj, hpath, String.toList_append, String.toList_append,
          String.toList_ofList]
        rfl

/-- An event whose given parts are texts suits every template. -/
theorem accepts_of_texts (m : RenderMode) (e : Event) (label : Value)
    (h : ∀ f v, e.given? label f = some v → foreignKind? v = none) :
    m.accepts e label = .ok () := by
  cases m with
  | template t =>
      have hnone : (t.segments.zipIdx.findSome? fun p =>
          ((p.1.field?.bind (e.given? label)).bind foreignKind?).map fun kind => (p.2, kind))
            = none := by
        refine List.findSome?_eq_none_iff.mpr fun p _ => ?_
        rw [Option.map_eq_none_iff, Option.bind_eq_none_iff]
        intro v hv
        rcases Option.bind_eq_some_iff.mp hv with ⟨f, _, hf⟩
        exact h f v hf
      simp only [RenderMode.accepts, hnone]
  | _ => rfl

namespace Logger

/-- An event of texts is accepted with an optional text as its label. -/
theorem accepts_plain (m : RenderMode) (severity : Severity) (message function : String)
    (line : Int) (file : String) (label : Option String) :
    m.accepts (Event.plain severity message function line file) (Value.ofText? label) = .ok () := by
  refine accepts_of_texts m _ _ fun f v hv => ?_
  cases f with
  | label =>
      cases label with
      | none => exact absurd hv (by simp [Event.given?, Value.ofText?, Value.truthy])
      | some s =>
          rcases Option.ite_none_right_eq_some.mp hv with ⟨_, hv⟩
          rw [← Option.some.inj hv]
          rfl
  | message | function | file =>
      rw [← Option.some.inj hv]
      rfl
  | _ => exact absurd hv (by simp only [Event.given?, reduceCtorEq, not_false_eq_true])

/-- An event of texts is rendered as its entry, once its date is. -/
theorem formatEvent_plain {l : Logger} {occasion : Occasion} {date : String}
    (hdate : l.dateFormatter.formatAt occasion = .ok date) (severity : Severity)
    (message function : String) (line : Int) (file : String) (metadata label : Option String) :
    l.formatEvent occasion (Event.plain severity message function line file) metadata
        (Value.ofText? label) =
      l.render ((Event.plain severity message function line (l.fileText file)).entry date metadata
        (Value.ofText? label)) := by
  have haccepts := accepts_plain l.mode severity message function line (l.fileText file) label
  rw [formatEvent, hdate]
  change ((l.mode.accepts (Event.plain severity message function line (l.fileText file))
    (Value.ofText? label)).bind fun _ => l.render _) = _
  rw [haccepts]
  rfl

/-- A logger without a custom formatter renders every entry. -/
theorem exists_render {l : Logger} (hformatter : l.formatter = none) (entry : Entry) :
    ∃ line, l.render entry = .ok line := by
  rw [render, mode, hformatter]
  cases l.template with
  | none => exact ⟨_, rfl⟩
  | some t => exact ⟨_, rfl⟩

/-- Such a logger renders every event of texts whose date it can render. -/
theorem exists_formatEvent {l : Logger} (hformatter : l.formatter = none) {occasion : Occasion}
    {date : String} (hdate : l.dateFormatter.formatAt occasion = .ok date) (severity : Severity)
    (message function : String) (line : Int) (file : String) (metadata label : Option String) :
    ∃ shown, l.formatEvent occasion (Event.plain severity message function line file) metadata
      (Value.ofText? label) = .ok shown := by
  rw [formatEvent_plain hdate]
  exact exists_render hformatter _

/-- The values of the entry of an event of texts. -/
theorem valueOf_entry_plain (severity : Severity) (message function : String) (line : Int)
    (file date : String) (label metadata : Option String) :
    ((Event.plain severity message function line file).entry date metadata
      (Value.ofText? label)).valueOf
      = Event.shownValues severity message function line file date label metadata := by
  funext f
  cases f with
  | label =>
      cases label with
      | none => rfl
      | some s =>
          -- An empty label counts as none.
          by_cases hs : s = ""
          · rw [hs]
            rfl
          · simp [Event.entry, Event.labelText?, Value.ofText?, Value.truthy, Value.toText,
              Entry.valueOf, Event.shownValues, hs]
  | _ => rfl

/-- The line of an event is the format, read once from left to right, with the
    values of the event in place of its placeholders; in the color of the
    severity if the logger is colored. This holds of every logger that was
    configured to have the format and no formatter, and of every event whose
    date can be rendered. -/
theorem formatEvent_eq_expand (l : Logger) (s : String) (occasion : Occasion) (date : String)
    (severity : Severity) (message function : String) (line : Int) (file : String)
    (label metadata : Option String) (hl : l.Reached) (hformat : l.format = .text s)
    (hformatter : l.formatter = none) (hdate : l.dateFormatter.formatAt occasion = .ok date) :
    ∃ name, IsLastPart file name ∧
      l.formatEvent occasion (Event.plain severity message function line file) metadata
          (Value.ofText? label) =
        .ok (let shownFile := if l.fullFilePath.truthy then file else name
          let text := Template.expand (Event.shownValues severity message function line shownFile
            date label metadata) s
          if l.colored.truthy then severity.color.code ++ text ++ Color.foreground.code
          else text) := by
  have htemplate : l.template = some (Template.ofText s) := by
    refine (coherent_of_reached hl).template _ ?_
    rw [hformat]
    rfl
  have hmode : l.mode = .template (Template.ofText s) := by
    rw [mode, hformatter, htemplate]
  refine ⟨baseName file, isLastPart_baseName file, ?_⟩
  let shown := Event.plain severity message function line (l.fileText file)
  calc l.formatEvent occasion (Event.plain severity message function line file) metadata
        (Value.ofText? label)
      = (l.mode.accepts shown (Value.ofText? label)).bind fun _ =>
          l.render (shown.entry date metadata (Value.ofText? label)) := by
        rw [formatEvent, hdate]
        rfl
    _ = l.render (shown.entry date metadata (Value.ofText? label)) := by
        rw [accepts_plain]
        rfl
    _ = .ok (l.paint severity
          ((shown.entry date metadata (Value.ofText? label)).fill (Template.ofText s))) := by
        rw [render, hmode]
        rfl
    _ = .ok (l.paint severity (Template.expand (Event.shownValues severity message function line
          (l.fileText file) date label metadata) s)) := by
        rw [Entry.fill_ofText, valueOf_entry_plain]
    _ = _ := rfl

/-- A placeholder behind an unfinished one is found, the message is not read
    again, and neither an unknown word nor an unfinished one is touched. -/
theorem formatEvent_eq_expand_nested :
    ∃ l : Logger, l.Reached ∧ l.format = .text "(%(%msg)(%nope) (%ms" ∧ l.formatter = none ∧
      l.dateFormatter.formatAt (.given ⟨⟨2026, 10, 19, 8, 30, 0, 0⟩, some 0⟩) = .ok "2026" ∧
      l.formatEvent (.given ⟨⟨2026, 10, 19, 8, 30, 0, 0⟩, some 0⟩)
          (Event.plain .warning "(%func)g)" "main" 7 "/srv/app.py") none (Value.ofText? none) =
        .ok "\x1b[0;33m(%(%func)g)(%nope) (%ms\x1b[0;39m" := by
  rcases show ∃ l : Logger, l.Reached ∧ l.format = .text "(%(%msg)(%nope) (%ms" ∧
      l.formatter = none ∧ l.colored = .bool true ∧ l.fullFilePath = .bool true ∧
      l.dateFormatter.formatAt (.given ⟨⟨2026, 10, 19, 8, 30, 0, 0⟩, some 0⟩) = .ok "2026" from
    ⟨_, ⟨.text "info", .stdout, { fullFilePath := .bool true, timeZone := .name "UTC" }, _,
      [.format (.text "(%type)"), .dateFormat (.text "%Y"), .colored (.bool true),
        .timeZone (.name "Nowhere"), .format (.text "(%(%msg)(%nope) (%ms")], rfl, rfl⟩,
      rfl, rfl, rfl, rfl, rfl⟩ with ⟨l, hl, hformat, hformatter, hcolored, hfull, hdate⟩
  rcases formatEvent_eq_expand l _ _ _ .warning "(%func)g)" "main" 7 "/srv/app.py" none none hl
    hformat hformatter hdate with ⟨name, _, hline⟩
  rw [hcolored, hfull] at hline
  refine ⟨l, hl, hformat, hformatter, hdate, hline.trans ?_⟩
  cbv

end Logger

end TextLog
