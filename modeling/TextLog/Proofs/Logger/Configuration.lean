import TextLog.Proofs.Outcome

/-!
# Configuration of Loggers

A logger is what its configuration says, however it was configured.

Two parts of a logger are derived from others: the template from the format, the
date formatter from the pattern and the zone. Three assignments and the making
of a logger rebuild them, and one of these uses a value that another one has
stored. `Coherent` says that the derived parts belong to the stored ones. It
holds of a logger that is made and every assignment keeps it, also one that
fails, so it holds after any number of them in any order
(`coherent_assignAll`). A coherent logger is the one that would be made of its
own attributes (`make_options`), and so nothing else of its past can show.

A format that is no text is kept beside the template that was there before. It
is never compiled, so coherence asks nothing of the template then; the result
about attributes leaves such formats out.

## Main definitions

* `Attribute`: The parts of the configuration that can be read and assigned.
* `LoggerEdit.given?`: The value that an assignment gives to an attribute.
* `LoggerEdit.lastGiven?`: The last value that assignments give to it.
* `Logger.assignAll`: Assignments one after the other.
* `Logger.successes`: Those of them that succeed.
* `Logger.Coherent`: The derived parts belong to the stored ones.
* `Logger.options`: The configuration that would make the logger anew.
* `Logger.initialEdits`: The assignments that making a logger amounts to.
* `Logger.Alike`: Loggers that do the same.
* `Logger.Reached`: Loggers that were made at some time.

## Theorems

* `parse_text_cases`, `exists_ofOptions`: Thresholds that are read and loggers that are
  made.
* `get_of_edit_eq_ok`: What a successful assignment does to the attributes.
* `leftBy_of_edit_eq_error`: What a failing assignment does.
* `get_assignAll`: An attribute is the last value given to it with success.
* `coherent_assignAll`: Loggers stay coherent.
* `make_options`: A logger made of the attributes is the logger itself.
* `logger?_assignAll`: Assignments in a session.
* `assignAll_determined`: A logger is determined by its configuration.
-/

namespace TextLog

open Time

/-- A value that is a text, or null for none. -/
def Value.IsOptionalText : Value → Prop
  | .null => True
  | .text _ => True
  | _ => False

theorem exists_compileFormat {v : Value} (h : v.IsOptionalText) :
    ∃ t, compileFormat v = .ok t := by
  cases v with
  | null => exact ⟨none, rfl⟩
  | text s => exact ⟨some (Template.ofText s), rfl⟩
  | _ => exact h.elim

theorem isOptionalText_of_compileFormat {v : Value} {t : Option Template}
    (h : compileFormat v = .ok t) : v.IsOptionalText := by
  cases v with
  | null => trivial
  | text s => trivial
  | _ => exact absurd h (by simp only [compileFormat, reduceCtorEq, not_false_eq_true])

theorem isOptionalText_ofText? (t : Option String) : (Value.ofText? t).IsOptionalText := by
  cases t <;> trivial

/-- A text names a severity, or is refused as the name of one. -/
theorem Severity.parse_text_cases (s : String) :
    (∃ severity, parse (.text s) = .ok severity) ∨
      parse (.text s) = .error (.severityName (.text s) sortedNames) := by
  simp only [parse, Value.toText]
  cases ofName? s with
  | some severity => exact Or.inl ⟨severity, rfl⟩
  | none => exact Or.inr rfl

namespace Logger

/-- A logger whose threshold is a severity is made if its zone is there. -/
theorem exists_ofOptions {o : LoggerOptions} {zone : Zone}
    (hzone : o.timeZone.resolve = .ok zone) (hformat : o.format.IsOptionalText)
    (severity : Severity) (sink : Sink) : ∃ l, ofOptions severity sink o = .ok l := by
  rcases exists_compileFormat hformat with ⟨template, htemplate⟩
  rw [ofOptions, DateFormatter.make, hzone, htemplate]
  exact ⟨_, rfl⟩

theorem ofOptions_of_zone {o : LoggerOptions} {failure : Failure}
    (hzone : o.timeZone.resolve = .error failure) (severity : Severity) (sink : Sink) :
    ofOptions severity sink o = .error failure := by
  rw [ofOptions, DateFormatter.make, hzone]
  rfl

end Logger

/-- A part of the configuration of a logger that can be read and assigned. -/
inductive Attribute where
  | threshold
  | sink
  | colored
  | details
  | fullFilePath
  | format
  | formatter
  | dateFormat
  | timeZone
  deriving DecidableEq, Repr

/-- What an attribute holds. -/
def Attribute.Content : Attribute → Type
  | .threshold => Severity
  | .sink => Sink
  | .colored => Value
  | .details => Value
  | .fullFilePath => Value
  | .format => Value
  | .formatter => Option Formatter
  | .dateFormat => Value
  | .timeZone => ZoneSetting

/-- An attribute of a logger. -/
def Logger.get (l : Logger) : (a : Attribute) → a.Content
  | .threshold => l.threshold
  | .sink => l.sink
  | .colored => l.colored
  | .details => l.details
  | .fullFilePath => l.fullFilePath
  | .format => l.format
  | .formatter => l.formatter
  | .dateFormat => l.dateFormat
  | .timeZone => l.timeZone

/-- The value that an assignment gives to an attribute, if it is one to that
    attribute and succeeds: a threshold is read and a bare function wrapped. -/
def LoggerEdit.given? (e : LoggerEdit) : (a : Attribute) → Option a.Content
  | .threshold => match e with
    | .threshold v => (Severity.parse v).toOption
    | _ => none
  | .sink => match e with
    | .sink s => some s
    | _ => none
  | .colored => match e with
    | .colored v => some v
    | _ => none
  | .details => match e with
    | .details v => some v
    | _ => none
  | .fullFilePath => match e with
    | .fullFilePath v => some v
    | _ => none
  | .format => match e with
    | .format v => some v
    | _ => none
  | .formatter => match e with
    | .formatter f => some (f.map FormatterSetting.toFormatter)
    | _ => none
  | .dateFormat => match e with
    | .dateFormat v => some v
    | _ => none
  | .timeZone => match e with
    | .timeZone z => some z
    | _ => none

/-- The last value that assignments give to an attribute. -/
def LoggerEdit.lastGiven? (es : List LoggerEdit) (a : Attribute) : Option a.Content :=
  (es.filterMap fun e => e.given? a).getLast?

theorem LoggerEdit.lastGiven?_append (es es' : List LoggerEdit) (a : Attribute) :
    lastGiven? (es ++ es') a = (lastGiven? es' a).or (lastGiven? es a) := by
  rw [LoggerEdit.lastGiven?, List.filterMap_append, List.getLast?_append]
  rfl

namespace Logger

/-- The logger that an assignment leaves, whether it succeeds or fails. -/
def assign (l : Logger) (e : LoggerEdit) : Logger :=
  match l.edit e with
  | .ok edited => edited
  | .error _ => l.leftBy e

/-- The logger that assignments leave one after the other. -/
def assignAll (l : Logger) (es : List LoggerEdit) : Logger :=
  es.foldl assign l

/-- The assignments that succeed when they are made one after the other. -/
def successes (l : Logger) : List LoggerEdit → List LoggerEdit
  | [] => []
  | e :: es =>
    match l.edit e with
    | .ok edited => e :: edited.successes es
    | .error _ => (l.leftBy e).successes es

theorem assignAll_cons (l : Logger) (e : LoggerEdit) (es : List LoggerEdit) :
    l.assignAll (e :: es) = (l.assign e).assignAll es := rfl

theorem assign_of_edit_eq_ok {l edited : Logger} {e : LoggerEdit} (h : l.edit e = .ok edited) :
    l.assign e = edited := by
  rw [assign, h]

theorem assign_of_edit_eq_error {l : Logger} {e : LoggerEdit} {failure : Failure}
    (h : l.edit e = .error failure) : l.assign e = l.leftBy e := by
  rw [assign, h]

/-- A successful assignment gives its own attribute a value and leaves the others
    as they are. -/
theorem get_of_edit_eq_ok {l edited : Logger} {e : LoggerEdit} (h : l.edit e = .ok edited)
    (a : Attribute) : edited.get a = (e.given? a).getD (l.get a) := by
  cases e with
  | threshold v =>
      rcases exists_of_map_eq_ok h with ⟨s, hs, rfl⟩
      cases a with
      | threshold =>
          change s = (Severity.parse v).toOption.getD l.threshold
          rw [hs]
          rfl
      | _ => rfl
  | format v =>
      rcases exists_of_map_eq_ok h with ⟨t, _, rfl⟩
      cases a <;> rfl
  | dateFormat v =>
      rcases exists_of_map_eq_ok h with ⟨d, _, rfl⟩
      cases a <;> rfl
  | timeZone z =>
      rcases exists_of_map_eq_ok h with ⟨d, _, rfl⟩
      cases a <;> rfl
  | derived name => exact absurd h (by simp only [edit, reduceCtorEq, not_false_eq_true])
  | _ =>
      rw [edit, Except.ok.injEq] at h
      rw [← h]
      cases a <;> rfl

/-- An assignment that fails leaves the logger as it was, unless it is that of a
    format, and a format fails only if it is no text. -/
theorem leftBy_of_edit_eq_error {l : Logger} {e : LoggerEdit} {failure : Failure}
    (h : l.edit e = .error failure) (htext : ∀ v, e = .format v → v.IsOptionalText) :
    l.leftBy e = l := by
  cases e with
  | format v =>
      rcases exists_compileFormat (htext v rfl) with ⟨t, ht⟩
      rw [edit, ht] at h
      exact absurd h (by simp only [Except.map, reduceCtorEq, not_false_eq_true])
  | _ => rfl

/-- An attribute is the last value that was given to it with success, or what it
    was if there is none. -/
theorem get_assignAll (l : Logger) (es : List LoggerEdit)
    (hes : ∀ v, .format v ∈ es → v.IsOptionalText) (a : Attribute) :
    (l.assignAll es).get a = (LoggerEdit.lastGiven? (l.successes es) a).getD (l.get a) := by
  induction es generalizing l with
  | nil => rfl
  | cons e es ih =>
      have hrest : ∀ v, .format v ∈ es → v.IsOptionalText :=
        fun v hv => hes v (List.mem_cons_of_mem _ hv)
      rw [assignAll_cons]
      cases hedit : l.edit e with
      | ok edited =>
          rw [assign_of_edit_eq_ok hedit, ih edited hrest, get_of_edit_eq_ok hedit a, successes,
            hedit]
          -- A value given later hides the one given here, which hides the old.
          simp only [LoggerEdit.lastGiven?, List.filterMap_cons]
          cases e.given? a with
          | none => rfl
          | some value =>
              rw [List.getLast?_cons]
              rfl
      | error failure =>
          have hleft : l.leftBy e = l :=
            leftBy_of_edit_eq_error hedit fun v hv => hes v (hv ▸ List.mem_cons_self)
          rw [assign_of_edit_eq_error hedit, hleft, ih l hrest, successes, hedit, hleft]

/-- The assignments that making a logger amounts to. -/
def initialEdits (threshold : Value) (sink : Sink) (o : LoggerOptions) : List LoggerEdit :=
  [.threshold threshold, .sink sink, .colored o.colored, .details o.details,
    .fullFilePath o.fullFilePath, .format o.format, .formatter o.formatter,
    .dateFormat o.dateFormat, .timeZone o.timeZone]

/-- A logger that is made has the attributes that it is made with. -/
theorem lastGiven?_initialEdits {threshold : Value} {sink : Sink} {o : LoggerOptions} {l : Logger}
    (h : make threshold sink o = .ok l) (a : Attribute) :
    LoggerEdit.lastGiven? (initialEdits threshold sink o) a = some (l.get a) := by
  rcases exists_of_bind_eq_ok h with ⟨s, hs, h⟩
  rcases exists_of_bind_eq_ok h with ⟨d, _, h⟩
  rcases exists_of_map_eq_ok h with ⟨t, _, rfl⟩
  cases a with
  | threshold =>
      change ((Severity.parse threshold).toOption.toList).getLast? = some s
      rw [hs]
      rfl
  | _ => rfl

/-- The derived parts of a logger belong to its configuration. -/
structure Coherent (l : Logger) : Prop where
  template : ∀ t, compileFormat l.format = .ok t → l.template = t
  dateFormatter : DateFormatter.make l.dateFormat l.timeZone = .ok l.dateFormatter

/-- A logger that is made is coherent, and its format is a text if it has one. -/
theorem coherent_of_make {threshold : Value} {sink : Sink} {o : LoggerOptions} {l : Logger}
    (h : make threshold sink o = .ok l) : l.Coherent ∧ l.format.IsOptionalText := by
  rcases exists_of_bind_eq_ok h with ⟨s, _, h⟩
  rcases exists_of_bind_eq_ok h with ⟨d, hd, h⟩
  rcases exists_of_map_eq_ok h with ⟨t, ht, rfl⟩
  refine ⟨⟨fun u hu => ?_, hd⟩, isOptionalText_of_compileFormat ht⟩
  exact Except.ok.inj (ht.symm.trans hu)

theorem coherent_edit {l edited : Logger} {e : LoggerEdit} (hl : l.Coherent)
    (h : l.edit e = .ok edited) : edited.Coherent := by
  cases e with
  | threshold v =>
      rcases exists_of_map_eq_ok h with ⟨s, _, rfl⟩
      exact ⟨hl.template, hl.dateFormatter⟩
  | format v =>
      rcases exists_of_map_eq_ok h with ⟨t, ht, rfl⟩
      exact ⟨fun u hu => Except.ok.inj (ht.symm.trans hu), hl.dateFormatter⟩
  | dateFormat v =>
      rcases exists_of_map_eq_ok h with ⟨d, hd, rfl⟩
      exact ⟨hl.template, hd⟩
  | timeZone z =>
      rcases exists_of_map_eq_ok h with ⟨d, hd, rfl⟩
      exact ⟨hl.template, hd⟩
  | derived name => exact absurd h (by simp only [edit, reduceCtorEq, not_false_eq_true])
  | _ =>
      rw [edit, Except.ok.injEq] at h
      rw [← h]
      exact ⟨hl.template, hl.dateFormatter⟩

/-- A format that fails to compile is kept, but it has no template to belong
    to. -/
theorem coherent_leftBy {l : Logger} {e : LoggerEdit} {failure : Failure} (hl : l.Coherent)
    (h : l.edit e = .error failure) : (l.leftBy e).Coherent := by
  cases e with
  | format v =>
      -- Only a format that does not compile fails.
      refine ⟨fun t ht => ?_, hl.dateFormatter⟩
      rw [edit, show compileFormat v = .ok t from ht] at h
      exact absurd h (by simp only [Except.map, reduceCtorEq, not_false_eq_true])
  | _ => exact hl

theorem coherent_assign (l : Logger) (e : LoggerEdit) (hl : l.Coherent) :
    (l.assign e).Coherent := by
  cases hedit : l.edit e with
  | ok edited =>
      rw [assign_of_edit_eq_ok hedit]
      exact coherent_edit hl hedit
  | error failure =>
      rw [assign_of_edit_eq_error hedit]
      exact coherent_leftBy hl hedit

/-- Loggers stay coherent, whatever is assigned to them. -/
theorem coherent_assignAll (l : Logger) (es : List LoggerEdit) (hl : l.Coherent) :
    (l.assignAll es).Coherent := by
  induction es generalizing l with
  | nil => exact hl
  | cons e es ih => exact ih (l.assign e) (coherent_assign l e hl)

theorem isOptionalText_assign (l : Logger) (e : LoggerEdit) (hl : l.format.IsOptionalText)
    (he : ∀ v, e = .format v → v.IsOptionalText) : (l.assign e).format.IsOptionalText := by
  cases hedit : l.edit e with
  | ok edited =>
      rw [assign_of_edit_eq_ok hedit]
      have hget : edited.format = (e.given? .format).getD l.format :=
        get_of_edit_eq_ok hedit .format
      rw [hget]
      cases e with
      | format v => exact he v rfl
      | _ => exact hl
  | error failure =>
      rw [assign_of_edit_eq_error hedit, leftBy_of_edit_eq_error hedit he]
      exact hl

/-- The format stays a text, or null, if nothing else is assigned to it. -/
theorem isOptionalText_assignAll (l : Logger) (es : List LoggerEdit)
    (hl : l.format.IsOptionalText) (hes : ∀ v, .format v ∈ es → v.IsOptionalText) :
    (l.assignAll es).format.IsOptionalText := by
  induction es generalizing l with
  | nil => exact hl
  | cons e es ih =>
      refine ih (l.assign e) (isOptionalText_assign l e hl fun v hv => ?_) fun v hv => ?_
      · exact hes v (hv ▸ List.mem_cons_self)
      · exact hes v (List.mem_cons_of_mem _ hv)

/-- The configuration that makes a logger like this one, but for the threshold
    and the sink. -/
def options (l : Logger) : LoggerOptions where
  colored := l.colored
  details := l.details
  fullFilePath := l.fullFilePath
  format := l.format
  formatter := l.formatter.map .strategy
  dateFormat := l.dateFormat
  timeZone := l.timeZone

theorem parse_description (s : Severity) : Severity.parse (.text s.description) = .ok s := by
  cases s <;> rfl

/-- A coherent logger is the one that is made of its attributes. -/
theorem make_options (l : Logger) (hl : l.Coherent) (hf : l.format.IsOptionalText) :
    make (.text l.threshold.description) l.sink l.options = .ok l := by
  rcases exists_compileFormat hf with ⟨t, ht⟩
  have hformatter : l.options.formatter.map FormatterSetting.toFormatter = l.formatter := by
    cases h : l.formatter <;> simp only [options, h, Option.map, FormatterSetting.toFormatter]
  have hdate : DateFormatter.make l.options.dateFormat l.options.timeZone = .ok l.dateFormatter :=
    hl.dateFormatter
  have hformat : compileFormat l.options.format = .ok l.template := by
    rw [hl.template t ht]
    exact ht
  rw [make, parse_description]
  simp only [Except.bind, ofOptions, hdate, hformat, Except.map, hformatter]
  rfl

/-- Two loggers that cannot be told apart by what they do. -/
structure Alike (l m : Logger) : Prop where
  mode : l.mode = m.mode
  isLogging : ∀ s, l.isLogging s = m.isLogging s
  formatEvent : ∀ occasion e metadata label,
    l.formatEvent occasion e metadata label = m.formatEvent occasion e metadata label
  shown : l.shown = m.shown

end Logger

/-- A logger that was made at some time and assigned to since. -/
def Logger.Reached (l : Logger) : Prop :=
  ∃ threshold sink o l₀ es, Logger.make threshold sink o = .ok l₀ ∧ l₀.assignAll es = l

theorem Logger.coherent_of_reached {l : Logger} (h : l.Reached) : l.Coherent := by
  rcases h with ⟨_, _, _, l₀, es, hmade, rfl⟩
  exact coherent_assignAll l₀ es (coherent_of_make hmade).1

namespace Session

/-- The session that assignments to a logger leave one after the other. -/
def assignAll (s : Session) (id : LoggerId) (es : List LoggerEdit) : Session :=
  es.foldl (fun s e => ((Action.editLogger id e).runOn s).2) s

/-- An assignment fails in a session if it fails on the logger, and puts the
    logger that it leaves in its place either way. -/
theorem runOn_editLogger (s : Session) (id : LoggerId) (e : LoggerEdit) (l : Logger)
    (h : s.logger? id = some l) :
    (Action.editLogger id e).runOn s =
      ((l.edit e).map fun _ => (),
        { s with loggers := s.loggers.setIfInBounds id.index (l.assign e) }) := by
  rw [Action.editLogger, Action.runOn_bind, Action.runOn_logger id l s h]
  simp only [Logger.assign]
  cases l.edit e <;> rfl

theorem logger?_setIfInBounds (s : Session) (id : LoggerId) (l m : Logger)
    (h : s.logger? id = some l) :
    { s with loggers := s.loggers.setIfInBounds id.index m }.logger? id = some m := by
  rcases Array.getElem?_eq_some_iff.mp h with ⟨hlt, _⟩
  exact Array.getElem?_setIfInBounds_self_of_lt hlt

/-- Assignments to a logger in a session leave the logger that they leave by
    themselves. -/
theorem logger?_assignAll (s : Session) (id : LoggerId) (es : List LoggerEdit) (l : Logger)
    (h : s.logger? id = some l) : (s.assignAll id es).logger? id = some (l.assignAll es) := by
  induction es generalizing s l with
  | nil => exact h
  | cons e es ih =>
      rw [assignAll, List.foldl_cons, runOn_editLogger s id e l h]
      exact ih _ _ (logger?_setIfInBounds s id l (l.assign e) h)

end Session

namespace Logger

/-- A logger is determined by its configuration. After any assignments, in any
    order and with failures among them, every attribute is the last value that
    was given to it with success, counting those that it was made with; the
    template is that of the format and the date formatter that of the pattern
    and the zone; and a logger that is made of the attributes does the same as
    this one. -/
theorem assignAll_determined (threshold : Value) (sink : Sink) (o : LoggerOptions) (l₀ : Logger)
    (es : List LoggerEdit) (s : Session) (id : LoggerId)
    (hmade : make threshold sink o = .ok l₀) (hs : s.logger? id = some l₀)
    (hes : ∀ v, .format v ∈ es → v.IsOptionalText) :
    ∃ l, (s.assignAll id es).logger? id = some l ∧
      (∀ a, LoggerEdit.lastGiven? (initialEdits threshold sink o ++ l₀.successes es) a =
        some (l.get a)) ∧
      ((l.format = .null ∧ l.template = none) ∨
        ∃ text, l.format = .text text ∧ l.template = some (Template.ofText text)) ∧
      DateFormatter.make l.dateFormat l.timeZone = .ok l.dateFormatter ∧
      ∃ fresh, make (.text l.threshold.description) l.sink l.options = .ok fresh ∧
        fresh.Alike l := by
  rcases coherent_of_make hmade with ⟨hcoh₀, htext₀⟩
  have hcoh := coherent_assignAll l₀ es hcoh₀
  have htext := isOptionalText_assignAll l₀ es htext₀ hes
  refine ⟨l₀.assignAll es, s.logger?_assignAll id es l₀ hs, fun a => ?_, ?_, hcoh.dateFormatter,
    l₀.assignAll es, make_options _ hcoh htext, ⟨rfl, fun _ => rfl, fun _ _ _ _ => rfl, rfl⟩⟩
  · rw [LoggerEdit.lastGiven?_append, lastGiven?_initialEdits hmade, get_assignAll l₀ es hes]
    cases LoggerEdit.lastGiven? (l₀.successes es) a <;> rfl
  · cases hformat : (l₀.assignAll es).format with
    | null => exact Or.inl ⟨rfl, hcoh.template none (by rw [hformat]; rfl)⟩
    | text text =>
        refine Or.inr ⟨text, rfl, hcoh.template _ ?_⟩
        rw [hformat]
        rfl
    | _ =>
        rw [hformat] at htext
        exact htext.elim

/-- A zone that does not resolve and a threshold that cannot be read leave the
    zone, the pattern and the template that were assigned before them. -/
theorem assignAll_determined_refusals :
    ∃ l₀ : Logger, make (.text "info") .stdout {} = .ok l₀ ∧
      ∃ l, (({ Session.start ⟨DateTime.ofMicros 0, none⟩ false with
              loggers := #[l₀] } : Session).assignAll ⟨0⟩
            [.timeZone (.name "UTC"), .format (.text "(%msg)"), .timeZone (.name "Nowhere"),
              .dateFormat (.text "%Y"), .threshold (.text "loud")]).logger? ⟨0⟩ = some l ∧
        l.timeZone = .name "UTC" ∧
        DateFormatter.make l.dateFormat l.timeZone = .ok l.dateFormatter := by
  rcases show ∃ l₀, make (.text "info") .stdout {} = .ok l₀ from ⟨_, rfl⟩ with ⟨l₀, hmade⟩
  rcases assignAll_determined (.text "info") .stdout {} l₀
    [.timeZone (.name "UTC"), .format (.text "(%msg)"), .timeZone (.name "Nowhere"),
      .dateFormat (.text "%Y"), .threshold (.text "loud")]
    { Session.start ⟨DateTime.ofMicros 0, none⟩ false with loggers := #[l₀] } ⟨0⟩ hmade rfl
    (by
      intro v hv
      simp only [List.mem_cons, reduceCtorEq, false_or, LoggerEdit.format.injEq, List.not_mem_nil,
        or_false] at hv
      rw [hv]
      trivial) with ⟨l, hl, hget, _, hdate, _⟩
  have hzone : some (l.get .timeZone) = some (ZoneSetting.name "UTC") := (hget .timeZone).symm
  exact ⟨l₀, hmade, l, hl, Option.some.inj hzone, hdate⟩

end Logger

end TextLog
