import TextLog.Formatter
import TextLog.Sink
import TextLog.Severity.Name
import TextLog.Template.Compile
import TextLog.Time.DateFormatter

/-!
# Loggers

A logger turns events into lines: it filters them by a threshold, renders the
ones that pass, and knows the sink that the lines go to.

A line is made by the custom formatter if there is one, else from the template
if there is a format, else by a fixed layout. Only the last two are colored.
The template and the date formatter are derived from the configuration when it
is assigned, so nothing is compiled per line; an assignment that fails leaves
the logger as it was, but for a format that is no text: it is kept beside the
template that was there before.

The parts of an event are texts as a rule, but whoever logs may give any value.
A fixed layout shows the text of a value. A template joins texts alone, and a
path that is to be shortened has to be a text.

## Main definitions

* `Logger`: A logger.
* `LoggerOptions`: Its configuration beside threshold and sink.
* `Logger.make`: A logger from its configuration.
* `LoggerEdit`, `Logger.edit`: Assignment to one part of the configuration.
* `Logger.leftBy`: What an assignment that fails leaves behind.
* `Logger.formatEvent`: The line of an event.
-/

namespace TextLog

open Time

/-- An event where it happens. -/
structure Event where
  severity : Severity
  message : Value
  function : Value
  line : Value
  file : Value

/-- An event whose parts are texts and a number. -/
def Event.plain (severity : Severity) (message function : String) (line : Int) (file : String) :
    Event :=
  ⟨severity, .text message, .text function, .int line, .text file⟩

/-- The configuration of a logger that can be left out. A switch is on if its
    value is true, not zero and not empty. -/
structure LoggerOptions where
  colored : Value := .bool false
  details : Value := .bool true
  fullFilePath : Value := .bool false
  format : Value := .null
  formatter : Option FormatterSetting := none
  dateFormat : Value := .null
  timeZone : ZoneSetting := .home

/-- A logger: its configuration with the template and the date formatter that
    belong to it. -/
structure Logger where
  threshold : Severity
  sink : Sink
  colored : Value
  details : Value
  fullFilePath : Value
  format : Value
  template : Option Template
  formatter : Option Formatter
  dateFormat : Value
  timeZone : ZoneSetting
  dateFormatter : DateFormatter

/-- How the lines of a logger are made. -/
inductive RenderMode where
  | formatter (f : Formatter)
  | template (t : Template)
  | layout

/-- The name of a mode. -/
def RenderMode.name : RenderMode → String
  | .formatter _ => "formatter"
  | .template _ => "template"
  | .layout => "default"

/-- The template of a format, which is a text, or null for none. -/
def compileFormat : Value → Except Failure (Option Template)
  | .null => .ok none
  | .text s => .ok (some (Template.ofText s))
  | v => .error (.formatKind v.kind)

/-- The part of a path after the last slash. -/
def baseName (path : String) : String :=
  String.ofList (path.toList.reverse.takeWhile (· != '/')).reverse

namespace Event

/-- The label that a value stands for. What is empty or zero shows nothing. -/
def labelText? : Value → Option String
  | .null => none
  | v => some (if v.truthy then v.toText else "")

/-- The entry of an event with its date: every part by its text. -/
def entry (e : Event) (date : String) (metadata : Option String) (label : Value) : Entry where
  date := date
  severity := e.severity
  file := e.file.toText
  line := e.line
  function := e.function.toText
  message := e.message.toText
  label := labelText? label
  metadata := metadata

/-- What an event gives for a field, which need not be a text. Fields that are
    rendered for every event are left out. -/
def given? (e : Event) (label : Value) : Field → Option Value
  | .message => some e.message
  | .function => some e.function
  | .file => some e.file
  | .label => if label.truthy then some label else none
  | _ => none

end Event

/-- The kind of a value that is no text. -/
def foreignKind? : Value → Option String
  | .text _ => none
  | v => some v.kind

/-- The lines of a mode can be made of an event. A template joins texts alone. -/
def RenderMode.accepts (m : RenderMode) (e : Event) (label : Value) : Except Failure Unit :=
  match m with
  | .template t =>
    let foreign := t.segments.zipIdx.findSome? fun p =>
      ((p.1.field?.bind (e.given? label)).bind foreignKind?).map fun kind => (p.2, kind)
    match foreign with
    | some (index, kind) => .error (.segmentKind index kind)
    | none => .ok ()
  | _ => .ok ()

namespace Logger

/-- The logger of a configuration whose threshold is already a severity. -/
def ofOptions (threshold : Severity) (sink : Sink) (o : LoggerOptions) :
    Except Failure Logger :=
  (DateFormatter.make o.dateFormat o.timeZone).bind fun dateFormatter =>
    (compileFormat o.format).map fun template =>
      { threshold := threshold
        sink := sink
        colored := o.colored
        details := o.details
        fullFilePath := o.fullFilePath
        format := o.format
        template := template
        formatter := o.formatter.map FormatterSetting.toFormatter
        dateFormat := o.dateFormat
        timeZone := o.timeZone
        dateFormatter := dateFormatter }

/-- The logger of a configuration. The threshold is read first. -/
def make (threshold : Value) (sink : Sink) (o : LoggerOptions) : Except Failure Logger :=
  (Severity.parse threshold).bind fun s => ofOptions s sink o

/-- How the lines are made. -/
def mode (l : Logger) : RenderMode :=
  match l.formatter, l.template with
  | some f, _ => .formatter f
  | none, some t => .template t
  | none, none => .layout

/-- Events of a severity pass the threshold. -/
def isLogging (l : Logger) (s : Severity) : Bool :=
  s.passes l.threshold

/-- A path as it is shown: whole, or its last part. -/
def fileText (l : Logger) (path : String) : String :=
  if l.fullFilePath.truthy then path else baseName path

/-- The path of an event as it is shown. Only a text can be shortened. -/
def shownFile (l : Logger) : Value → Except Failure Value
  | .text path => .ok (.text (l.fileText path))
  | v => if l.fullFilePath.truthy then .ok v else .error (.pathKind v.kind)

/-- A line in color, if the logger is colored. -/
def paint (l : Logger) (s : Severity) (line : String) : String :=
  if l.colored.truthy then colorize line s else line

/-- The line of an entry. -/
def render (l : Logger) (entry : Entry) : Except Failure String :=
  match l.mode with
  | .formatter f => f.render entry
  | .template t => .ok (l.paint entry.severity (entry.fill t))
  | .layout => .ok (l.paint entry.severity (entry.layout l.details.truthy))

/-- The line of an event on its occasion. The date comes first, whether or not
    the line shows it. -/
def formatEvent (l : Logger) (occasion : Occasion) (e : Event) (metadata : Option String)
    (label : Value) : Except Failure String :=
  (l.dateFormatter.formatAt occasion).bind fun date =>
    (l.shownFile e.file).bind fun file =>
      let event := { e with file := file }
      (l.mode.accepts event label).bind fun _ => l.render (event.entry date metadata label)

/-- The logger as it is shown. -/
def shown (l : Logger) : String :=
  "HeliumLogger(threshold=" ++ l.threshold.description ++ ", sink=" ++ l.sink.kind ++
    ", mode=" ++ l.mode.name ++ ")"

end Logger

/-- An assignment to one part of the configuration of a logger. -/
inductive LoggerEdit where
  | threshold (v : Value)
  | sink (s : Sink)
  | colored (v : Value)
  | details (v : Value)
  | fullFilePath (v : Value)
  | format (v : Value)
  | formatter (f : Option FormatterSetting)
  | dateFormat (v : Value)
  | timeZone (z : ZoneSetting)
  /-- A part that is derived from the others and cannot be assigned. -/
  | derived (name : String)

namespace Logger

/-- The logger after an assignment. -/
def edit (l : Logger) : LoggerEdit → Except Failure Logger
  | .threshold v => (Severity.parse v).map fun s => { l with threshold := s }
  | .sink s => .ok { l with sink := s }
  | .colored v => .ok { l with colored := v }
  | .details v => .ok { l with details := v }
  | .fullFilePath v => .ok { l with fullFilePath := v }
  | .format v => (compileFormat v).map fun t => { l with format := v, template := t }
  | .formatter f => .ok { l with formatter := f.map FormatterSetting.toFormatter }
  | .dateFormat v =>
    (DateFormatter.make v l.timeZone).map fun d => { l with dateFormat := v, dateFormatter := d }
  | .timeZone z =>
    (DateFormatter.make l.dateFormat z).map fun d => { l with timeZone := z, dateFormatter := d }
  | .derived name => .error (.readOnly "HeliumLogger" name)

/-- The logger that an assignment leaves behind when it fails. A format is kept
    before it is compiled. -/
def leftBy (l : Logger) : LoggerEdit → Logger
  | .format v => { l with format := v }
  | _ => l

end Logger

end TextLog
