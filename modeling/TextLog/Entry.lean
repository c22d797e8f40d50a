import TextLog.Severity
import TextLog.Template
import TextLog.Value

/-!
# Entries

An event with everything a line may show of it, and the ways to lay it out.

A template puts the values of its fields between its literals. Without a
template one of two fixed layouts is used: the detailed one, with the place in
the source, or the short one. These append the metadata if there are any, which
is the one thing a template decides for itself.

## Main definitions

* `Entry`: An event ready to be rendered.
* `Entry.valueOf`: What a field shows.
* `Entry.fill`: A template filled in.
* `Entry.layout`: The detailed or the short layout.
* `colorize`: A line in the color of its severity.
-/

namespace TextLog

/-- An event with its date and metadata already rendered. The line is the number
    of one as a rule, but any value can be shown in its place. -/
structure Entry where
  date : String
  severity : Severity
  file : String
  line : Value
  function : String
  message : String
  label : Option String
  metadata : Option String

namespace Entry

/-- The text that a field shows. An absent label or metadata shows nothing. -/
def valueOf (e : Entry) : Field → String
  | .message => e.message
  | .function => e.function
  | .line => e.line.toText
  | .file => e.file
  | .type => e.severity.description
  | .date => e.date
  | .label => e.label.getD ""
  | .metadata => e.metadata.getD ""

/-- What a segment of a template shows. -/
def segmentText (e : Entry) : Segment → String
  | .literal s => s
  | .token f => e.valueOf f

/-- A template with every field filled in. -/
def fill (e : Entry) (t : Template) : String :=
  String.join (t.segments.map e.segmentText)

/-- The metadata behind a line, if there are any to show. -/
def metadataSuffix (e : Entry) : String :=
  match e.metadata with
  | some m => if m = "" then "" else " " ++ m
  | none => ""

/-- The fixed layout, detailed or short. -/
def layout (e : Entry) (detailed : Bool) : String :=
  let place :=
    if detailed then "[" ++ e.file ++ ":" ++ e.line.toText ++ " " ++ e.function ++ "] "
    else ""
  e.date ++ " [" ++ e.severity.description ++ "] " ++ place ++ e.message ++ e.metadataSuffix

end Entry

/-- A line in the color of a severity, with the default foreground behind
    it. -/
def colorize (line : String) (s : Severity) : String :=
  s.color.code ++ line ++ Color.foreground.code

end TextLog
