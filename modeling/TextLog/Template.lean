/-!
# Templates

A template is a text with placeholders, split into the segments that a renderer
walks: literal texts to be copied and fields to be filled in.

A template is in normal form when it has no empty literal and no two literals
in a row. `Template.ofSegments` brings any sequence of segments into this form
by running literals together; the form is what makes the segments of a text
unique.

## Main definitions

* `Field`: What can be filled in, each with its placeholder.
* `Segment`: A literal text or a field.
* `Template`: A sequence of segments, with its `text` and `fields`.
* `Template.ofSegments`: The template in normal form.
-/

namespace TextLog

/-- A value of an event that a template can show. -/
inductive Field where
  | message
  | function
  | line
  | file
  | type
  | date
  | label
  | metadata
  deriving DecidableEq, Repr

namespace Field

/-- All fields in their customary order. -/
def all : List Field :=
  [.message, .function, .line, .file, .type, .date, .label, .metadata]

/-- The name of a field. -/
def name : Field → String
  | .message => "MESSAGE"
  | .function => "FUNCTION"
  | .line => "LINE"
  | .file => "FILE"
  | .type => "TYPE"
  | .date => "DATE"
  | .label => "LABEL"
  | .metadata => "METADATA"

/-- The word between the brackets of the placeholder of a field. -/
def word : Field → String
  | .message => "msg"
  | .function => "func"
  | .line => "line"
  | .file => "file"
  | .type => "type"
  | .date => "date"
  | .label => "label"
  | .metadata => "metadata"

/-- The text that stands for a field in a template. -/
def placeholder (f : Field) : String :=
  "(%" ++ f.word ++ ")"

/-- The field of a name. -/
def ofName? (s : String) : Option Field :=
  all.find? fun f => f.name == s

/-- The field of a word between brackets. -/
def ofWord? (s : String) : Option Field :=
  all.find? fun f => f.word == s

end Field

/-- A part of a template. -/
inductive Segment where
  /-- Text that is copied. -/
  | literal (text : String)
  /-- A field that is filled in. -/
  | token (field : Field)
  deriving DecidableEq, Repr

namespace Segment

/-- The part of the text of a template that a segment stands for. -/
def text : Segment → String
  | .literal s => s
  | .token f => f.placeholder

/-- The field of a segment, if it has one. -/
def field? : Segment → Option Field
  | .literal _ => none
  | .token f => some f

end Segment

/-- A template as the sequence of its segments. -/
structure Template where
  segments : List Segment
  deriving DecidableEq, Repr

namespace Template

/-- Puts a literal in front of segments in normal form. -/
def consLiteral (s : String) : List Segment → List Segment
  | .literal t :: rest => .literal (s ++ t) :: rest
  | rest => if s = "" then rest else .literal s :: rest

/-- Runs literals together and drops empty ones. -/
def normalize : List Segment → List Segment
  | [] => []
  | .token f :: rest => .token f :: normalize rest
  | .literal s :: rest => consLiteral s (normalize rest)

/-- The template of a sequence of segments, in normal form. -/
def ofSegments (segments : List Segment) : Template :=
  ⟨normalize segments⟩

/-- The text of a template, each field shown by its placeholder. -/
def text (t : Template) : String :=
  String.join (t.segments.map Segment.text)

/-- The fields of a template in order, each as often as it occurs. -/
def fields (t : Template) : List Field :=
  t.segments.filterMap Segment.field?

/-- The template shows a field. -/
def uses (t : Template) (f : Field) : Bool :=
  t.fields.contains f

/-- The number of segments. -/
def size (t : Template) : Nat :=
  t.segments.length

end Template

end TextLog
