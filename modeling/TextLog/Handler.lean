import TextLog.Logger
import TextLog.Metadata.OfValue

/-!
# Handlers

A handler lends a logger a label, a level and metadata of its own.

The metadata of a handler is rendered when it changes and the text is kept, so
that events without metadata of their own need not render it again. An event
with metadata of its own shows both, its own values winning. The level of the
handler decides which events it takes; the threshold of the logger does not.

## Main definitions

* `Handler`: A handler.
* `Handler.make`: A handler from its configuration.
* `HandlerEdit`, `Handler.edit`: Assignment to a part of a handler.
* `Handler.metadataText`: The metadata that an event is shown with.
-/

namespace TextLog

/-- A reference to a logger. -/
structure LoggerId where
  index : Nat
  deriving DecidableEq, Repr

/-- A handler. The label is a text as a rule. `pretty` is the rendered
    metadata. -/
structure Handler where
  label : Value
  logger : LoggerId
  level : Severity
  metadata : Metadata
  pretty : Option String

namespace Handler

/-- The handler with other metadata, rendered anew. -/
def withMetadata (h : Handler) (m : Metadata) : Handler :=
  { h with metadata := m, pretty := m.pretty }

/-- A handler with a level that is already a severity. -/
def ofParts (label : Value) (logger : LoggerId) (level : Severity) (m : Metadata) : Handler :=
  ⟨label, logger, level, m, m.pretty⟩

/-- The handler of a configuration. Metadata that are empty or zero are none. -/
def make (label : Value) (logger : LoggerId) (level metadata : Value) : Except Failure Handler :=
  (Severity.parse level).bind fun s =>
    if metadata.truthy then (Metadata.ofValue metadata).map (ofParts label logger s)
    else .ok (ofParts label logger s [])

/-- A handler of its own with the same configuration and the same logger. -/
def copy (h : Handler) : Handler :=
  ofParts h.label h.logger h.level h.metadata

/-- The value of a key, null if there is none. -/
def item (h : Handler) (key : String) : Value :=
  (Metadata.get? h.metadata key).getD .null

/-- Events of a severity reach the level. -/
def isLogging (h : Handler) (s : Severity) : Bool :=
  s.passes h.level

/-- The metadata that an event is shown with, given its own. -/
def metadataText (h : Handler) (own : Metadata) : Option String :=
  if own.isEmpty then h.pretty else (Metadata.merge h.metadata own).pretty

/-- The handler as it is shown. -/
def shown (h : Handler) : String :=
  "HeliumLogHandler(label=" ++ h.label.literal ++ ", level=" ++ h.level.description ++
    ", metadata=" ++ (Metadata.toValue h.metadata).literal ++ ")"

end Handler

/-- An assignment to a part of a handler. -/
inductive HandlerEdit where
  | level (v : Value)
  | metadata (v : Value)
  | item (key : String) (v : Value)
  | delete (key : String)
  | label (v : Value)
  | logger (id : LoggerId)
  /-- A part that is derived from the others and cannot be assigned. -/
  | derived (name : String)

namespace Handler

/-- The handler after an assignment. Giving a key the value null removes it, and
    does nothing if it is absent; deleting an absent key fails. -/
def edit (h : Handler) : HandlerEdit → Except Failure Handler
  | .level v => (Severity.parse v).map fun s => { h with level := s }
  | .metadata v => (Metadata.ofValue v).map h.withMetadata
  | .item key .null => .ok (h.withMetadata (Metadata.erase h.metadata key))
  | .item key v => .ok (h.withMetadata (Metadata.set h.metadata key v))
  | .delete key =>
    if Metadata.has h.metadata key then .ok (h.withMetadata (Metadata.erase h.metadata key))
    else .error (.missingKey key)
  | .label v => .ok { h with label := v }
  | .logger id => .ok { h with logger := id }
  | .derived name => .error (.readOnly "HeliumLogHandler" name)

end Handler

end TextLog
