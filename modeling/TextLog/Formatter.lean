import TextLog.Entry
import TextLog.Failure

/-!
# Formatters

Custom ways to turn an entry into a line.

A formatter returns the whole line, which is written as it is. It may fail, and
then nothing is written. A bare function can stand in for a formatter; it is
wrapped and shown under a common name.

## Main definitions

* `Formatter`: A named way to render entries.
* `FormatterSetting`: A formatter or a function, as it is given to a logger.
* `Formatter.dump`: A formatter that shows every part of an entry.
* `Rendering`: Some common functions from entries to lines.
-/

namespace TextLog

/-- A function from entries to lines that may fail. -/
abbrev Rendering := Entry → Except Failure String

/-- A named way to render entries. -/
structure Formatter where
  name : String
  render : Rendering

/-- A formatter as it is given to a logger. -/
inductive FormatterSetting where
  /-- A formatter with a name of its own. -/
  | strategy (f : Formatter)
  /-- A bare function. -/
  | function (render : Rendering)

namespace FormatterSetting

/-- The formatter that is meant. -/
def toFormatter : FormatterSetting → Formatter
  | .strategy f => f
  | .function render => ⟨"CallableFormatter", render⟩

end FormatterSetting

/-- The formatter that shows every part of an entry, separated by bars. -/
def Formatter.dump : Formatter where
  name := "DumpFormatter"
  render e := .ok ("|".intercalate
    [e.date, e.severity.description, e.file, e.line.toText, e.function, e.message,
     e.label.getD "None", e.metadata.getD "None"])

namespace Rendering

/-- Shows the message alone. -/
def message : Rendering := fun e =>
  .ok e.message

/-- Always fails. -/
def failing : Rendering := fun e =>
  .error (.formatter ("formatter failed: " ++ e.message))

/-- Shows the same text for every entry. -/
def constant (text : String) : Rendering := fun _ =>
  .ok text

/-- Fills in a template. -/
def template (t : Template) : Rendering := fun e =>
  .ok (e.fill t)

/-- Uses a fixed layout, detailed or short. -/
def layout (detailed : Bool) : Rendering := fun e =>
  .ok (e.layout detailed)

end Rendering

end TextLog
