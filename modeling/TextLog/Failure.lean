import TextLog.Metadata
import TextLog.Time.Zone
import TextLog.Message.Fault
import TextLog.Settings.Problem
import TextLog.Console.Literal.Fault

/-!
# Failures

Everything that can go wrong, by its cause.

Failures of configuration are reported with a machine-readable code and the
offending values; these are the reports of the library itself. The others have
a wording only.

## Main definitions

* `Failure`: A cause, with its `Failure.wording`.
* `Report`: A failure of configuration as it is reported.
* `Failure.report?`: The report of a failure, if it is one of configuration.
-/

namespace TextLog

/-- What kind of configuration a report is about. -/
inductive ReportKind where
  | general
  | configuration
  | severity
  | sink
  deriving DecidableEq, Repr

/-- The name of a kind, which is also the code of reports that give none. -/
def ReportKind.name : ReportKind → String
  | .general => "HeliumLogError"
  | .configuration => "ConfigurationError"
  | .severity => "InvalidSeverityError"
  | .sink => "SinkError"

/-- The kinds that a kind is a special case of. -/
def ReportKind.broader : ReportKind → List ReportKind
  | .general => []
  | _ => [.general]

/-- A failure of configuration as it is reported. -/
structure Report where
  kind : ReportKind
  message : String
  code : String
  details : Metadata

/-- A report whose code is the name of its kind unless another one, not empty,
    is given. -/
def Report.make (kind : ReportKind) (message : String) (code : Option String)
    (details : Metadata) : Report where
  kind := kind
  message := message
  code := match code with
    | some c => if c = "" then kind.name else c
    | none => kind.name
  details := details

/-- A cause for which an operation does not succeed. -/
inductive Failure where
  /-- A truth value in place of a severity. -/
  | severityFlag (b : Bool)
  /-- A rank that no severity has. -/
  | severityRank (n : Int)
  /-- A value whose text names no severity. -/
  | severityName (v : Value) (valid : List String)
  /-- A name that no time zone has. -/
  | unknownZone (name : String)
  /-- The name of a directory of time zones. -/
  | zoneDirectory (name : String)
  /-- An output that has no way to be written to. -/
  | notWritable (v : Value)
  /-- A date outside the years 1 to 9999. -/
  | dateRange
  /-- A point of time whose local year is outside these years. -/
  | yearRange (year : Int)
  /-- A point of time beyond the calendar of the system. -/
  | timestampRange
  /-- A point of time whose year is beyond what the system counts. -/
  | timestampSize
  /-- A point of time that is no number. -/
  | timestampNan
  /-- A point of time of infinite size. -/
  | timestampInfinite
  /-- A point of time that is not given by a number. -/
  | timestampKind (kind : String)
  /-- A message that does not fit its arguments. -/
  | message (fault : Message.Fault)
  /-- A custom formatter gave up. -/
  | formatter (reason : String)
  /-- An output stream refused a text. -/
  | stream (reason : String)
  /-- A key that is not there. -/
  | missingKey (key : String)
  /-- A number that no event level has. -/
  | missingLevel (v : Value)
  /-- A path, or the name of a zone, that is no text. -/
  | pathKind (kind : String)
  /-- A date pattern that is no text. -/
  | patternKind (kind : String)
  /-- A format that is no text. -/
  | formatKind (kind : String)
  /-- A part of a line that is no text, by its place in the template. -/
  | segmentKind (index : Nat) (kind : String)
  /-- A value that cannot be looked up. -/
  | unhashable (kind : String)
  /-- A value that cannot be gone through. -/
  | notIterable (kind : String)
  /-- A pair for a mapping that is no sequence. -/
  | pairKind (index : Nat)
  /-- A pair for a mapping with another number of members than two. -/
  | pairLength (index length : Nat)
  /-- A fixed offset of a day or more. -/
  | offsetRange (offset : Int)
  /-- A part that can be read but not assigned to. -/
  | readOnly (owner name : String)
  /-- Values that an operator does not compare. -/
  | incomparable (operator left right : String)
  /-- A message that arguments cannot be filled into. -/
  | noPattern (kind : String) (mapping : Bool)
  /-- An argument that is given by place and by name. -/
  | repeatedArgument (function name : String)
  /-- More arguments than a function takes. -/
  | surplusArguments (function : String) (taken given : Nat)
  /-- A method that an object does not have. -/
  | missingMethod (owner name : String)
  /-- More callers were asked for than there are. -/
  | shallowStack
  /-- A name that no numeric level has. -/
  | unknownLevel (name : String)
  /-- A numeric level that is given by something else. -/
  | levelKind (v : Value)
  /-- An event below the level of its handler. -/
  | dropped
  /-- Settings that cannot be read. -/
  | settings (problems : List Settings.FieldProblem)
  /-- Markup with a closing tag that closes nothing. -/
  | markup (tag : String) (position : Nat) (open? : Bool)
  /-- Parameters of a handler that hold no literal, and the part that is none. -/
  | parameters (given part : String) (fault : Console.Literal.Fault)
  /-- A text that writes no number. -/
  | numeral (text : String)
  /-- A number with more digits than are read. -/
  | longNumeral (digits : Nat)
  /-- A reference to an object that does not exist. -/
  | dangling

namespace Failure

/-- What is said about a failure. -/
def wording : Failure → String
  | .severityFlag b => "Invalid severity: " ++ Value.boolText b
  | .severityRank n => "No severity with rank " ++ Decimal.intText n
  | .severityName v _ => "Unknown severity name: " ++ v.literal
  | .unknownZone name => "Unknown time zone '" ++ name ++ "'"
  | .zoneDirectory name => "Is a directory: " ++ Text.quote name
  | .notWritable v => "Object of type " ++ v.kind ++ " has no write() method"
  | .dateRange => "date value out of range"
  | .yearRange year => "year " ++ Decimal.intText year ++ " is out of range"
  | .timestampRange => "timestamp out of range for platform time_t"
  | .timestampSize => "[Errno 75] Value too large for defined data type"
  | .timestampNan => "Invalid value NaN (not a number)"
  | .timestampInfinite => "cannot convert float infinity to integer"
  | .timestampKind kind => "'" ++ kind ++ "' object cannot be interpreted as an integer"
  | .message fault => fault.wording
  | .formatter reason => reason
  | .stream reason => reason
  | .missingKey key => Text.quote key
  | .missingLevel v => v.literal
  | .pathKind kind => "expected str, bytes or os.PathLike object, not " ++ kind
  | .patternKind kind => "strftime() argument 1 must be str, not " ++ kind
  | .formatKind kind => "expected string or bytes-like object, got '" ++ kind ++ "'"
  | .segmentKind index kind =>
    "sequence item " ++ Decimal.intText index ++ ": expected str instance, " ++ kind ++ " found"
  | .unhashable kind => "unhashable type: '" ++ kind ++ "'"
  | .notIterable kind => "'" ++ kind ++ "' object is not iterable"
  | .pairKind index =>
    "cannot convert dictionary update sequence element #" ++ Decimal.intText index ++
      " to a sequence"
  | .pairLength index length =>
    "dictionary update sequence element #" ++ Decimal.intText index ++ " has length " ++
      Decimal.intText length ++ "; 2 is required"
  | .offsetRange offset =>
    "offset must be a timedelta strictly between -timedelta(hours=24) and timedelta(hours=24), " ++
      "not " ++ Time.spanText offset ++ "."
  | .readOnly owner name => "property '" ++ name ++ "' of '" ++ owner ++ "' object has no setter"
  | .incomparable operator left right =>
    "'" ++ operator ++ "' not supported between instances of '" ++ left ++ "' and '" ++ right ++ "'"
  | .noPattern kind mapping =>
    "unsupported operand type(s) for %: '" ++ kind ++ "' and '" ++
      (if mapping then "dict" else "tuple") ++ "'"
  | .repeatedArgument function name =>
    function ++ "() got multiple values for argument '" ++ name ++ "'"
  | .surplusArguments function taken given =>
    function ++ "() takes " ++ Decimal.intText taken ++ " positional argument" ++
      (if taken = 1 then "" else "s") ++ " but " ++ Decimal.intText given ++ " were given"
  | .missingMethod owner name => "'" ++ owner ++ "' object has no attribute '" ++ name ++ "'"
  | .shallowStack => "call stack is not deep enough"
  | .unknownLevel name => "Unknown level: " ++ Text.quote name
  | .levelKind v => "Level not an integer or a valid string: " ++ v.literal
  | .dropped => ""
  | .settings _ => "invalid settings"
  | .markup tag position true =>
    "closing tag '[" ++ tag ++ "]' at position " ++ Decimal.intText position ++
      " doesn't match any open tag"
  | .markup tag position false =>
    "closing tag '[" ++ tag ++ "]' at position " ++ Decimal.intText position ++
      " has nothing to close"
  | .parameters given part fault =>
    if fault.isOrder then
      "error parsing " ++ Text.quote part ++ " in " ++ Text.quote given ++ "; " ++ fault.wording
    else "error parsing " ++ Text.quote given ++ "; " ++ fault.wording
  | .numeral text => "invalid literal for int() with base 10: " ++ Text.quote text
  | .longNumeral digits =>
    "Exceeds the limit (4300 digits) for integer string conversion: value has " ++
      Decimal.intText digits ++ " digits; use sys.set_int_max_str_digits() to increase the limit"
  | .dangling => "no such object"

/-- The report of a failure of configuration. -/
def report? (f : Failure) : Option Report :=
  match f with
  | .severityFlag b =>
    some ⟨.severity, f.wording, "INVALID_SEVERITY", [("value", .bool b)]⟩
  | .severityRank n =>
    some ⟨.severity, f.wording, "INVALID_SEVERITY", [("value", .int n)]⟩
  | .severityName v valid =>
    some ⟨.severity, f.wording, "INVALID_SEVERITY",
      [("value", v), ("valid", .list (valid.map .text))]⟩
  | .unknownZone name =>
    some ⟨.configuration, f.wording, "INVALID_TIME_ZONE", [("time_zone", .text name)]⟩
  | .notWritable v =>
    some ⟨.sink, f.wording, "SINK_NOT_WRITABLE", [("stream", .text v.literal)]⟩
  | _ => none

end Failure

end TextLog
