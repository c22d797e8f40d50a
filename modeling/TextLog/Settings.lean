import TextLog.Settings.Bindings
import TextLog.Logger

/-!
# Settings

The defaults of loggers and of the library's own diagnostics, as they are given
by the surroundings of a program.

A setting takes its value from the first source that has one: a keyword, the
environment, a file of bindings, and last its default. The values of the
sources are then checked, setting by setting; all problems are collected. In
the environment and in the file the names carry a common lead-in. Names that
are not known are ignored, and case counts.

## Main definitions

* `Settings`: The settings.
* `Settings.Sources`: Where values come from.
* `Settings.load`: The settings of given sources.
* `Settings.toKeywords`: The settings as keywords.
* `Settings.logger`: The logger of the settings.
* `Settings.diagnostics`: How the library's own diagnostics are set up.
-/

namespace TextLog

open Time

/-- The settings of a program. -/
structure Settings where
  appName : String := "heliumlog"
  appVersion : String := "0.1.0"
  environment : String := "development"
  debug : Bool := false
  logLevel : String := "WARNING"
  logFormat : String := "text"
  threshold : String := "VERBOSE"
  colored : Bool := false
  details : Bool := true
  fullFilePath : Bool := false
  format : Option String := none
  dateFormat : Option String := none
  timeZone : Option String := none
  deriving DecidableEq, Repr

namespace Settings

/-- The settings as named values, in order. -/
def toKeywords (s : Settings) : Metadata :=
  let optional : Option String → Value := fun
    | some t => .text t
    | none => .null
  [("APP_NAME", .text s.appName), ("APP_VERSION", .text s.appVersion),
   ("ENVIRONMENT", .text s.environment), ("DEBUG", .bool s.debug),
   ("LOG_LEVEL", .text s.logLevel), ("LOG_FORMAT", .text s.logFormat),
   ("THRESHOLD", .text s.threshold), ("COLORED", .bool s.colored),
   ("DETAILS", .bool s.details), ("FULL_FILE_PATH", .bool s.fullFilePath),
   ("FORMAT", optional s.format), ("DATE_FORMAT", optional s.dateFormat),
   ("TIME_ZONE", optional s.timeZone)]

/-- Where the values of settings come from. -/
structure Sources where
  keywords : Metadata
  environment : List (String × String)
  file : String

/-- What the names of settings start with outside the program. -/
def leadIn : String := "HELIUMLOG_"

/-- The value of a setting from the first source that has one. -/
def Sources.value? (s : Sources) (field : String) : Option Value :=
  match Metadata.get? s.keywords field with
  | some v => some v
  | none =>
    match s.environment.lookup (leadIn ++ field) with
    | some t => some (.text t)
    | none =>
      let bindings := Bindings.resolve s.environment (Bindings.ofText s.file)
      (Bindings.value? bindings (leadIn ++ field)).map .text

/-- A checked value, or what is wrong with it. -/
abbrev Checked := Except Problem

/-- The words for true. -/
def trueWords : List String := ["1", "on", "t", "true", "y", "yes"]

/-- The words for false. -/
def falseWords : List String := ["0", "off", "f", "false", "n", "no"]

/-- The truth value of an integer. One that needs more than 64 bits is of the
    wrong kind. -/
def truthOfInteger (n : Int) : Checked Bool :=
  if n < -(Decimal.powTwo 63 : Int) || (Decimal.powTwo 63 : Int) ≤ n then .error .truthKind
  else if n = 1 then .ok true
  else if n = 0 then .ok false
  else .error .notTruth

/-- The truth value that a value stands for. A number with a fraction is read as
    an integer if it is whole. -/
def checkTruth : Value → Checked Bool
  | .bool b => .ok b
  | .text s =>
    let word := Text.lower s
    if trueWords.contains word then .ok true
    else if falseWords.contains word then .ok false
    else .error .notTruth
  | .int n => truthOfInteger n
  | .float (.finite negative mantissa exponent) =>
    let r := Binary64.ratioOf mantissa exponent
    let n := Binary64.truncate negative mantissa exponent
    -- The least integer of 64 bits is not read from a number with a fraction.
    if r.1 % r.2 = 0 && n != -(Decimal.powTwo 63 : Int) then truthOfInteger n
    else .error .truthKind
  | _ => .error .truthKind

/-- A text. -/
def checkText : Value → Checked String
  | .text s => .ok s
  | _ => .error .textKind

/-- A text or nothing. -/
def checkOptional : Value → Checked (Option String)
  | .null => .ok none
  | v => (checkText v).map some

/-- The names of the levels of diagnostics. -/
def diagnosticLevels : List String :=
  ["DEBUG", "INFO", "WARNING", "ERROR", "CRITICAL"]

/-- The level of diagnostics, in capitals. -/
def checkLogLevel (v : Value) : Checked String :=
  (checkText v).bind fun s =>
    let level := Text.upper s
    if diagnosticLevels.contains level then .ok level
    else .error (.refused ("LOG_LEVEL must be one of: " ++
      (Value.list (diagnosticLevels.map .text)).literal))

/-- The form of diagnostics, in small letters. -/
def checkLogFormat (v : Value) : Checked String :=
  (checkText v).bind fun s =>
    let form := Text.lower s
    if form = "text" || form = "json" then .ok form
    else .error (.refused "LOG_FORMAT must be 'text' or 'json'")

/-- The description of the severity that a text names. -/
def checkThreshold (v : Value) : Checked String :=
  (checkText v).bind fun s =>
    match Severity.parse (.text s) with
    | .ok severity => .ok severity.description
    | .error f => .error (.refused f.wording)

/-- What looking a zone up amounts to: the name, a problem, or a failure that is
    not a problem of the settings. -/
def checkZone (v : Value) : Except Failure (Checked (Option String)) :=
  match checkOptional v with
  | .error p => .ok (.error p)
  | .ok none => .ok (.ok none)
  | .ok (some name) =>
    match ZoneSetting.lookUp name with
    | .ok _ => .ok (.ok (some name))
    | .error (.unknownZone n) => .ok (.error (.refused (Failure.unknownZone n).wording))
    | .error f => .error f

/-- The checked value of a setting, or its default if no source has one. -/
def Sources.read {α : Type} (s : Sources) (field : String) (check : Value → Checked α)
    (fallback : α) : Checked α :=
  match s.value? field with
  | some v => check v
  | none => .ok fallback

/-- The problem of a setting, if it has one. -/
def problemOf {α : Type} (field : String) : Checked α → List FieldProblem
  | .ok _ => []
  | .error p => [⟨field, p⟩]

/-- A checked value, or the default in place of a problem. -/
def valueOr {α : Type} (fallback : α) : Checked α → α
  | .ok a => a
  | .error _ => fallback

/-- The settings of given sources. Their problems are listed in the order of
    the settings. -/
def load (s : Sources) : Except Failure Settings := do
  let d : Settings := {}
  let appName := s.read "APP_NAME" checkText d.appName
  let appVersion := s.read "APP_VERSION" checkText d.appVersion
  let environment := s.read "ENVIRONMENT" checkText d.environment
  let debug := s.read "DEBUG" checkTruth d.debug
  let logLevel := s.read "LOG_LEVEL" checkLogLevel d.logLevel
  let logFormat := s.read "LOG_FORMAT" checkLogFormat d.logFormat
  let threshold := s.read "THRESHOLD" checkThreshold d.threshold
  let colored := s.read "COLORED" checkTruth d.colored
  let details := s.read "DETAILS" checkTruth d.details
  let fullFilePath := s.read "FULL_FILE_PATH" checkTruth d.fullFilePath
  let format := s.read "FORMAT" checkOptional d.format
  let dateFormat := s.read "DATE_FORMAT" checkOptional d.dateFormat
  let timeZone ← match s.value? "TIME_ZONE" with
    | some v => checkZone v
    | none => .ok (.ok d.timeZone)
  let problems :=
    problemOf "APP_NAME" appName ++ problemOf "APP_VERSION" appVersion ++
      problemOf "ENVIRONMENT" environment ++ problemOf "DEBUG" debug ++
      problemOf "LOG_LEVEL" logLevel ++ problemOf "LOG_FORMAT" logFormat ++
      problemOf "THRESHOLD" threshold ++ problemOf "COLORED" colored ++
      problemOf "DETAILS" details ++ problemOf "FULL_FILE_PATH" fullFilePath ++
      problemOf "FORMAT" format ++ problemOf "DATE_FORMAT" dateFormat ++
      problemOf "TIME_ZONE" timeZone
  if problems.isEmpty then
    .ok { appName := valueOr d.appName appName
          appVersion := valueOr d.appVersion appVersion
          environment := valueOr d.environment environment
          debug := valueOr d.debug debug
          logLevel := valueOr d.logLevel logLevel
          logFormat := valueOr d.logFormat logFormat
          threshold := valueOr d.threshold threshold
          colored := valueOr d.colored colored
          details := valueOr d.details details
          fullFilePath := valueOr d.fullFilePath fullFilePath
          format := valueOr d.format format
          dateFormat := valueOr d.dateFormat dateFormat
          timeZone := valueOr d.timeZone timeZone }
  else .error (.settings problems)

/-- The configuration of a logger that the settings give. -/
def options (s : Settings) : LoggerOptions where
  colored := .bool s.colored
  details := .bool s.details
  fullFilePath := .bool s.fullFilePath
  format := Value.ofText? s.format
  dateFormat := Value.ofText? s.dateFormat
  timeZone := ZoneSetting.ofName? s.timeZone

/-- The logger of the settings. -/
def logger (s : Settings) (sink : Sink) : Except Failure Logger :=
  Logger.make (.text s.threshold) sink s.options

/-- How the library's own diagnostics are set up: the numeric level, the handler
    that shows them and the stages that they pass. -/
structure DiagnosticsSetup where
  level : Nat
  handler : String
  stages : List String
  source : String
  deriving DecidableEq, Repr

/-- The number of a level of diagnostics. -/
def levelNumber (name : String) : Nat :=
  (([("DEBUG", 10), ("INFO", 20), ("WARNING", 30), ("ERROR", 40), ("CRITICAL", 50)] :
    List (String × Nat)).lookup name).getD 0

/-- The stages that diagnostics pass before they are shown. -/
def commonStages : List String :=
  ["filter_by_level", "add_logger_name", "add_log_level", "PositionalArgumentsFormatter",
   "TimeStamper", "StackInfoRenderer", "ExceptionRenderer", "UnicodeDecoder"]

/-- The set-up of diagnostics. A developer sees them in a rich form. -/
def diagnostics (s : Settings) : DiagnosticsSetup where
  level := levelNumber s.logLevel
  handler := if s.debug || s.environment = "development" then "RichHandler" else "StreamHandler"
  stages := commonStages ++ [if s.logFormat = "json" then "JSONRenderer" else "ConsoleRenderer"]
  source := "LoggerFactory"

end Settings

end TextLog
