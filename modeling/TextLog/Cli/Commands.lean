import TextLog.Cli.Options
import TextLog.Console.Ansi
import TextLog.Console.Table
import TextLog.Metadata.Pairs
import TextLog.Session.Dispatch
import TextLog.Settings
import TextLog.Cli.Integer

/-!
# Commands

What the commands of the program do, as functions of their arguments and of the
surroundings.

A run ends with an exit code, what was printed, and perhaps a failure that
nothing handled. Arguments that cannot be read end a run with code two and print
nothing on the standard output; failures end it with code one. The settings are
read before the arguments of a command are, and settings that cannot be read end
every command.

A line that `template render` prints is freed of terminal sequences, because the
output is no terminal. `demo` writes its lines as they are.

## Main definitions

* `Surroundings`: What a run depends on beside its arguments.
* `Outcome`: How a run ends.
* `run`: A run of the program.
-/

namespace TextLog

namespace Cli

open Console Time

/-- What a run depends on beside its arguments: the environment, the text of the
    file of settings, and the time. -/
structure Surroundings where
  environment : List (String × String)
  file : String
  now : Moment

/-- How a run ends: the exit code, the standard output, and a failure that
    nothing handled. -/
structure Outcome where
  code : Nat
  output : String
  failure : Option Failure

/-- The characters with a line feed for each carriage return and line feed. -/
def unifyLineEnds : List Char → List Char
  | '\x0d' :: '\n' :: rest => '\n' :: unifyLineEnds rest
  | c :: rest => c :: unifyLineEnds rest
  | [] => []

namespace Outcome

/-- The output as a text, in which a line feed ends each line. -/
def text (o : Outcome) : String :=
  String.ofList (unifyLineEnds o.output.toList)

/-- A run that succeeds with an output. -/
def printed (output : String) : Outcome :=
  ⟨0, output, none⟩

/-- A run with arguments that cannot be read. -/
def usage : Outcome :=
  ⟨2, "", none⟩

/-- A run with a failure that nothing handles. -/
def failed (f : Failure) : Outcome :=
  ⟨1, "", some f⟩

/-- A run that prints what it computes, or fails. -/
def ofExcept : Except Failure String → Outcome
  | .ok output => printed output
  | .error f => failed f

end Outcome

/-- The settings of the surroundings. -/
def Surroundings.settings (s : Surroundings) : Except Failure Settings :=
  Settings.load ⟨[], s.environment, s.file⟩

/-- Prints a markup text on the console. -/
def printMarkup (markup : String) : Except Failure String :=
  (plain markup).map layOutText

/-- A line of markup about a failure. -/
def errorMarkup (message : String) : String :=
  "[red]Error: " ++ message ++ "[/red]"

/-- A run that ends with a line about a failure. -/
def complain (markup : String) : Outcome :=
  match printMarkup markup with
  | .ok output => ⟨1, output, none⟩
  | .error f => .failed f

/-- The table of versions. -/
def versionTable (s : Settings) : Table where
  title := "heliumlog Version Information"
  columns := [⟨"Component", false⟩, ⟨"Version", false⟩, ⟨"Environment", false⟩]
  rows := [["heliumlog", s.appVersion, s.environment],
    ["Python", "3.9+", "Required"],
    ["Threshold", s.threshold, "Default"]]

/-- Prints the table of versions. -/
def showVersion (s : Surroundings) : Outcome :=
  .ofExcept (s.settings.bind fun settings => (versionTable settings).render)

/-- The table of severities. -/
def levelsTable : Table where
  title := "Severities"
  columns := [⟨"Rank", true⟩, ⟨"Severity", false⟩, ⟨"Color", false⟩]
  rows := Severity.all.map fun s =>
    [Decimal.intText s.rank, s.description, s.color.name]

/-- Prints the table of severities. -/
def showLevels : Outcome :=
  .ofExcept levelsTable.render

/-- The row of a segment in the table of a template. -/
def segmentRow (index : Nat) : Segment → List String
  | .literal s => [Decimal.intText index, "literal", escape (Text.quote s)]
  | .token f => [Decimal.intText index, "token", escape (f.name ++ " " ++ f.placeholder)]

/-- The table of the segments of a template. -/
def templateTable (t : Template) : Table where
  title := "Template Segments"
  columns := [⟨"#", true⟩, ⟨"Kind", false⟩, ⟨"Value", false⟩]
  rows := t.segments.zipIdx.map fun p => segmentRow (p.2 + 1) p.1

/-- Prints the segments of a template. -/
def showTemplate (format : String) : Outcome :=
  let t := Template.ofText format
  .ofExcept (do
    let table ← (templateTable t).render
    .ok (table ++ Decimal.intText t.size ++ " segment(s), " ++ Decimal.intText t.fields.length ++
      " token(s)\n"))

/-- The place in the source that the lines of the demonstration show. -/
def demoSite : CallSite :=
  ⟨.text "demo", .int 124, .text "main.py"⟩

/-- One event of each severity through a dispatcher. -/
def demoActions (l : Logger) : Action Unit := do
  let id ← Action.addLogger l
  let _ ← Action.activate Session.defaultDispatcher .null (some id)
  for s in Severity.all do
    Action.dispatch Session.defaultDispatcher s
      (.text ("This is a " ++ Text.lower s.description ++ " message")) ⟨none, none, none⟩ 1
      [demoSite]

/-- The demonstration: one line for each severity that passes the threshold. -/
def demo (s : Surroundings) (threshold : Option String) (colored : Option Bool) : Outcome :=
  let made : Except Failure Logger := do
    let settings ← s.settings
    let l ← settings.logger .stdout
    match threshold with
    | some t => (Severity.parse (.text t)).map fun severity => { l with threshold := severity }
    | none => .ok l
  match made with
  | .error f =>
    match f.report? with
    | some report => complain (errorMarkup report.message)
    | none => .failed f
  | .ok l =>
    let l := match colored with
      | some c => { l with colored := .bool c }
      | none => l
    let (result, session) := (demoActions l).run.run (Session.start s.now false)
    match result with
    | .ok () => .printed session.stdout.shown
    | .error f => ⟨1, session.stdout.shown, some f⟩

/-- What a line is to be rendered from. -/
structure RenderRequest where
  message : String
  level : String
  options : LoggerOptions
  file : String
  function : String
  line : Int
  pairs : List String

/-- The line of a request, as the logger makes it now. -/
def RenderRequest.lineOf (r : RenderRequest) (now : Moment) (metadata : Metadata)
    (severity : Severity) (l : Logger) : Except Failure String :=
  l.formatEvent (.present now) (Event.plain severity r.message r.function r.line r.file)
    metadata.pretty .null

/-- Renders a line and prints it without terminal sequences. -/
def render (s : Surroundings) (r : RenderRequest) : Outcome :=
  match Metadata.ofPairs? r.pairs with
  | none => .usage
  | some metadata =>
    let made : Except Failure (Severity × Logger) := do
      let severity ← Severity.parse (.text r.level)
      let l ← Logger.ofOptions .entry (.memory ⟨0⟩) r.options
      .ok (severity, l)
    match made with
    | .error f =>
      match f.report? with
      | some report => complain (errorMarkup (escape report.message))
      | none => .failed f
    | .ok (severity, l) =>
      .ofExcept ((r.lineOf s.now metadata severity l).map fun line => stripAnsi (line ++ "\n"))

/-- An option without a value. -/
def switch (names : List String) : OptionSpec :=
  ⟨names, false⟩

/-- An option with a value. -/
def valued (names : List String) : OptionSpec :=
  ⟨names, true⟩

/-- The option that every command has. -/
def helpOption : OptionSpec :=
  switch ["--help"]

/-- The options of the program itself. -/
def mainOptions : List OptionSpec :=
  [helpOption, switch ["--verbose", "-v"], switch ["--version"]]

/-- The options of the demonstration. -/
def demoOptions : List OptionSpec :=
  [helpOption, valued ["--threshold", "-t"], switch ["--colored"], switch ["--plain"]]

/-- The options of rendering. -/
def renderOptions : List OptionSpec :=
  [helpOption, valued ["--level", "-l"], valued ["--format", "-f"], switch ["--colored"],
   switch ["--plain"], switch ["--details"], switch ["--short"], switch ["--full-path"],
   valued ["--date-format"], valued ["--time-zone", "-z"], valued ["--file"],
   valued ["--function"], valued ["--line"], valued ["--meta", "-m"]]

/-- The request that the arguments of rendering make. -/
def readRequest? (a : Arguments) : Option RenderRequest := do
  let line ← match a.value? "--line" with
    | some t => readInteger? t
    | none => some 1
  match a.positional with
  | [message] =>
    return { message := message
             level := (a.value? "--level").getD "info"
             options :=
               { colored := .bool ((a.choice? "--colored" "--plain").getD false)
                 details := .bool ((a.choice? "--details" "--short").getD true)
                 fullFilePath := .bool (a.has "--full-path")
                 format := Value.ofText? (a.value? "--format")
                 dateFormat := Value.ofText? (a.value? "--date-format")
                 timeZone := ZoneSetting.ofName? (a.value? "--time-zone") }
             file := (a.value? "--file").getD "app/main.py"
             function := (a.value? "--function").getD "main()"
             line := line
             pairs := a.values "--meta" }
  | _ => none

/-- A command with its arguments read. Asking for help prints a help screen,
    whose text is not part of the standard behaviour. -/
def withArguments (specs : List OptionSpec) (mixed : Bool) (args : List String)
    (go : Arguments → Outcome) : Outcome :=
  match Arguments.read specs mixed args with
  | none => .usage
  | some a => if a.has "--help" then .printed "" else go a

/-- A command without arguments. -/
def withoutArguments (args : List String) (go : Outcome) : Outcome :=
  withArguments [helpOption] true args fun a => if a.positional.isEmpty then go else .usage

/-- The commands on templates. -/
def runTemplate (s : Surroundings) (args : List String) : Outcome :=
  withArguments [helpOption] false args fun a =>
    match a.positional with
    | "parse" :: rest =>
      withArguments [helpOption] true rest fun a =>
        match a.positional with
        | [format] => showTemplate format
        | _ => .usage
    | "render" :: rest =>
      withArguments renderOptions true rest fun a =>
        match readRequest? a with
        | some r => render s r
        | none => .usage
    | _ => .usage

/-- The command of a name. -/
def command? (s : Surroundings) (name : String) : Option (List String → Outcome) :=
  match name with
  | "version" => some fun args => withoutArguments args (showVersion s)
  | "levels" => some fun args => withoutArguments args showLevels
  | "demo" => some fun args => withArguments demoOptions true args fun a =>
      if a.positional.isEmpty then
        demo s (a.value? "--threshold") (a.choice? "--colored" "--plain")
      else .usage
  | "template" => some (runTemplate s)
  | _ => none

/-- A run of the program. -/
def run (s : Surroundings) (args : List String) : Outcome :=
  withArguments mainOptions false args fun a =>
    if a.has "--version" then showVersion s
    else
      match a.positional with
      | [] => .usage
      | name :: rest =>
        match command? s name with
        | none => .usage
        | some go =>
          -- The settings come after the name of the command and before its arguments.
          match s.settings with
          | .ok _ => go rest
          | .error f => .failed f

end Cli

end TextLog
