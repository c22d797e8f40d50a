/-!
# Severities

The closed, ordered set of severities of log events.

Each severity has a rank, and filtering compares ranks: an event passes a
threshold when its rank is at least that of the threshold. `entry` and `exit`
mark the entry and the exit of a function and lie below everything else, so the
threshold `entry` lets every event through.

## Main definitions

* `Severity`: A severity, with `rank`, `description` and `color`.
* `Severity.passes`: A severity passes a threshold.
* `Color`: The terminal colors, with their names and codes.
-/

namespace TextLog

/-- A color of the terminal, switched on by an escape sequence. -/
inductive Color where
  | white
  | red
  | yellow
  | foreground
  | background
  deriving DecidableEq, Repr

namespace Color

/-- The name of a color. -/
def name : Color → String
  | .white => "WHITE"
  | .red => "RED"
  | .yellow => "YELLOW"
  | .foreground => "FOREGROUND"
  | .background => "BACKGROUND"

/-- The escape sequence that switches to a color. -/
def code : Color → String
  | .white => "\x1b[0;37m"
  | .red => "\x1b[0;31m"
  | .yellow => "\x1b[0;33m"
  | .foreground => "\x1b[0;39m"
  | .background => "\x1b[0;49m"

end Color

/-- The severity of an event, from the least to the most severe. -/
inductive Severity where
  | entry
  | exit
  | trace
  | debug
  | verbose
  | info
  | notice
  | warning
  | error
  | critical
  deriving DecidableEq, Repr, Inhabited

namespace Severity

/-- All severities in order of rank. -/
def all : List Severity :=
  [.entry, .exit, .trace, .debug, .verbose, .info, .notice, .warning, .error, .critical]

/-- The place of a severity in the order, counted from one. -/
def rank : Severity → Nat
  | .entry => 1
  | .exit => 2
  | .trace => 3
  | .debug => 4
  | .verbose => 5
  | .info => 6
  | .notice => 7
  | .warning => 8
  | .error => 9
  | .critical => 10

/-- The label of a severity in a line. -/
def description : Severity → String
  | .entry => "ENTRY"
  | .exit => "EXIT"
  | .trace => "TRACE"
  | .debug => "DEBUG"
  | .verbose => "VERBOSE"
  | .info => "INFO"
  | .notice => "NOTICE"
  | .warning => "WARNING"
  | .error => "ERROR"
  | .critical => "CRITICAL"

/-- The color of the lines of a severity. Warnings are yellow, errors red, and
    the rest keeps the default foreground. -/
def color : Severity → Color
  | .warning => .yellow
  | .error => .red
  | .critical => .red
  | _ => .foreground

/-- An event of this severity passes a threshold. -/
def passes (level threshold : Severity) : Bool :=
  threshold.rank ≤ level.rank

/-- The severity of a given rank. -/
def ofRank? (n : Int) : Option Severity :=
  all.find? fun s => (s.rank : Int) == n

/-- The severity of a given description. -/
def ofDescription? (name : String) : Option Severity :=
  all.find? fun s => s.description == name

end Severity

end TextLog
