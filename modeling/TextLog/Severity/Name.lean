import TextLog.Severity
import TextLog.Failure
import TextLog.Text.Blank
import TextLog.Text.Case

/-!
# Names of Severities

Reading a severity from a dynamic value: an integer is a rank, everything else
is read by its text.

A text names a severity regardless of the blanks around it and of its case.
The names are the descriptions and three short forms. Truth values are refused
although they could be counted as numbers, and a text of digits is a name and
never a rank.

## Main definitions

* `Severity.names`: Each name with its severity.
* `Severity.ofName?`: The severity that a text names.
* `Severity.parse`: The severity that a value stands for.
-/

namespace TextLog

namespace Severity

/-- The names of the severities: the descriptions in lower case and the short
    forms. -/
def names : List (String × Severity) :=
  all.map (fun s => (Text.lower s.description, s)) ++
    [("warn", .warning), ("err", .error), ("fatal", .critical)]

/-- The names in alphabetical order, as they are listed in a report. -/
def sortedNames : List String :=
  (names.map Prod.fst).mergeSort fun a b => decide (a ≤ b)

/-- The severity that a text names. -/
def ofName? (s : String) : Option Severity :=
  names.lookup (Text.lower (Text.strip s))

/-- The severity that a value stands for. -/
def parse : Value → Except Failure Severity
  | .bool b => .error (.severityFlag b)
  | .int n =>
    match ofRank? n with
    | some s => .ok s
    | none => .error (.severityRank n)
  | v =>
    match ofName? v.toText with
    | some s => .ok s
    | none => .error (.severityName v sortedNames)

end Severity

end TextLog
