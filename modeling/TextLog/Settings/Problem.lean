/-!
# Problems of Settings

What is wrong with the value that a source gives to a setting.

## Main definitions

* `Problem`: The cause, with `Problem.code` and `Problem.wording`.
* `FieldProblem`: A cause together with the setting that has it.
-/

namespace TextLog

namespace Settings

/-- Why a value does not fit a setting. -/
inductive Problem where
  /-- A text or number that names no truth value. -/
  | notTruth
  /-- A value of a kind that cannot be a truth value. -/
  | truthKind
  /-- A value that is no text. -/
  | textKind
  /-- A text that the setting does not allow, with the reason. -/
  | refused (reason : String)
  deriving DecidableEq, Repr

/-- The identifier of a problem. -/
def Problem.code : Problem → String
  | .notTruth => "bool_parsing"
  | .truthKind => "bool_type"
  | .textKind => "string_type"
  | .refused _ => "value_error"

/-- What is said about a problem. -/
def Problem.wording : Problem → String
  | .notTruth => "Input should be a valid boolean, unable to interpret input"
  | .truthKind => "Input should be a valid boolean"
  | .textKind => "Input should be a valid string"
  | .refused reason => "Value error, " ++ reason

/-- A problem and the name of the setting that has it. -/
structure FieldProblem where
  field : String
  problem : Problem
  deriving DecidableEq, Repr

end Settings

end TextLog
