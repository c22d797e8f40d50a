import TextLog.Settings

/-!
# The Checks of Settings

Loading settings is checking each of them and putting the values together.

All settings but the zone are checked on their own; the check of the zone may fail in
a way that is no problem of the settings, and then nothing is loaded. Otherwise the
problems of all settings are collected in their order, and there are settings if and
only if there are none. What is checked is the value of the first source that has
one, so that sources which agree on these values are loaded alike.

## Main definitions

* `Sources.checkedZone`: The check of the zone.
* `Sources.problemsBefore`, `Sources.problemsBetween`: The problems of the settings
  around threshold and zone.
* `Sources.settings`: The checked values put together.
* `Sources.OthersValid`: The settings but for threshold and zone are valid.

## Theorems

* `load_eq`: Loading in terms of the checks.
* `problemOf_eq_nil_iff`: Settings without a problem.
* `problems_of_othersValid`: Threshold and zone are all that can be wrong.
-/

namespace TextLog

open Time

namespace Settings

namespace Sources

/-- The check of the zone. -/
def checkedZone (s : Sources) : Except Failure (Checked (Option String)) :=
  match s.value? "TIME_ZONE" with
  | some v => checkZone v
  | none => .ok (.ok none)

/-- The check of the threshold. -/
def checkedThreshold (s : Sources) : Checked String :=
  s.read "THRESHOLD" checkThreshold "VERBOSE"

theorem checkedZone_of_some {s : Sources} {v : Value} (h : s.value? "TIME_ZONE" = some v) :
    s.checkedZone = checkZone v := by
  rw [checkedZone, h]

theorem checkedZone_of_none {s : Sources} (h : s.value? "TIME_ZONE" = none) :
    s.checkedZone = .ok (.ok none) := by
  rw [checkedZone, h]

theorem checkedThreshold_of_some {s : Sources} {v : Value} (h : s.value? "THRESHOLD" = some v) :
    s.checkedThreshold = checkThreshold v := by
  rw [checkedThreshold, read, h]

theorem checkedThreshold_of_none {s : Sources} (h : s.value? "THRESHOLD" = none) :
    s.checkedThreshold = .ok "VERBOSE" := by
  rw [checkedThreshold, read, h]

/-- The problems of the settings before the threshold. -/
def problemsBefore (s : Sources) : List FieldProblem :=
  problemOf "APP_NAME" (s.read "APP_NAME" checkText "heliumlog") ++
    (problemOf "APP_VERSION" (s.read "APP_VERSION" checkText "0.1.0") ++
    (problemOf "ENVIRONMENT" (s.read "ENVIRONMENT" checkText "development") ++
    (problemOf "DEBUG" (s.read "DEBUG" checkTruth false) ++
    (problemOf "LOG_LEVEL" (s.read "LOG_LEVEL" checkLogLevel "WARNING") ++
      problemOf "LOG_FORMAT" (s.read "LOG_FORMAT" checkLogFormat "text")))))

/-- The problems of the settings between threshold and zone. -/
def problemsBetween (s : Sources) : List FieldProblem :=
  problemOf "COLORED" (s.read "COLORED" checkTruth false) ++
    (problemOf "DETAILS" (s.read "DETAILS" checkTruth true) ++
    (problemOf "FULL_FILE_PATH" (s.read "FULL_FILE_PATH" checkTruth false) ++
    (problemOf "FORMAT" (s.read "FORMAT" checkOptional none) ++
      problemOf "DATE_FORMAT" (s.read "DATE_FORMAT" checkOptional none))))

/-- The problems of all settings, in their order. -/
def problems (s : Sources) (zone : Checked (Option String)) : List FieldProblem :=
  s.problemsBefore ++ (problemOf "THRESHOLD" s.checkedThreshold ++
    (s.problemsBetween ++ problemOf "TIME_ZONE" zone))

/-- The checked values put together, defaults in place of problems. -/
def settings (s : Sources) (zone : Checked (Option String)) : Settings where
  appName := valueOr "heliumlog" (s.read "APP_NAME" checkText "heliumlog")
  appVersion := valueOr "0.1.0" (s.read "APP_VERSION" checkText "0.1.0")
  environment := valueOr "development" (s.read "ENVIRONMENT" checkText "development")
  debug := valueOr false (s.read "DEBUG" checkTruth false)
  logLevel := valueOr "WARNING" (s.read "LOG_LEVEL" checkLogLevel "WARNING")
  logFormat := valueOr "text" (s.read "LOG_FORMAT" checkLogFormat "text")
  threshold := valueOr "VERBOSE" s.checkedThreshold
  colored := valueOr false (s.read "COLORED" checkTruth false)
  details := valueOr true (s.read "DETAILS" checkTruth true)
  fullFilePath := valueOr false (s.read "FULL_FILE_PATH" checkTruth false)
  format := valueOr none (s.read "FORMAT" checkOptional none)
  dateFormat := valueOr none (s.read "DATE_FORMAT" checkOptional none)
  timeZone := valueOr none zone

/-- The settings but for threshold and zone are valid: with other values for these two
    they are loaded. -/
def OthersValid (s : Sources) : Prop :=
  ∃ (valid : Sources) (loaded : Settings), load valid = .ok loaded ∧
    ∀ field, field ∉ ["THRESHOLD", "TIME_ZONE"] → s.value? field = valid.value? field

end Sources

/-- Loading in terms of the checks. -/
theorem load_eq (s : Sources) :
    load s = s.checkedZone.bind fun zone =>
      if (s.problems zone).isEmpty then .ok (s.settings zone)
      else .error (.settings (s.problems zone)) := by
  rw [load, Sources.checkedZone]
  simp only [Sources.problems, Sources.problemsBefore, Sources.problemsBetween, List.append_assoc]
  cases s.value? "TIME_ZONE" <;> rfl

theorem problemOf_eq_nil_iff {α : Type} (field : String) (c : Checked α) :
    problemOf field c = [] ↔ ∃ a, c = .ok a := by
  cases c with
  | ok a => simp only [problemOf, Except.ok.injEq, exists_eq']
  | error p => simp only [problemOf, List.cons_ne_nil, reduceCtorEq, exists_false]

/-- Settings that are loaded have no problems. -/
theorem of_load_eq_ok {s : Sources} {loaded : Settings} (h : load s = .ok loaded) :
    ∃ zone, s.checkedZone = .ok zone ∧ s.problems zone = [] ∧ loaded = s.settings zone := by
  rw [load_eq] at h
  rcases hzone : s.checkedZone with failure | zone
  · rw [hzone] at h
    exact absurd h (by simp only [Except.bind, reduceCtorEq, not_false_eq_true])
  · rw [hzone] at h
    simp only [Except.bind] at h
    by_cases hempty : (s.problems zone).isEmpty = true
    · rw [if_pos hempty, Except.ok.injEq] at h
      exact ⟨zone, rfl, List.isEmpty_iff.mp hempty, h.symm⟩
    · rw [if_neg hempty] at h
      exact absurd h (by simp only [reduceCtorEq, not_false_eq_true])

/-- What is checked is the value of the first source that has one. -/
theorem read_congr {α : Type} {s t : Sources} {field : String}
    (h : s.value? field = t.value? field) (check : Value → Checked α) (fallback : α) :
    s.read field check fallback = t.read field check fallback := by
  rw [Sources.read, Sources.read, h]

/-- Where the other settings are valid, threshold and zone are all that can be wrong. -/
theorem problems_of_othersValid {s : Sources} (hs : s.OthersValid)
    (zone : Checked (Option String)) :
    s.problems zone = problemOf "THRESHOLD" s.checkedThreshold ++ problemOf "TIME_ZONE" zone := by
  rcases hs with ⟨valid, loaded, hload, hsame⟩
  rcases of_load_eq_ok hload with ⟨_, _, hnone, _⟩
  rw [Sources.problems, List.append_eq_nil_iff, List.append_eq_nil_iff, List.append_eq_nil_iff]
    at hnone
  have hbefore : s.problemsBefore = valid.problemsBefore := by
    simp only [Sources.problemsBefore]
    rw [read_congr (hsame "APP_NAME" (by decide)), read_congr (hsame "APP_VERSION" (by decide)),
      read_congr (hsame "ENVIRONMENT" (by decide)), read_congr (hsame "DEBUG" (by decide)),
      read_congr (hsame "LOG_LEVEL" (by decide)), read_congr (hsame "LOG_FORMAT" (by decide))]
  have hbetween : s.problemsBetween = valid.problemsBetween := by
    simp only [Sources.problemsBetween]
    rw [read_congr (hsame "COLORED" (by decide)), read_congr (hsame "DETAILS" (by decide)),
      read_congr (hsame "FULL_FILE_PATH" (by decide)), read_congr (hsame "FORMAT" (by decide)),
      read_congr (hsame "DATE_FORMAT" (by decide))]
  rw [Sources.problems, hbefore, hbetween, hnone.1, hnone.2.2.1, List.nil_append, List.nil_append]

end Settings

end TextLog
