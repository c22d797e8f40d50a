import TextLog.Proofs.Settings.Agreement
import TextLog.Proofs.Settings.Precedence

/-!
# Settings Are Checked Once

Settings that were loaded pass their own checks and stay as they are.

Some checks change what they are given: levels and forms come out in one case, and
thresholds by their full name. A check is stable if it takes what it returned and leaves
it alone. All checks are, and the defaults pass them too, so that the settings that were
loaded, given as keywords, are loaded again. Keywords win over everything else, and
therefore it does not matter what the surroundings have become in the meantime.

## Main definitions

* `Stable`: A check takes what it returned and leaves it alone.
* `Sources.Gives`: Each check of given sources returns the value that settings have.

## Theorems

* `load_eq_ok_iff`: What is loaded is what the checks return.
* `stable_checkLogLevel`, `stable_checkLogFormat`, `stable_checkThreshold`: The checks that
  change what they are given.
* `load_toKeywords`: Settings are loaded again.
* `load_by_precedence`: The source that wins decides, and settings are loaded again.
-/

namespace TextLog

open Time

namespace Settings

/-! ### What is loaded -/

/-- Each check returns the value that the settings have. -/
structure Sources.Gives (s : Sources) (loaded : Settings) : Prop where
  appName : s.read "APP_NAME" checkText "heliumlog" = .ok loaded.appName
  appVersion : s.read "APP_VERSION" checkText "0.1.0" = .ok loaded.appVersion
  environment : s.read "ENVIRONMENT" checkText "development" = .ok loaded.environment
  debug : s.read "DEBUG" checkTruth false = .ok loaded.debug
  logLevel : s.read "LOG_LEVEL" checkLogLevel "WARNING" = .ok loaded.logLevel
  logFormat : s.read "LOG_FORMAT" checkLogFormat "text" = .ok loaded.logFormat
  threshold : s.read "THRESHOLD" checkThreshold "VERBOSE" = .ok loaded.threshold
  colored : s.read "COLORED" checkTruth false = .ok loaded.colored
  details : s.read "DETAILS" checkTruth true = .ok loaded.details
  fullFilePath : s.read "FULL_FILE_PATH" checkTruth false = .ok loaded.fullFilePath
  format : s.read "FORMAT" checkOptional none = .ok loaded.format
  dateFormat : s.read "DATE_FORMAT" checkOptional none = .ok loaded.dateFormat
  timeZone : s.checkedZone = .ok (.ok loaded.timeZone)

/-- A check that has no problem returns the value that is put in place. -/
theorem eq_ok_valueOr {α : Type} {field : String} {c : Checked α} (fallback : α)
    (h : problemOf field c = []) : c = .ok (valueOr fallback c) := by
  rcases (problemOf_eq_nil_iff field c).mp h with ⟨a, rfl⟩
  rfl

theorem Sources.gives_of_load {s : Sources} {loaded : Settings} (h : load s = .ok loaded) :
    s.Gives loaded := by
  rcases of_load_eq_ok h with ⟨zone, hzone, hnone, rfl⟩
  simp only [Sources.problems, Sources.problemsBefore, Sources.problemsBetween,
    List.append_eq_nil_iff] at hnone
  rcases hnone with ⟨⟨hname, hversion, henvironment, hdebug, hlevel, hform⟩, hthreshold,
    ⟨hcolored, hdetails, hpath, hformat, hdate⟩, hzoneName⟩
  exact
    { appName := eq_ok_valueOr _ hname
      appVersion := eq_ok_valueOr _ hversion
      environment := eq_ok_valueOr _ henvironment
      debug := eq_ok_valueOr _ hdebug
      logLevel := eq_ok_valueOr _ hlevel
      logFormat := eq_ok_valueOr _ hform
      threshold := eq_ok_valueOr _ hthreshold
      colored := eq_ok_valueOr _ hcolored
      details := eq_ok_valueOr _ hdetails
      fullFilePath := eq_ok_valueOr _ hpath
      format := eq_ok_valueOr _ hformat
      dateFormat := eq_ok_valueOr _ hdate
      timeZone := hzone.trans (congrArg Except.ok (eq_ok_valueOr _ hzoneName)) }

theorem Sources.Gives.load_eq {s : Sources} {loaded : Settings} (h : s.Gives loaded) :
    load s = .ok loaded := by
  rw [Settings.load_eq, h.timeZone]
  simp only [Sources.problems, Sources.problemsBefore, Sources.problemsBetween,
    Sources.settings, Sources.checkedThreshold, h.appName, h.appVersion, h.environment, h.debug,
    h.logLevel, h.logFormat, h.threshold, h.colored, h.details, h.fullFilePath, h.format,
    h.dateFormat]
  rfl

/-- What is loaded is what the checks return. -/
theorem load_eq_ok_iff {s : Sources} {loaded : Settings} :
    load s = .ok loaded ↔ s.Gives loaded :=
  ⟨Sources.gives_of_load, Sources.Gives.load_eq⟩

/-! ### Stable checks -/

/-- A check takes what it returned, written as a value, and leaves it alone. -/
def Stable {α : Type} (check : Value → Checked α) (write : α → Value) : Prop :=
  ∀ v a, check v = .ok a → check (write a) = .ok a

theorem stable_checkText : Stable checkText .text :=
  fun _ _ _ => rfl

theorem stable_checkTruth : Stable checkTruth .bool :=
  fun _ _ _ => rfl

theorem stable_checkOptional : Stable checkOptional Value.ofText? := by
  intro v a _
  cases a <;> rfl

theorem exists_text_of_checkText {v : Value} {α : Type} {next : String → Checked α} {a : α}
    (h : (checkText v).bind next = .ok a) : ∃ text, v = .text text ∧ next text = .ok a := by
  cases v with
  | text text => exact ⟨text, rfl, h⟩
  | _ => exact absurd h (by simp only [checkText, Except.bind, reduceCtorEq, not_false_eq_true])

/-- Levels are in capitals already. -/
theorem stable_checkLogLevel : Stable checkLogLevel .text := by
  intro v level h
  rcases exists_text_of_checkText h with ⟨text, _, hlevel⟩
  dsimp only at hlevel
  by_cases hknown : diagnosticLevels.contains (Text.upper text) = true
  · rw [if_pos hknown, Except.ok.injEq] at hlevel
    rw [hlevel, List.contains_iff_mem] at hknown
    simp only [diagnosticLevels, List.mem_cons, List.not_mem_nil, or_false] at hknown
    rcases hknown with rfl | rfl | rfl | rfl | rfl <;> rfl
  · rw [if_neg hknown] at hlevel
    exact absurd hlevel (by simp only [reduceCtorEq, not_false_eq_true])

/-- Forms are in small letters already. -/
theorem stable_checkLogFormat : Stable checkLogFormat .text := by
  intro v form h
  rcases exists_text_of_checkText h with ⟨text, _, hform⟩
  dsimp only at hform
  by_cases hknown : (Text.lower text = "text" || Text.lower text = "json") = true
  · rw [if_pos hknown, Except.ok.injEq] at hform
    rw [hform, Bool.or_eq_true, decide_eq_true_iff, decide_eq_true_iff] at hknown
    rcases hknown with rfl | rfl <;> rfl
  · rw [if_neg hknown] at hform
    exact absurd hform (by simp only [reduceCtorEq, not_false_eq_true])

/-- The full name of a severity is one of its names. -/
theorem stable_checkThreshold : Stable checkThreshold .text := by
  intro v threshold h
  rcases exists_severity_of_checkThreshold h with ⟨_, severity, _, _, rfl⟩
  exact checkThreshold_of_ok (Logger.parse_description severity)

/-- A zone that was looked up is looked up again. -/
theorem checkZone_of_checkedZone {s : Sources} {name : Option String}
    (h : s.checkedZone = .ok (.ok name)) : checkZone (Value.ofText? name) = .ok (.ok name) := by
  rcases exists_resolve_of_checkedZone h with ⟨zone, hzone⟩
  cases name with
  | none => rfl
  | some n => exact checkZone_of_ok hzone

/-! ### Loading again -/

/-- What a stable check returned, from a value or from the default, is read again. -/
theorem read_again {α : Type} {check : Value → Checked α} {write : α → Value}
    (hstable : Stable check write) {s t : Sources} {field : String} {fallback a : α}
    (h : s.read field check fallback = .ok a)
    (hdefault : check (write fallback) = .ok fallback)
    (hvalue : t.value? field = some (write a)) : t.read field check fallback = .ok a := by
  rw [Sources.read, hvalue]
  dsimp only
  rw [Sources.read] at h
  cases hgiven : s.value? field with
  | none =>
      rw [hgiven] at h
      rw [← Except.ok.inj h]
      exact hdefault
  | some v =>
      rw [hgiven] at h
      exact hstable v a h

/-- Settings that were loaded are loaded again when they are given as keywords, whatever is
    around them then. -/
theorem load_toKeywords {s : Sources} {loaded : Settings} (h : load s = .ok loaded)
    (environment : List (String × String)) (file : String) :
    load ⟨loaded.toKeywords, environment, file⟩ = .ok loaded := by
  rw [load_eq_ok_iff] at h ⊢
  exact
    { appName := read_again stable_checkText h.appName rfl rfl
      appVersion := read_again stable_checkText h.appVersion rfl rfl
      environment := read_again stable_checkText h.environment rfl rfl
      debug := read_again stable_checkTruth h.debug rfl rfl
      logLevel := read_again stable_checkLogLevel h.logLevel rfl rfl
      logFormat := read_again stable_checkLogFormat h.logFormat rfl rfl
      threshold := read_again stable_checkThreshold h.threshold rfl rfl
      colored := read_again stable_checkTruth h.colored rfl rfl
      details := read_again stable_checkTruth h.details rfl rfl
      fullFilePath := read_again stable_checkTruth h.fullFilePath rfl rfl
      format := read_again stable_checkOptional h.format rfl rfl
      dateFormat := read_again stable_checkOptional h.dateFormat rfl rfl
      timeZone := (Sources.checkedZone_of_some rfl).trans (checkZone_of_checkedZone h.timeZone) }

/-- The source that wins decides. What is loaded, be it settings or problems, is what is
    loaded of the winning values alone: of what keywords give to each setting, else the
    environment, else a plain file, else the default. So values that are shadowed may be
    added, removed or changed, and be invalid. And settings that were loaded are a fixed
    point: given as keywords they are loaded again, whatever is around them then. -/
theorem load_by_precedence :
    (∀ s : Sources, Bindings.IsPlainFile s.file → load s = load (.ofValues s.winning)) ∧
      (∀ s t : Sources, Bindings.IsPlainFile s.file → Bindings.IsPlainFile t.file →
        s.SameUnshadowed t → load s = load t) ∧
      ∀ (s : Sources) (loaded : Settings), load s = .ok loaded →
        ∀ (environment : List (String × String)) (file : String),
          load ⟨loaded.toKeywords, environment, file⟩ = .ok loaded :=
  ⟨fun _ hs => (load_ofValues hs).symm,
    fun _ _ hs ht hsame => load_congr hs ht fun _ => Sources.winning_congr hsame,
    fun _ _ => load_toKeywords⟩

/-- A keyword with blanks and in mixed case wins over a variable that names no severity,
    which in turn could be left out, and so could the line of the file that a variable
    shadows. -/
theorem load_by_precedence_shadowed :
    ∃ s t : Sources, ∃ loaded : Settings,
      s = ⟨[("THRESHOLD", .text " Warn ")], [("HELIUMLOG_LOG_LEVEL", "debug")],
        "HELIUMLOG_DEBUG=yes\n"⟩ ∧
      t = ⟨[("THRESHOLD", .text " Warn ")],
        [("HELIUMLOG_THRESHOLD", "loud"), ("HELIUMLOG_LOG_LEVEL", "debug")],
        "HELIUMLOG_LOG_LEVEL=quiet\nHELIUMLOG_DEBUG=yes\n"⟩ ∧
      loaded = { threshold := "WARNING", logLevel := "DEBUG", debug := true } ∧
      Bindings.IsPlainFile s.file ∧ Bindings.IsPlainFile t.file ∧ s.SameUnshadowed t ∧
      load s = .ok loaded ∧ load s = load (.ofValues s.winning) ∧ load s = load t ∧
      load ⟨loaded.toKeywords, [("HELIUMLOG_DEBUG", "maybe")], "HELIUMLOG_TIME_ZONE=Mars"⟩ =
        .ok loaded := by
  rcases show ∃ s t : Sources, ∃ loaded : Settings,
      s = ⟨[("THRESHOLD", .text " Warn ")], [("HELIUMLOG_LOG_LEVEL", "debug")],
        "HELIUMLOG_DEBUG=yes\n"⟩ ∧
      t = ⟨[("THRESHOLD", .text " Warn ")],
        [("HELIUMLOG_THRESHOLD", "loud"), ("HELIUMLOG_LOG_LEVEL", "debug")],
        "HELIUMLOG_LOG_LEVEL=quiet\nHELIUMLOG_DEBUG=yes\n"⟩ ∧
      loaded = { threshold := "WARNING", logLevel := "DEBUG", debug := true } ∧
      Bindings.IsPlainFile s.file ∧ Bindings.IsPlainFile t.file ∧ s.SameUnshadowed t ∧
      load s = .ok loaded from
    ⟨_, _, _, rfl, rfl, rfl, by decide, by decide, ⟨fun _ _ => rfl, by decide, by decide⟩, rfl⟩ with
    ⟨s, t, loaded, hs, ht, hloaded, hsplain, htplain, hsame, hload⟩
  exact ⟨s, t, loaded, hs, ht, hloaded, hsplain, htplain, hsame, hload,
    load_by_precedence.1 s hsplain, load_by_precedence.2.1 s t hsplain htplain hsame,
    load_by_precedence.2.2 s loaded hload _ _⟩

end Settings

end TextLog
