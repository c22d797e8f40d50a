import TextLog.Proofs.Session.Refusal
import TextLog.Proofs.Settings.Checks
import TextLog.Proofs.Time.ZoneName

/-!
# Settings and Loggers Agree

A threshold and a zone that settings take are those that a logger takes.

Both are checked twice: when the settings are loaded, and by the logger that is made of
them. The settings keep the threshold by its full name and the logger reads it again,
so that a text with blanks, in other letters or in a short form has to mean the same
both times. It does, and the logger of settings that were loaded is the one that the
text itself would have given. In the other direction, what a logger refuses of the two
is what is reported as a problem of the settings, setting by setting and in the words
of the logger. Only the name of a group of zones is refused without a report.

## Main definitions

* `rejection`: The problem of a setting whose value a logger refuses.

## Theorems

* `exists_logger_of_load`: The logger of settings that were loaded.
* `problemOf_threshold_eq_rejection`, `problemOf_zone_eq_rejection`: The problems of
  threshold and zone.
* `settings_agree_with_logger`: Settings and loggers take the same.
-/

namespace TextLog

open Time

namespace Settings

/-! ### The two checks -/

theorem checkThreshold_of_ok {t : String} {severity : Severity}
    (h : Severity.parse (.text t) = .ok severity) :
    checkThreshold (.text t) = .ok severity.description := by
  simp only [checkThreshold, checkText, Except.bind, h]

theorem checkThreshold_of_error {t : String} {failure : Failure}
    (h : Severity.parse (.text t) = .error failure) :
    checkThreshold (.text t) = .error (.refused failure.wording) := by
  simp only [checkThreshold, checkText, Except.bind, h]

/-- What passes the check of the threshold names a severity, whose full name is kept. -/
theorem exists_severity_of_checkThreshold {v : Value} {threshold : String}
    (h : checkThreshold v = .ok threshold) :
    ∃ raw severity, v = .text raw ∧ Severity.parse (.text raw) = .ok severity ∧
      threshold = severity.description := by
  cases v with
  | text raw =>
      rcases hparse : Severity.parse (.text raw) with failure | severity
      · rw [checkThreshold_of_error hparse] at h
        exact absurd h (by simp only [reduceCtorEq, not_false_eq_true])
      · rw [checkThreshold_of_ok hparse, Except.ok.injEq] at h
        exact ⟨raw, severity, rfl, hparse, h.symm⟩
  | _ => exact absurd h (by simp only [checkThreshold, checkText, Except.bind, reduceCtorEq,
      not_false_eq_true])

theorem checkZone_of_ok {n : String} {zone : Zone} (h : ZoneSetting.lookUp n = .ok zone) :
    checkZone (.text n) = .ok (.ok (some n)) := by
  simp only [checkZone, checkOptional, checkText, Except.map, h]

theorem checkZone_of_unknown {n : String} (h : ZoneSetting.lookUp n = .error (.unknownZone n)) :
    checkZone (.text n) = .ok (.error (.refused (Failure.unknownZone n).wording)) := by
  simp only [checkZone, checkOptional, checkText, Except.map, h]

theorem checkZone_of_directory {n : String}
    (h : ZoneSetting.lookUp n = .error (.zoneDirectory n)) :
    checkZone (.text n) = .error (.zoneDirectory n) := by
  simp only [checkZone, checkOptional, checkText, Except.map, h]

/-! ### Settings that were loaded -/

/-- The threshold of settings is the full name of the severity that the text which won
    names. -/
theorem exists_severity_of_checkedThreshold {s : Sources} {threshold : String}
    (h : s.checkedThreshold = .ok threshold) :
    ∃ raw severity, (s.value? "THRESHOLD").getD (.text "VERBOSE") = .text raw ∧
      Severity.parse (.text raw) = .ok severity ∧ threshold = severity.description := by
  cases hv : s.value? "THRESHOLD" with
  | none =>
      -- The default is the full name of a severity.
      rw [Sources.checkedThreshold_of_none hv] at h
      exact ⟨"VERBOSE", .verbose, rfl, Logger.parse_description .verbose, (Except.ok.inj h).symm⟩
  | some v =>
      rw [Sources.checkedThreshold_of_some hv] at h
      exact exists_severity_of_checkThreshold h

/-- The zone of settings is none, or that of a name which there is. -/
theorem exists_resolve_of_checkedZone {s : Sources} {name : Option String}
    (h : s.checkedZone = .ok (.ok name)) :
    ∃ zone, (ZoneSetting.ofName? name).resolve = .ok zone := by
  cases hv : s.value? "TIME_ZONE" with
  | none =>
      rw [Sources.checkedZone_of_none hv, Except.ok.injEq, Except.ok.injEq] at h
      exact ⟨.home, h ▸ rfl⟩
  | some v =>
      rw [Sources.checkedZone_of_some hv] at h
      cases v with
      | null =>
          simp only [checkZone, checkOptional, Except.ok.injEq] at h
          exact ⟨.home, h ▸ rfl⟩
      | text n =>
          rcases ZoneSetting.lookUp_cases n with ⟨zone, _, hfound, _⟩ | ⟨hunknown, _⟩ |
            ⟨hdirectory, _⟩
          · rw [checkZone_of_ok hfound, Except.ok.injEq, Except.ok.injEq] at h
            rw [← h]
            exact ⟨_, hfound⟩
          · rw [checkZone_of_unknown hunknown] at h
            exact absurd h (by simp only [Except.ok.injEq, reduceCtorEq, not_false_eq_true])
          · rw [checkZone_of_directory hdirectory] at h
            exact absurd h (by simp only [reduceCtorEq, not_false_eq_true])
      | _ => exact absurd h (by simp only [checkZone, checkOptional, checkText, Except.map,
          Except.ok.injEq, reduceCtorEq, not_false_eq_true])

/-- The logger of settings that were loaded is the one that the text which won gives in
    place of the threshold. -/
theorem exists_logger_of_load {s : Sources} {loaded : Settings} (h : load s = .ok loaded)
    (sink : Sink) :
    ∃ raw l, (s.value? "THRESHOLD").getD (.text "VERBOSE") = .text raw ∧
      loaded.logger sink = .ok l ∧ Logger.make (.text raw) sink loaded.options = .ok l := by
  rcases of_load_eq_ok h with ⟨checked, hchecked, hnone, hloaded⟩
  rw [Sources.problems, List.append_eq_nil_iff, List.append_eq_nil_iff, List.append_eq_nil_iff,
    problemOf_eq_nil_iff, problemOf_eq_nil_iff] at hnone
  rcases hnone with ⟨_, ⟨threshold, hthreshold⟩, _, ⟨name, hname⟩⟩
  rcases exists_severity_of_checkedThreshold hthreshold with ⟨raw, severity, hraw, hparse, rfl⟩
  rcases exists_resolve_of_checkedZone (hname ▸ hchecked) with ⟨zone, hzone⟩
  -- The settings keep the full name, which the logger reads as the same severity.
  have hkept : loaded.threshold = severity.description := by
    rw [hloaded, Sources.settings, hthreshold]
    rfl
  have hsetting : loaded.options.timeZone = ZoneSetting.ofName? name := by
    rw [hloaded, hname]
    rfl
  rcases Logger.exists_ofOptions (hsetting ▸ hzone) (isOptionalText_ofText? loaded.format) severity
    sink with ⟨l, hl⟩
  refine ⟨raw, l, hraw, ?_, ?_⟩
  · rw [logger, hkept, Logger.make, Logger.parse_description]
    exact hl
  · rw [Logger.make, hparse]
    exact hl

/-! ### What is refused -/

/-- The problem of a setting whose value a logger refuses with a report, in the words
    of the report. -/
def rejection {α : Type} (field : String) (x : Except Failure α) : List FieldProblem :=
  match x with
  | .ok _ => []
  | .error failure =>
    match failure.report? with
    | some report => [⟨field, .refused report.message⟩]
    | none => []

/-- A logger reports the threshold that is a problem of the settings. -/
theorem problemOf_threshold_eq_rejection (t : String) (sink : Sink) :
    problemOf "THRESHOLD" (checkThreshold (.text t)) =
      rejection "THRESHOLD" (Logger.make (.text t) sink {}) := by
  rcases Severity.parse_text_cases t with ⟨severity, hparse⟩ | hparse
  · rw [checkThreshold_of_ok hparse, Logger.make, hparse]
    rfl
  · rw [checkThreshold_of_error hparse, Session.make_of_threshold hparse]
    rfl

/-- A logger reports the zone that is a problem of the settings. -/
theorem problemOf_zone_eq_rejection {n : String} {checked : Checked (Option String)}
    (h : checkZone (.text n) = .ok checked) (sink : Sink) :
    problemOf "TIME_ZONE" checked =
      rejection "TIME_ZONE" (Logger.ofOptions .verbose sink { timeZone := .name n }) := by
  rcases ZoneSetting.lookUp_cases n with ⟨zone, _, hfound, _⟩ | ⟨hunknown, _⟩ | ⟨hdirectory, _⟩
  · rw [checkZone_of_ok hfound, Except.ok.injEq] at h
    rw [← h, Logger.ofOptions, DateFormatter.make, ZoneSetting.resolve, hfound]
    rfl
  · rw [checkZone_of_unknown hunknown, Except.ok.injEq] at h
    have hresolve : ({ timeZone := .name n } : LoggerOptions).timeZone.resolve =
        .error (.unknownZone n) := hunknown
    rw [← h, Logger.ofOptions_of_zone hresolve]
    rfl
  · rw [checkZone_of_directory hdirectory] at h
    exact absurd h (by simp only [reduceCtorEq, not_false_eq_true])

/-- A logger is made of a text and the name of a zone where neither is a problem, and
    otherwise it reports what is wrong. -/
theorem make_cases (t : String) {n : String} (hn : n ∉ zoneGroups) (sink : Sink)
    {o : LoggerOptions} (hzone : o.timeZone = .name n) (hformat : o.format.IsOptionalText) :
    ∃ checked, checkZone (.text n) = .ok checked ∧
      ((∃ l, Logger.make (.text t) sink o = .ok l) ∧
          problemOf "THRESHOLD" (checkThreshold (.text t)) ++ problemOf "TIME_ZONE" checked = [] ∨
        (∃ failure report, Logger.make (.text t) sink o = .error failure ∧
          failure.report? = some report) ∧
            problemOf "THRESHOLD" (checkThreshold (.text t)) ++
              problemOf "TIME_ZONE" checked ≠ []) := by
  rcases ZoneSetting.lookUp_cases n with ⟨zone, _, hfound, _⟩ | ⟨hunknown, _⟩ | ⟨_, hgroup⟩
  · have hresolve : o.timeZone.resolve = .ok (.named zone) := by
      rw [hzone]
      exact hfound
    refine ⟨_, checkZone_of_ok hfound, ?_⟩
    rcases Severity.parse_text_cases t with ⟨severity, hparse⟩ | hparse
    · rcases Logger.exists_ofOptions hresolve hformat severity sink with ⟨l, hl⟩
      rw [checkThreshold_of_ok hparse, Logger.make, hparse]
      exact Or.inl ⟨⟨l, hl⟩, rfl⟩
    · rw [checkThreshold_of_error hparse, Session.make_of_threshold hparse]
      exact Or.inr ⟨⟨_, _, rfl, rfl⟩, List.cons_ne_nil _ _⟩
  · have hresolve : o.timeZone.resolve = .error (.unknownZone n) := by
      rw [hzone]
      exact hunknown
    have hreported : ∃ failure report, Logger.make (.text t) sink o = .error failure ∧
        failure.report? = some report := by
      -- The threshold is read first, so that it may be reported instead of the zone.
      rcases Severity.parse_text_cases t with ⟨severity, hparse⟩ | hparse
      · rw [Logger.make, hparse]
        exact ⟨_, _, Logger.ofOptions_of_zone hresolve severity sink, rfl⟩
      · exact ⟨_, _, Session.make_of_threshold hparse sink o, rfl⟩
    exact ⟨_, checkZone_of_unknown hunknown,
      Or.inr ⟨hreported, List.append_ne_nil_of_right_ne_nil _ (List.cons_ne_nil _ _)⟩⟩
  · exact absurd hgroup hn

/-- Settings and loggers take the same. The logger of settings that were loaded is the
    one that the raw text of the threshold gives with the other settings. And where the
    other settings are valid, a text and the name of a zone that is no group of zones
    give a report when a logger is made of them if and only if they give problems when
    settings are loaded; there is one then for each of the two that a logger refuses on
    its own, in the words of its report, and no other; and nothing else can happen. -/
theorem settings_agree_with_logger (s : Sources) (sink : Sink) :
    (∀ loaded, load s = .ok loaded →
      ∃ raw l, (s.value? "THRESHOLD").getD (.text "VERBOSE") = .text raw ∧
        loaded.logger sink = .ok l ∧ Logger.make (.text raw) sink loaded.options = .ok l) ∧
      ∀ (t n : String) (o : LoggerOptions), s.OthersValid →
        s.value? "THRESHOLD" = some (.text t) → s.value? "TIME_ZONE" = some (.text n) →
        n ∉ zoneGroups → o.timeZone = .name n → o.format.IsOptionalText →
        ((∃ failure report, Logger.make (.text t) sink o = .error failure ∧
            failure.report? = some report) ↔ ∃ problems, load s = .error (.settings problems)) ∧
          (∀ problems, load s = .error (.settings problems) →
            problems = rejection "THRESHOLD" (Logger.make (.text t) sink {}) ++
              rejection "TIME_ZONE" (Logger.ofOptions .verbose sink { timeZone := .name n })) ∧
          ((∃ loaded, load s = .ok loaded) ∨ ∃ problems, load s = .error (.settings problems)) ∧
          ((∃ l, Logger.make (.text t) sink o = .ok l) ∨
            ∃ failure report, Logger.make (.text t) sink o = .error failure ∧
              failure.report? = some report) := by
  refine ⟨fun loaded hload => exists_logger_of_load hload sink, ?_⟩
  intro t n o hothers ht hn hgroup hzone hformat
  rcases make_cases t hgroup sink hzone hformat with ⟨checked, hchecked, hcases⟩
  have hload : load s =
      if (problemOf "THRESHOLD" (checkThreshold (.text t)) ++
        problemOf "TIME_ZONE" checked).isEmpty then .ok (s.settings checked)
      else .error (.settings (problemOf "THRESHOLD" (checkThreshold (.text t)) ++
        problemOf "TIME_ZONE" checked)) := by
    rw [load_eq, Sources.checkedZone_of_some hn, hchecked, ← Sources.checkedThreshold_of_some ht,
      ← problems_of_othersValid hothers]
    rfl
  -- Both take the two texts, or both refuse at least one of them.
  rcases hcases with ⟨⟨l, hl⟩, hproblems⟩ | ⟨⟨failure, report, hfailure, hreport⟩, hproblems⟩
  · rw [if_pos (List.isEmpty_iff.mpr hproblems)] at hload
    have hnone : ∀ problems, load s ≠ .error (.settings problems) := by
      intro problems
      rw [hload]
      simp only [ne_eq, reduceCtorEq, not_false_eq_true]
    refine ⟨⟨?_, fun ⟨problems, h⟩ => absurd h (hnone problems)⟩,
      fun problems h => absurd h (hnone problems), Or.inl ⟨_, hload⟩, Or.inl ⟨l, hl⟩⟩
    rintro ⟨failure, report, hfailure, _⟩
    rw [hl] at hfailure
    exact absurd hfailure (by simp only [reduceCtorEq, not_false_eq_true])
  · rw [if_neg (fun h => hproblems (List.isEmpty_iff.mp h))] at hload
    refine ⟨⟨fun _ => ⟨_, hload⟩, fun _ => ⟨failure, report, hfailure, hreport⟩⟩, ?_,
      Or.inr ⟨_, hload⟩, Or.inr ⟨failure, report, hfailure, hreport⟩⟩
    intro problems h
    rw [hload, Except.error.injEq, Failure.settings.injEq] at h
    rw [← h, problemOf_threshold_eq_rejection t sink, problemOf_zone_eq_rejection hchecked sink]

/-- A short form between blanks is taken by both, and a threshold and a zone that there
    are not are refused by both. -/
theorem settings_agree_with_logger_keywords :
    (∃ loaded l, load ⟨[("THRESHOLD", .text " Warn ")], [], ""⟩ = .ok loaded ∧
      loaded.threshold = "WARNING" ∧ loaded.logger .stdout = .ok l ∧
        Logger.make (.text " Warn ") .stdout loaded.options = .ok l) ∧
      ∃ problems, load ⟨[("THRESHOLD", .text "loud"), ("TIME_ZONE", .text "Mars")], [], ""⟩ =
          .error (.settings problems) ∧
        problems = [⟨"THRESHOLD", .refused "Unknown severity name: 'loud'"⟩,
          ⟨"TIME_ZONE", .refused "Unknown time zone 'Mars'"⟩] := by
  constructor
  · have hload : load ⟨[("THRESHOLD", .text " Warn ")], [], ""⟩ =
        .ok { threshold := "WARNING" } := rfl
    rcases (settings_agree_with_logger _ .stdout).1 _ hload with ⟨raw, l, hraw, hl, hmake⟩
    rw [← Value.text.inj hraw] at hmake
    exact ⟨_, l, hload, rfl, hl, hmake⟩
  · have hothers : Sources.OthersValid
        ⟨[("THRESHOLD", .text "loud"), ("TIME_ZONE", .text "Mars")], [], ""⟩ := by
      refine ⟨⟨[], [], ""⟩, {}, rfl, fun field hfield => ?_⟩
      rw [List.mem_cons, List.mem_singleton, not_or] at hfield
      simp only [Sources.value?, Metadata.get?, if_neg (Ne.symm hfield.1),
        if_neg (Ne.symm hfield.2)]
    have hagree := (settings_agree_with_logger _ .stdout).2 "loud" "Mars"
      { timeZone := .name "Mars" } hothers rfl rfl (by decide) rfl trivial
    have hname : Severity.ofName? "loud" = none := rfl
    have hparse : Severity.parse (.text "loud") =
        .error (.severityName (.text "loud") Severity.sortedNames) := by
      simp only [Severity.parse, Value.toText, hname]
    have hmake := fun o => Session.make_of_threshold hparse .stdout o
    rcases hagree.1.mp ⟨_, _, hmake _, rfl⟩ with ⟨problems, hload⟩
    refine ⟨problems, hload, (hagree.2.1 problems hload).trans ?_⟩
    rw [hmake {}]
    rfl

end Settings

end TextLog
