import TextLog.Proofs.Console.Complaint
import TextLog.Proofs.Logger.Rendering
import TextLog.Proofs.Settings.ZoneName
import TextLog.Proofs.Time.Occasion

/-!
# Names of Zones on the Command Line

What becomes of a name that a user gives for the zone of a line, and all the places
where the name of a zone can be given.

Rendering a line looks the level up and makes a logger. A failure with a report is
printed as a complaint, whatever it quotes, because its wording ends with a quote.
Whatever else fails leaves the program as it is. On a clock inside the calendar, a
logger that was made renders the line. So the program prints the line or complains,
but for the names of groups of zones, which are not reported anywhere.

## Main definitions

* `Failure.Speaks`: A failure with a report that can be printed.
* `Cli.Surroundings.InOrder`: Surroundings in which a line can be rendered.
* `Cli.AsksFor`: Arguments that ask for a line with the name of a zone.
* `Cli.RenderRequest.Answers`: A run prints the line of a request, or complains.

## Theorems

* `exists_lineOf`: A logger that was made renders the line.
* `run_of_command`, `run_template_render`: Runs that ask for a line.
* `answers_run_iff`: The names that the program reports.
* `zone_name_reported_iff`: The names that are reported, wherever they are given.
-/

namespace TextLog

open Time

/-! ### Failures that can be printed -/

theorem Text.getLast?_quote (s : String) :
    (Text.quote s).toList.getLast? = some (Text.quoteFor s.toList) := by
  rw [Text.quote, Text.quoteShowing, String.toList_ofList, List.getLast?_append]
  rfl

/-- A failure that has a report, whose wording does not end with a backslash. -/
def Failure.Speaks (f : Failure) : Prop :=
  ∃ report, f.report? = some report ∧ report.message.toList.getLast? ≠ some '\\'

theorem Failure.speaks_unknownZone (n : String) : (Failure.unknownZone n).Speaks := by
  refine ⟨_, rfl, ?_⟩
  change ("Unknown time zone '" ++ n ++ "'").toList.getLast? ≠ _
  rw [String.toList_append, List.getLast?_append, show "'".toList.getLast? = some '\'' from rfl]
  exact fun h => absurd (Option.some.inj h) (by decide)

theorem Failure.speaks_severityName (s : String) (valid : List String) :
    (Failure.severityName (.text s) valid).Speaks := by
  refine ⟨_, rfl, ?_⟩
  change ("Unknown severity name: " ++ Text.quote s).toList.getLast? ≠ _
  rw [String.toList_append, List.getLast?_append, Text.getLast?_quote, Text.quoteFor]
  split <;> decide

namespace Cli

open Console

/-! ### Rendering a line -/

/-- Surroundings in which a line can be rendered: the settings are read, and the
    clock is inside the calendar. -/
structure Surroundings.InOrder (s : Surroundings) : Prop where
  settings : ∃ settings, s.settings = .ok settings
  now : s.now.IsInside

/-- Arguments that ask for a line with the name of a zone, all of which can be
    read. -/
structure AsksFor (n : String) (args : List String) (r : RenderRequest) : Prop where
  request : ∃ a, Arguments.read renderOptions true args = some a ∧ a.has "--help" = false ∧
    a.value? "--time-zone" = some n ∧ readRequest? a = some r
  pairs : ∃ m, Metadata.ofPairs? r.pairs = some m

/-- A run prints the line of a request, or complains. -/
def RenderRequest.Answers (r : RenderRequest) (s : Surroundings) (o : Outcome) : Prop :=
  (∃ m severity l line, Metadata.ofPairs? r.pairs = some m ∧
      Severity.parse (.text r.level) = .ok severity ∧
      Logger.ofOptions .entry (.memory ⟨0⟩) r.options = .ok l ∧
      r.lineOf s.now m severity l = .ok line ∧ o = .printed (stripAnsi (line ++ "\n"))) ∨
    o.IsComplaint

/-- Options of a line are texts, if they are given at all. -/
structure PlainOptions (o : LoggerOptions) : Prop where
  format : o.format.IsOptionalText
  dateFormat : o.dateFormat.IsOptionalText
  formatter : o.formatter = none

theorem options_of_readRequest? {a : Arguments} {r : RenderRequest}
    (h : readRequest? a = some r) :
    r.options.timeZone = ZoneSetting.ofName? (a.value? "--time-zone") ∧
      PlainOptions r.options := by
  rw [readRequest?] at h
  -- The number of the line is read or left out.
  split at h
  all_goals
    rcases Option.bind_eq_some_iff.mp h with ⟨line, _, h⟩
    dsimp only at h
    split at h
    · rw [← Option.some.inj h]
      exact ⟨rfl, isOptionalText_ofText? _, isOptionalText_ofText? _, rfl⟩
    · exact absurd h (by simp only [reduceCtorEq, not_false_eq_true])

/-- A logger of plain options renders every line, whatever its zone. -/
theorem exists_lineOf {r : RenderRequest} (hplain : PlainOptions r.options) {now : Moment}
    (hnow : now.IsInside) (m : Metadata) (severity : Severity) {l : Logger}
    (hl : Logger.ofOptions .entry (.memory ⟨0⟩) r.options = .ok l) :
    ∃ line, r.lineOf now m severity l = .ok line := by
  rcases exists_of_bind_eq_ok hl with ⟨d, hd, hl⟩
  rcases exists_of_map_eq_ok hl with ⟨t, _, hl⟩
  rcases exists_of_map_eq_ok hd with ⟨zone, hzone, rfl⟩
  have hshows : zone.ShowsAt (.present now) :=
    showsAt_of_isInside (natAbs_offsetAt_of_resolve hzone) hnow
  rcases DateFormatter.exists_formatAt_of_showsAt (f := ⟨r.options.dateFormat, zone⟩)
    hplain.dateFormat hshows with ⟨date, hdate⟩
  have hformatter : l.formatter = none := by
    rw [← hl, hplain.formatter]
    rfl
  have hshown : l.dateFormatter.formatAt (.present now) = .ok date := by
    rw [← hl]
    exact hdate
  exact Logger.exists_formatEvent hformatter hshown severity r.message r.function r.line r.file
    m.pretty none

/-- A failure that speaks ends rendering with a complaint. -/
theorem isComplaint_of_speaks {f : Failure} (hf : f.Speaks) :
    (match f.report? with
      | some report => complain (errorMarkup (escape report.message))
      | none => Outcome.failed f).IsComplaint := by
  rcases hf with ⟨report, hreport, hlast⟩
  rw [hreport]
  exact isComplaint_of_escape report.message hlast

/-- Rendering with a level that is none ends with a complaint. -/
theorem isComplaint_render {s : Surroundings} {r : RenderRequest} {m : Metadata} {f : Failure}
    (hm : Metadata.ofPairs? r.pairs = some m) (hlevel : Severity.parse (.text r.level) = .error f)
    (hf : f.Speaks) : (render s r).IsComplaint := by
  rw [render, hm]
  simp only [hlevel, bind, Except.bind]
  exact isComplaint_of_speaks hf

/-- Rendering with a level makes a logger first. -/
theorem render_of_level {s : Surroundings} {r : RenderRequest} {m : Metadata} {severity : Severity}
    (hm : Metadata.ofPairs? r.pairs = some m)
    (hlevel : Severity.parse (.text r.level) = .ok severity) :
    render s r =
      match Logger.ofOptions .entry (.memory ⟨0⟩) r.options with
      | .ok l =>
        .ofExcept ((r.lineOf s.now m severity l).map fun line => stripAnsi (line ++ "\n"))
      | .error f =>
        match f.report? with
        | some report => complain (errorMarkup (escape report.message))
        | none => .failed f := by
  rw [render, hm]
  simp only [hlevel, bind, Except.bind]
  cases Logger.ofOptions .entry (.memory ⟨0⟩) r.options <;> rfl

/-- Rendering with a logger that cannot be made ends with a complaint, or with the
    failure if it has no report. -/
theorem isComplaint_render_of_made {s : Surroundings} {r : RenderRequest} {m : Metadata}
    {severity : Severity} {f : Failure} (hm : Metadata.ofPairs? r.pairs = some m)
    (hlevel : Severity.parse (.text r.level) = .ok severity)
    (hmade : Logger.ofOptions .entry (.memory ⟨0⟩) r.options = .error f) (hf : f.Speaks) :
    (render s r).IsComplaint := by
  rw [render_of_level hm hlevel, hmade]
  exact isComplaint_of_speaks hf

theorem render_eq_failed {s : Surroundings} {r : RenderRequest} {m : Metadata}
    {severity : Severity} {f : Failure} (hm : Metadata.ofPairs? r.pairs = some m)
    (hlevel : Severity.parse (.text r.level) = .ok severity)
    (hmade : Logger.ofOptions .entry (.memory ⟨0⟩) r.options = .error f)
    (hf : f.report? = none) : render s r = .failed f := by
  rw [render_of_level hm hlevel, hmade]
  simp only [hf]

/-- A failure without a report is no answer. -/
theorem not_answers_failed (r : RenderRequest) (s : Surroundings) (f : Failure) :
    ¬ r.Answers s (.failed f) := by
  rintro (⟨m, severity, l, line, _, _, _, _, h⟩ | h)
  · exact absurd (congrArg Outcome.failure h)
      (by simp only [Outcome.failed, Outcome.printed, reduceCtorEq, not_false_eq_true])
  · exact absurd h.handled (by simp only [Outcome.failed, reduceCtorEq, not_false_eq_true])

/-- Rendering answers a request with the name of a zone if that is not the name of
    a group, or if there is no level to get to the zone with. -/
theorem answers_render_iff {n : String} {s : Surroundings} {r : RenderRequest} {m : Metadata}
    (hnow : s.now.IsInside) (hzone : r.options.timeZone = .name n)
    (hplain : PlainOptions r.options) (hm : Metadata.ofPairs? r.pairs = some m) :
    r.Answers s (render s r) ↔
      ((∃ severity, Severity.parse (.text r.level) = .ok severity) → n ∉ zoneGroups) := by
  rcases Severity.parse_text_cases r.level with ⟨severity, hlevel⟩ | hlevel
  case inr =>
      refine ⟨fun _ ⟨severity, h⟩ => ?_, fun _ => Or.inr (isComplaint_render hm hlevel
        (Failure.speaks_severityName r.level _))⟩
      exact absurd (hlevel.symm.trans h) (by simp only [reduceCtorEq, not_false_eq_true])
  rcases ZoneSetting.lookUp_cases n with ⟨z, _, hfound, hn⟩ | ⟨hunknown, hn⟩ | ⟨hgroup, hn⟩
  · refine ⟨fun _ _ => hn, fun _ => Or.inl ?_⟩
    have hresolve : r.options.timeZone.resolve = .ok (.named z) := by
      rw [hzone]
      exact hfound
    rcases Logger.exists_ofOptions hresolve hplain.format .entry (.memory ⟨0⟩) with ⟨l, hl⟩
    rcases exists_lineOf hplain hnow m severity hl with ⟨line, hline⟩
    refine ⟨m, severity, l, line, hm, hlevel, hl, hline, ?_⟩
    rw [render_of_level hm hlevel, hl]
    dsimp only
    rw [hline]
    rfl
  · have hresolve : r.options.timeZone.resolve = .error (.unknownZone n) := by
      rw [hzone]
      exact hunknown
    have hmade := Logger.ofOptions_of_zone hresolve .entry (.memory ⟨0⟩)
    exact ⟨fun _ _ => hn, fun _ => Or.inr
      (isComplaint_render_of_made hm hlevel hmade (Failure.speaks_unknownZone n))⟩
  · refine ⟨fun h => ?_, fun h => absurd hn (h ⟨severity, hlevel⟩)⟩
    have hresolve : r.options.timeZone.resolve = .error (.zoneDirectory n) := by
      rw [hzone]
      exact hgroup
    have hmade := Logger.ofOptions_of_zone hresolve .entry (.memory ⟨0⟩)
    rw [render_eq_failed hm hlevel hmade rfl] at h
    exact absurd h (not_answers_failed r s (.zoneDirectory n))

/-! ### Runs of the program -/

/-- A word that is no option ends the options, and the rest is left to others. -/
theorem read_word (specs : List OptionSpec) {word : String} (hword : looksLikeOption word = false)
    (hend : word ≠ "--") (rest : List String) :
    Arguments.read specs false (word :: rest) = some ⟨[], word :: rest⟩ := by
  rw [Arguments.read, readFrom, if_neg hend, if_neg (by rw [hword]; exact Bool.false_ne_true),
    if_neg Bool.false_ne_true]

/-- A run that starts with a command reads the settings, and then does what the command
    does. -/
theorem run_of_command (s : Surroundings) {name : String} {go : List String → Outcome}
    (hword : looksLikeOption name = false) (hend : name ≠ "--")
    (hcommand : command? s name = some go) (args : List String) :
    run s (name :: args) =
      match s.settings with
      | .ok _ => go args
      | .error f => .failed f := by
  have hoption : ∀ option, (⟨[], name :: args⟩ : Arguments).has option = false := fun _ => rfl
  rw [run, withArguments, read_word _ hword hend]
  cases s.settings with
  | error f => simp only [hoption, hcommand, Bool.false_eq_true, if_false]
  | ok settings => simp only [hoption, hcommand, Bool.false_eq_true, if_false]

theorem run_command {s : Surroundings} (hs : ∃ settings, s.settings = .ok settings)
    {name : String} {go : List String → Outcome} (hword : looksLikeOption name = false)
    (hend : name ≠ "--") (hcommand : command? s name = some go) (args : List String) :
    run s (name :: args) = go args := by
  rcases hs with ⟨settings, hs⟩
  rw [run_of_command s hword hend hcommand, hs]

/-- A run that asks for a line renders it, once the settings are read. -/
theorem run_template_render {s : Surroundings} {args : List String} {a : Arguments}
    {r : RenderRequest} (hs : ∃ settings, s.settings = .ok settings)
    (hread : Arguments.read renderOptions true args = some a) (hhelp : a.has "--help" = false)
    (hrequest : readRequest? a = some r) :
    run s ("template" :: "render" :: args) = render s r := by
  rw [run_command hs (by decide) (by decide) rfl, runTemplate, withArguments,
    read_word _ (by decide) (by decide)]
  change withArguments renderOptions true args _ = _
  rw [withArguments, hread]
  simp only [hhelp, hrequest, Bool.false_eq_true, if_false]

/-- The program answers a request with the name of a zone if that is not the name
    of a group, or if there is no level to get to the zone with. -/
theorem answers_run_iff {n : String} {s : Surroundings} {args : List String} {r : RenderRequest}
    (hs : s.InOrder) (hr : AsksFor n args r) :
    r.Answers s (run s ("template" :: "render" :: args)) ↔
      ((∃ severity, Severity.parse (.text r.level) = .ok severity) → n ∉ zoneGroups) := by
  rcases hr.request with ⟨a, hread, hhelp, hvalue, hrequest⟩
  rcases options_of_readRequest? hrequest with ⟨hzone, hplain⟩
  rcases hr.pairs with ⟨m, hm⟩
  rw [hvalue] at hzone
  rw [run_template_render hs.settings hread hhelp hrequest]
  exact answers_render_iff hs.now hzone hplain hm

end Cli

/-! ### All places where a name is given -/

/-- The name of a zone is reported wherever it is given, by date formatters, by
    loggers when they are made and when it is assigned to them, by settings and on
    the command line, if and only if it is not the name of a group of zones. -/
theorem zone_name_reported_iff (n : String) :
    (∀ pattern, ReportsZone n (DateFormatter.make pattern (.name n)) ↔ n ∉ zoneGroups) ∧
      (∀ threshold severity sink (o : LoggerOptions), Severity.parse threshold = .ok severity →
        o.timeZone = .name n → o.format.IsOptionalText →
          (ReportsZone n (Logger.make threshold sink o) ↔ n ∉ zoneGroups)) ∧
      (∀ l : Logger, ReportsZone n (l.edit (.timeZone (.name n))) ↔ n ∉ zoneGroups) ∧
      (∀ sources : Settings.Sources, sources.value? "TIME_ZONE" = some (.text n) →
        (Settings.Reports n (Settings.load sources) ↔ n ∉ zoneGroups)) ∧
      (∀ (s : Cli.Surroundings) args (r : Cli.RenderRequest), s.InOrder → Cli.AsksFor n args r →
        (r.Answers s (Cli.run s ("template" :: "render" :: args)) ↔
          ((∃ severity, Severity.parse (.text r.level) = .ok severity) → n ∉ zoneGroups))) := by
  refine ⟨fun pattern => reportsZone_dateFormatter n pattern, ?_, ?_, ?_, ?_⟩
  · intro threshold severity sink o hthreshold hzone hformat
    exact Logger.reportsZone_make n sink hthreshold hzone hformat
  · intro l
    exact Logger.reportsZone_edit n l
  · intro sources hn
    exact Settings.reports_load n hn
  · intro s args r hs hr
    exact Cli.answers_run_iff hs hr

/-- The request of a line with the name of a zone and nothing else. -/
def Cli.RenderRequest.inZone (n : String) : Cli.RenderRequest :=
  ⟨"up", "info", { timeZone := .name n }, "app/main.py", "main()", 1, []⟩

theorem Cli.asksFor_inZone_europe :
    Cli.AsksFor "europe" ["up", "-z", "europe"] (Cli.RenderRequest.inZone "europe") where
  request := ⟨⟨[("--time-zone", "europe")], ["up"]⟩, rfl, rfl, rfl, rfl⟩
  pairs := ⟨[], rfl⟩

/-- The surroundings of a run without settings, in the year 2026. -/
def Cli.Surroundings.bare : Cli.Surroundings :=
  ⟨[], "", ⟨⟨2026, 10, 19, 8, 30, 15, 123456⟩, some 0⟩⟩

theorem Cli.inOrder_bare : Cli.Surroundings.bare.InOrder where
  settings := ⟨{}, rfl⟩
  now := by
    constructor <;> decide

/-- A name in small letters is reported everywhere. -/
theorem zone_name_reported_iff_small_letters :
    ReportsZone "europe" (DateFormatter.make .null (.name "europe")) ∧
      ReportsZone "europe" (Logger.make (.text "info") .stdout { timeZone := .name "europe" }) ∧
      (∃ l, Logger.make (.text "info") .stdout {} = .ok l ∧
        ReportsZone "europe" (l.edit (.timeZone (.name "europe")))) ∧
      Settings.Reports "europe" (Settings.load ⟨[("TIME_ZONE", .text "europe")], [], ""⟩) ∧
      (Cli.RenderRequest.inZone "europe").Answers Cli.Surroundings.bare
        (Cli.run Cli.Surroundings.bare ["template", "render", "up", "-z", "europe"]) := by
  have hn : "europe" ∉ zoneGroups := by decide
  rcases zone_name_reported_iff "europe" with ⟨hdate, hlogger, hedit, hsettings, hrun⟩
  refine ⟨(hdate .null).mpr hn, ?_, ⟨_, rfl, (hedit _).mpr hn⟩, ?_, ?_⟩
  · exact (hlogger (.text "info") .info .stdout { timeZone := .name "europe" } rfl rfl
      trivial).mpr hn
  · exact (hsettings ⟨[("TIME_ZONE", .text "europe")], [], ""⟩ rfl).mpr hn
  · exact (hrun _ _ _ Cli.inOrder_bare Cli.asksFor_inZone_europe).mpr fun _ => hn

/-- The name of a group of zones is reported nowhere: it ends everything with a
    failure that has no report. -/
theorem zone_group_not_reported :
    ¬ ReportsZone "Europe" (DateFormatter.make .null (.name "Europe")) ∧
      ¬ ReportsZone "Europe" (Logger.make (.text "info") .stdout { timeZone := .name "Europe" }) ∧
      (∃ l, Logger.make (.text "info") .stdout {} = .ok l ∧
        ¬ ReportsZone "Europe" (l.edit (.timeZone (.name "Europe")))) ∧
      ¬ Settings.Reports "Europe" (Settings.load ⟨[("TIME_ZONE", .text "Europe")], [], ""⟩) ∧
      (Cli.run Cli.Surroundings.bare ["template", "render", "up", "-z", "Europe"]).failure =
        some (.zoneDirectory "Europe") := by
  have hn : "Europe" ∈ zoneGroups := by decide
  refine ⟨fun h => ?_, fun h => ?_, ⟨_, rfl, fun h => ?_⟩, fun h => ?_, ?_⟩
  · exact (reportsZone_dateFormatter "Europe" .null).mp h hn
  · exact (Logger.reportsZone_make "Europe" (o := { timeZone := .name "Europe" }) .stdout rfl rfl
      trivial).mp h hn
  · exact (Logger.reportsZone_edit "Europe" _).mp h hn
  · exact (Settings.reports_load "Europe" rfl).mp h hn
  · rfl

end TextLog
