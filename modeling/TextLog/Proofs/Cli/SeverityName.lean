import TextLog.Proofs.Cli.ZoneName
import TextLog.Proofs.Console.Wording
import TextLog.Proofs.Settings.Agreement

/-!
# Names of Severities on the Command Line

What becomes of a text that a user gives for a severity and that names none.

Rendering a line and the demonstration both look the text up and complain about it. The
text is quoted in the complaint, which is markup. Rendering escapes the wording, so it
always complains; the demonstration does not. So the two print the same line exactly if
there is no tag in the wording. With a tag, the demonstration leaves out what the user
gave, or does not get to print anything.

## Main definitions

* `Text.isQuoting`: Characters that quoting may put in a text.
* `unknownSeverity`: What is said about a text that names no severity.

## Theorems

* `Text.mem_quote`: The characters of a quoted text.
* `readFrom_long`: A long option with its value behind an equals sign.
* `run_render_of_unknown`, `run_demo_of_unknown`: Complaints about a text.
* `isLiteral_unknownSeverity`: Texts without brackets and colons.
* `severity_name_reported`: What is printed about a text.
* `severity_tags_not_reported`: A text with a tag.
-/

namespace TextLog

open Time

/-! ### Characters of a quoted text -/

namespace Text

/-- A character that quoting may put in a text. -/
def isQuoting (c : Char) : Bool :=
  c.isAlphanum || c == '\\' || c == '\'' || c == '"'

theorem isQuoting_of_mem_hex {width n : Nat} {c : Char} (h : c ∈ hex width n) :
    isQuoting c = true := by
  induction width generalizing n with
  | zero => exact absurd h List.not_mem_nil
  | succ width ih =>
      rcases List.mem_append.mp h with h | h
      · exact ih h
      · have hdigit : ∀ digit < 16, isQuoting (hexDigit digit) = true := by decide
        rw [List.mem_singleton.mp h]
        exact hdigit _ (Nat.mod_lt n (by decide))

theorem isQuoting_of_mem_escapeCode {b c : Char} (h : c ∈ escapeCode b) : isQuoting c = true := by
  have hcode : ∃ letter width, isQuoting letter = true ∧
      escapeCode b = '\\' :: letter :: hex width b.toNat := by
    unfold escapeCode
    dsimp only
    split
    · exact ⟨_, _, by decide, rfl⟩
    · split
      · exact ⟨_, _, by decide, rfl⟩
      · exact ⟨_, _, by decide, rfl⟩
  rcases hcode with ⟨letter, width, hletter, hcode⟩
  rw [hcode] at h
  rcases List.mem_cons.mp h with rfl | h
  · decide
  · rcases List.mem_cons.mp h with rfl | h
    · exact hletter
    · exact isQuoting_of_mem_hex h

theorem isQuoting_quoteFor (cs : List Char) : isQuoting (quoteFor cs) = true := by
  rw [quoteFor]
  split <;> decide

/-- Between the quotes stand a character itself and what quoting puts there. -/
theorem mem_escapeChar {shown : Char → Bool} {q b c : Char} (h : c ∈ escapeChar shown q b) :
    c = b ∨ isQuoting c = true := by
  have hletter : ∀ {letter : Char}, isQuoting letter = true → c ∈ ['\\', letter] →
      isQuoting c = true := by
    intro letter hletter hc
    rcases List.mem_cons.mp hc with rfl | hc
    · decide
    · rwa [List.mem_singleton.mp hc]
  rw [escapeChar] at h
  split at h
  · rcases List.mem_cons.mp h with rfl | h
    · exact Or.inr (by decide)
    · exact Or.inl (List.mem_singleton.mp h)
  split at h
  · exact Or.inr (hletter (by decide) h)
  split at h
  · exact Or.inr (hletter (by decide) h)
  split at h
  · exact Or.inr (hletter (by decide) h)
  split at h
  · exact Or.inl (List.mem_singleton.mp h)
  · exact Or.inr (isQuoting_of_mem_escapeCode h)

/-- A quoted text has the characters of the text and those that quoting puts there. -/
theorem mem_quote {s : String} {c : Char} (h : c ∈ (quote s).toList) :
    c ∈ s.toList ∨ isQuoting c = true := by
  rw [quote, quoteShowing, String.toList_ofList] at h
  rcases List.mem_append.mp h with h | h
  · rcases List.mem_cons.mp h with rfl | h
    · exact Or.inr (isQuoting_quoteFor _)
    · rcases List.mem_flatMap.mp h with ⟨b, hb, hc⟩
      exact (mem_escapeChar hc).imp (fun heq => by rwa [heq]) id
  · rw [List.mem_singleton.mp h]
    exact Or.inr (isQuoting_quoteFor _)

end Text

namespace Cli

open Console

/-! ### Long options -/

/-- A name ends at the first equals sign, and the value may hold others. -/
theorem splitValue_append {name : String} (hname : ∀ c ∈ name.toList, (c != '=') = true)
    (value : String) : splitValue (name ++ "=" ++ value).toList = (name, some value) := by
  have hequals : ('=' != '=') = false := by decide
  have hsplit : (name ++ "=" ++ value).toList = name.toList ++ '=' :: value.toList := by
    rw [String.toList_append, String.toList_append, List.append_assoc]
    rfl
  rw [splitValue, hsplit]
  simp only [List.takeWhile_append_of_pos hname, List.dropWhile_append_of_pos hname,
    List.takeWhile_cons, List.dropWhile_cons, hequals, Bool.false_eq_true, if_false,
    List.append_nil, String.ofList_toList]

/-- A long option is read with its value behind an equals sign, whatever the value holds. -/
theorem readFrom_long {specs : List OptionSpec} {spec : OptionSpec} {name : String}
    {letters : List Char} (hletters : name.toList = '-' :: '-' :: letters)
    (hname : ∀ c ∈ name.toList, (c != '=') = true) (hlong : isLong name = true)
    (hspec : findOption specs name = some spec) (hvalue : spec.takesValue = true) (mixed : Bool)
    (value : String) (rest : List String) :
    readFrom specs mixed none ((name ++ "=" ++ value) :: rest) =
      (readFrom specs mixed none rest).map fun r =>
        ⟨(spec.key, value) :: r.options, r.positional⟩ := by
  have harg : (name ++ "=" ++ value).toList = '-' :: '-' :: (letters ++ '=' :: value.toList) := by
    rw [String.toList_append, String.toList_append, List.append_assoc, hletters]
    rfl
  have hends : name ++ "=" ++ value ≠ "--" := by
    intro heq
    rw [heq] at harg
    have hlength := congrArg List.length harg
    rw [List.length_cons, List.length_cons, List.length_append, List.length_cons] at hlength
    exact absurd hlength (by rw [show "--".toList.length = 2 from rfl]; omega)
  have hlooks : looksLikeOption (name ++ "=" ++ value) = true := by
    have hdash : (name ++ "=" ++ value) ≠ "-" := by
      intro heq
      rw [heq] at harg
      exact absurd (List.cons.inj harg).2 (List.cons_ne_nil _ _).symm
    rw [looksLikeOption, harg, bne_iff_ne.mpr hdash]
    rfl
  have hread : readOption specs (name ++ "=" ++ value) = some ⟨[(spec.key, value)], none⟩ := by
    rw [readOption, splitValue_append hname]
    simp only [hlong, hspec, hvalue, if_true]
  rw [readFrom, if_neg hends, if_pos hlooks, hread]
  rfl

/-! ### Complaints about a text -/

/-- What is said about a text that names no severity. -/
def unknownSeverity (name : String) : String :=
  "Unknown severity name: " ++ Text.quote name

theorem wording_severityName (name : String) (valid : List String) :
    (Failure.severityName (.text name) valid).wording = unknownSeverity name := rfl

theorem getLast?_unknownSeverity (name : String) :
    (unknownSeverity name).toList.getLast? ≠ some '\\' := by
  rcases Failure.speaks_severityName name [] with ⟨report, hreport, hlast⟩
  rw [← Option.some.inj hreport] at hlast
  exact wording_severityName name [] ▸ hlast

/-- A text that names no severity is reported. -/
theorem exists_report_of_unknown {name : String}
    (hname : ∀ severity, Severity.parse (.text name) ≠ .ok severity) :
    ∃ f report, Severity.parse (.text name) = .error f ∧ f.report? = some report ∧
      report.kind = .severity ∧ report.message = unknownSeverity name := by
  rcases Severity.parse_text_cases name with ⟨severity, h⟩ | h
  · exact absurd h (hname severity)
  · exact ⟨_, _, h, rfl, rfl, wording_severityName name Severity.sortedNames⟩

/-- Rendering a line complains about a text in its level. -/
theorem run_render_of_unknown {s : Surroundings} (hs : ∃ settings, s.settings = .ok settings)
    {name : String} (hname : ∀ severity, Severity.parse (.text name) ≠ .ok severity) :
    run s ["template", "render", "x", "--level=" ++ name] =
      complain (errorMarkup (escape (unknownSeverity name))) := by
  rcases exists_report_of_unknown hname with ⟨f, report, hparse, hreport, _, hmessage⟩
  have hequals : "--level=" = "--level" ++ "=" := by decide
  have hread : Arguments.read renderOptions true ["x", "--level=" ++ name] =
      some ⟨[("--level", name)], ["x"]⟩ := by
    rw [Arguments.read, readFrom, if_neg (by decide), if_neg (by decide), if_pos rfl, hequals,
      readFrom_long rfl (List.all_iff_forall_prop.mp (by decide)) (by decide) rfl rfl]
    rfl
  have hrequest : ∃ r, readRequest? ⟨[("--level", name)], ["x"]⟩ = some r ∧ r.level = name ∧
      r.pairs = [] := ⟨_, rfl, rfl, rfl⟩
  rcases hrequest with ⟨r, hr, hlevel, hpairs⟩
  have hnone : Metadata.ofPairs? [] = some [] := rfl
  rw [run_template_render hs hread rfl hr, render, hpairs, hnone]
  simp only [hlevel, hparse, bind, Except.bind, hreport, hmessage]

/-- A run that asks for the demonstration gives it, once the settings are read. -/
theorem run_demo {s : Surroundings} {args : List String} {a : Arguments}
    (hs : ∃ settings, s.settings = .ok settings)
    (hread : Arguments.read demoOptions true args = some a) (hhelp : a.has "--help" = false)
    (hpositional : a.positional = []) :
    run s ("demo" :: args) =
      demo s (a.value? "--threshold") (a.choice? "--colored" "--plain") := by
  rw [run_command hs (by decide) (by decide) rfl, withArguments, hread]
  simp only [hhelp, hpositional, Bool.false_eq_true, if_false, List.isEmpty_nil, if_true]

/-- The demonstration complains about a text once the logger of the settings is there. -/
theorem run_demo_of_unknown {s : Surroundings} (hs : ∃ settings, s.settings = .ok settings)
    {name : String} (hname : ∀ severity, Severity.parse (.text name) ≠ .ok severity) :
    run s ["demo", "--threshold=" ++ name] = complain (errorMarkup (unknownSeverity name)) := by
  rcases exists_report_of_unknown hname with ⟨f, report, hparse, hreport, _, hmessage⟩
  have hequals : "--threshold=" = "--threshold" ++ "=" := by decide
  have hread : Arguments.read demoOptions true ["--threshold=" ++ name] =
      some ⟨[("--threshold", name)], []⟩ := by
    rw [Arguments.read, hequals,
      readFrom_long rfl (List.all_iff_forall_prop.mp (by decide)) (by decide) rfl rfl]
    rfl
  have hvalue : (⟨[("--threshold", name)], []⟩ : Arguments).value? "--threshold" = some name := rfl
  rw [run_demo hs hread rfl rfl, hvalue, demo]
  rcases hs with ⟨settings, hs⟩
  rcases Settings.exists_logger_of_load hs .stdout with ⟨_, l, _, hl, _⟩
  simp only [hs, hl, hparse, bind, Except.bind, Except.map, hreport, hmessage]

/-! ### What is shown -/

/-- A text without brackets and colons has nothing in it that the console replaces. -/
theorem isLiteral_unknownSeverity {name : String}
    (hname : ∀ c ∈ name.toList, c ≠ '[' ∧ c ≠ ':') :
    IsLiteral (unknownSeverity name).toList ∧ hasTag (unknownSeverity name).toList = false := by
  have hquote : ∀ c ∈ (Text.quote name).toList, c ≠ '[' ∧ c ≠ ':' := by
    intro c hc
    rcases Text.mem_quote hc with hc | hc
    · exact hname c hc
    · constructor <;> (rintro rfl; exact absurd hc (by decide))
  have hfront : ∀ c ∈ "Unknown severity name".toList, c ≠ '[' ∧ c ≠ ':' :=
    List.all_iff_forall_prop.mp (by decide)
  have hmessage : (unknownSeverity name).toList =
      "Unknown severity name".toList ++ ':' :: ' ' :: (Text.quote name).toList := by
    have hcolon : "Unknown severity name: ".toList =
        "Unknown severity name".toList ++ [':', ' '] := by decide
    unfold unknownSeverity
    rw [String.toList_append, hcolon, List.append_assoc]
    rfl
  have hopen : ∀ c ∈ (unknownSeverity name).toList, c ≠ '[' := by
    intro c hc
    rw [hmessage] at hc
    rcases List.mem_append.mp hc with hc | hc
    · exact (hfront c hc).1
    · rcases List.mem_cons.mp hc with rfl | hc
      · decide
      · rcases List.mem_cons.mp hc with rfl | hc
        · decide
        · exact (hquote c hc).1
  refine ⟨⟨?_, fun before rest hsplit => ?_⟩, hasTag_of_no_open hopen⟩
  · have hcodes : HasNoCode ((Text.quote name).toList ++ []) :=
      hasNoCode_append_of_no_colon (fun c hc => (hquote c hc).2) hasNoCode_nil
    rw [hmessage]
    rw [List.append_nil] at hcodes
    exact hasNoCode_append_colon (fun c hc => (hfront c hc).2) hcodes
  · exact absurd rfl (hopen '[' (by
      rw [hsplit]
      exact List.mem_append_right before (List.mem_cons_of_mem _ List.mem_cons_self)))

/-- A text that names no severity is reported with what is wrong with it. Rendering a
    line always complains, and the demonstration always ends with the same code. Both
    print the same if and only if there is no tag in the wording; and they print the
    wording as it is if there is nothing in it that the console replaces, as in all
    texts without brackets and colons. -/
theorem severity_name_reported {s : Surroundings} (hs : ∃ settings, s.settings = .ok settings)
    {name : String} (hname : ∀ severity, Severity.parse (.text name) ≠ .ok severity) :
    ∃ f report, Severity.parse (.text name) = .error f ∧ f.report? = some report ∧
      report.kind = .severity ∧
      report.message = "Unknown severity name: " ++ Text.quote name ∧
      (run s ["template", "render", "x", "--level=" ++ name]).IsComplaint ∧
      (run s ["demo", "--threshold=" ++ name]).code = 1 ∧
      (run s ["demo", "--threshold=" ++ name] =
          run s ["template", "render", "x", "--level=" ++ name] ↔
        hasTag report.message.toList = false) ∧
      (IsLiteral report.message.toList →
        run s ["template", "render", "x", "--level=" ++ name] =
          ⟨1, layOutText ("Error: " ++ report.message), none⟩) ∧
      ((∀ c ∈ name.toList, c ≠ '[' ∧ c ≠ ':') →
        IsLiteral report.message.toList ∧ hasTag report.message.toList = false) := by
  rcases exists_report_of_unknown hname with ⟨f, report, hparse, hreport, hkind, hmessage⟩
  have hlast := getLast?_unknownSeverity name
  rw [run_render_of_unknown hs hname, run_demo_of_unknown hs hname]
  refine ⟨f, report, hparse, hreport, hkind, hmessage, isComplaint_of_escape _ hlast, ?_, ?_⟩
  · rw [complain]
    split <;> rfl
  · rw [hmessage]
    exact ⟨complain_eq_iff _ hlast, complain_of_isLiteral _ hlast, isLiteral_unknownSeverity⟩

theorem ne_ok_of_unknown (name : String)
    (hparse : Severity.parse (.text name) =
      .error (.severityName (.text name) Severity.sortedNames)) :
    ∀ severity, Severity.parse (.text name) ≠ .ok severity := by
  intro severity h
  rw [hparse] at h
  exact absurd h (by simp only [reduceCtorEq, not_false_eq_true])

/-- A text without brackets and colons is reported as it is by both. -/
theorem severity_name_reported_loud :
    (∃ settings, Surroundings.bare.settings = .ok settings) ∧
      (∀ severity, Severity.parse (.text "loud") ≠ .ok severity) ∧
      run Surroundings.bare ["demo", "--threshold=" ++ "loud"] =
        run Surroundings.bare ["template", "render", "x", "--level=" ++ "loud"] ∧
      run Surroundings.bare ["template", "render", "x", "--level=" ++ "loud"] =
        ⟨1, "Error: Unknown severity name: 'loud'\n", none⟩ := by
  have hname := ne_ok_of_unknown "loud" rfl
  rcases severity_name_reported inOrder_bare.settings hname with
    ⟨_, report, _, _, _, hmessage, _, _, hsame, hshown, hplain⟩
  rcases hplain (List.all_iff_forall_prop.mp (by decide)) with ⟨hliteral, htag⟩
  refine ⟨inOrder_bare.settings, hname, hsame.mpr htag, ?_⟩
  have hline : layOutText ("Error: " ++ ("Unknown severity name: " ++ Text.quote "loud")) =
      "Error: Unknown severity name: 'loud'\n" := by decide +kernel
  rw [hshown hliteral, hmessage, hline]

/-- Tags in a text are read as markup by the demonstration: what it prints leaves them
    out, and a closing tag without an opening one ends it with a failure. -/
theorem severity_tags_not_reported :
    (∀ severity, Severity.parse (.text "[b]x[/b]") ≠ .ok severity) ∧
      run Surroundings.bare ["demo", "--threshold=[b]x[/b]"] ≠
        run Surroundings.bare ["template", "render", "x", "--level=[b]x[/b]"] ∧
      (∀ severity, Severity.parse (.text "[/b]") ≠ .ok severity) ∧
      (run Surroundings.bare ["demo", "--threshold=[/b]"]).failure ≠ none := by
  have hpair := ne_ok_of_unknown "[b]x[/b]" rfl
  have hclosing := ne_ok_of_unknown "[/b]" rfl
  refine ⟨hpair, ?_, hclosing, ?_⟩
  · have hdemo := run_demo_of_unknown inOrder_bare.settings hpair
    have hrender := run_render_of_unknown inOrder_bare.settings hpair
    intro hsame
    have hnone := (complain_eq_iff _ (getLast?_unknownSeverity "[b]x[/b]")).mp
      (hdemo.symm.trans (hsame.trans hrender))
    exact absurd hnone (by decide +kernel)
  · have hdemo := run_demo_of_unknown inOrder_bare.settings hclosing
    have hplain : plain (errorMarkup (unknownSeverity "[/b]")) =
        .error (.markup "/b" 36 true) := by
      rfl
    rw [show "--threshold=[/b]" = "--threshold=" ++ "[/b]" from rfl, hdemo, complain, printMarkup,
      hplain]
    exact Option.some_ne_none _

end Cli

end TextLog
