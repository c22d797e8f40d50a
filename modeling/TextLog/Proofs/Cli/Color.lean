import TextLog.Proofs.Cli.ZoneName
import TextLog.Proofs.Console.Sequences
import TextLog.Proofs.Metadata.Pairs

/-!
# Color on the Command Line

A line that `template render` prints does not tell whether it was asked for in color.

The options of color reach the logger of a request and nothing else. The logger puts the
code of a color around the line, and since the output is no terminal both codes are taken
out of it again, together with whatever sequences the line has of its own. The line may
start or break off within a sequence: neither code joins with what it stands next to
(`stripAnsi_colorize`).

So requests that differ in their color are rendered alike, and so are arguments that
differ in the options of color, wherever these stand and however often they are given.
That is stated through what is left of the arguments without these options, because
their names can also be values of other options, or messages.

## Main definitions

* `RenderRequest.uncolored`: A request for a line without color.
* `Arguments.colorless`: Arguments without the options of color.
* `Accepts`: Arguments that are taken as a request that can be met.

## Theorems

* `render_of_made`, `render_uncolored`: Requests are rendered as without color.
* `value?_colorless`, `has_colorless`, `values_colorless`, `choice?_colorless`: What other
  options say.
* `map_colorless_read_color`: An option of color in front of other arguments.
* `readRequest?_colorless`: The request of arguments without the options of color.
* `run_render_eq`, `run_render_congr`: Runs depend on the arguments up to these options.
* `exists_accepts`: Runs that succeed accept their arguments.
* `color_not_printed`: What is printed with color and without.
-/

namespace TextLog

open Time

namespace Cli

open Console

/-! ### Requests -/

/-- The request without color. -/
def RenderRequest.uncolored (r : RenderRequest) : RenderRequest :=
  { r with options := { r.options with colored := .bool false } }

/-- The logger of a request without color is that of the request, without color. -/
theorem ofOptions_uncolored (r : RenderRequest) :
    Logger.ofOptions .entry (.memory ⟨0⟩) r.uncolored.options =
      (Logger.ofOptions .entry (.memory ⟨0⟩) r.options).map Logger.uncolored := by
  rw [Logger.ofOptions, Logger.ofOptions, RenderRequest.uncolored]
  dsimp only
  cases DateFormatter.make r.options.dateFormat r.options.timeZone with
  | error failure => rfl
  | ok d =>
      simp only [Except.bind]
      cases compileFormat r.options.format with
      | error failure => rfl
      | ok t => rfl

/-- A logger that was made prints the line that it makes without color. -/
theorem render_of_made {s : Surroundings} {r : RenderRequest} {m : Metadata}
    {severity : Severity} {l : Logger} (hm : Metadata.ofPairs? r.pairs = some m)
    (hlevel : Severity.parse (.text r.level) = .ok severity)
    (hl : Logger.ofOptions .entry (.memory ⟨0⟩) r.options = .ok l) :
    render s r =
      .ofExcept ((r.lineOf s.now m severity l.uncolored).map fun line =>
        stripAnsi line ++ "\n") := by
  rw [render_of_level hm hlevel, hl]
  exact congrArg Outcome.ofExcept (l.map_stripAnsi_formatEvent (.present s.now) _ m.pretty .null)

/-- A request is rendered as without color, whatever becomes of it. -/
theorem render_uncolored (s : Surroundings) (r : RenderRequest) :
    render s r.uncolored = render s r := by
  have hlogger := ofOptions_uncolored r
  cases hm : Metadata.ofPairs? r.pairs with
  | none =>
      have hm' : Metadata.ofPairs? r.uncolored.pairs = none := hm
      rw [render, render, hm, hm']
  | some m =>
      cases hlevel : Severity.parse (.text r.level) with
      | error failure =>
          have hm' : Metadata.ofPairs? r.uncolored.pairs = some m := hm
          have hlevel' : Severity.parse (.text r.uncolored.level) = .error failure := hlevel
          rw [render, render, hm, hm', hlevel, hlevel']
          rfl
      | ok severity =>
          cases hl : Logger.ofOptions .entry (.memory ⟨0⟩) r.options with
          | error failure =>
              rw [hl] at hlogger
              rw [render_of_level hm hlevel, hl,
                render_of_level (r := r.uncolored) hm hlevel, hlogger]
              rfl
          | ok l =>
              rw [hl] at hlogger
              rw [render_of_made hm hlevel hl, render_of_made (r := r.uncolored) hm hlevel hlogger]
              rfl

/-! ### Arguments -/

/-- The name of an option of color. -/
def isColor (key : String) : Bool :=
  key == "--colored" || key == "--plain"

namespace Arguments

/-- The arguments without the options of color. -/
def colorless (a : Arguments) : Arguments :=
  ⟨a.options.filter fun p => !isColor p.1, a.positional⟩

theorem lookup_filter_not_isColor {key : String} (hkey : isColor key = false)
    (options : List (String × String)) :
    (options.filter fun p => !isColor p.1).lookup key = options.lookup key := by
  induction options with
  | nil => rfl
  | cons p rest ih =>
      by_cases hcolor : isColor p.1 = true
      · have hne : (key == p.1) = false :=
          beq_eq_false_iff_ne.mpr fun heq => Bool.false_ne_true (hkey ▸ heq ▸ hcolor)
        rw [List.filter_cons_of_neg (by rw [hcolor]; exact Bool.false_ne_true), ih,
          List.lookup_cons, hne]
      · rw [List.filter_cons_of_pos (by rw [Bool.not_eq_true] at hcolor; rw [hcolor]; rfl),
          List.lookup_cons, List.lookup_cons, ih]

/-- Options of other names say what they say beside the options of color. -/
theorem value?_colorless (a : Arguments) {key : String} (hkey : isColor key = false) :
    a.colorless.value? key = a.value? key := by
  rw [value?, value?, colorless, ← List.filter_reverse, lookup_filter_not_isColor hkey]

theorem has_colorless (a : Arguments) {key : String} (hkey : isColor key = false) :
    a.colorless.has key = a.has key := by
  rw [has, has, colorless, List.any_filter]
  refine congrArg a.options.any (funext fun p => ?_)
  rw [Bool.eq_iff_iff, Bool.and_eq_true, beq_iff_eq, Bool.not_eq_true']
  exact and_iff_right_of_imp fun heq => heq ▸ hkey

theorem values_colorless (a : Arguments) {key : String} (hkey : isColor key = false) :
    a.colorless.values key = a.values key := by
  rw [values, values, colorless, List.filter_filter]
  refine congrArg (List.map Prod.snd) (List.filter_congr fun p _ => ?_)
  rw [Bool.eq_iff_iff, Bool.and_eq_true, beq_iff_eq, Bool.not_eq_true']
  exact and_iff_left_of_imp fun heq => heq ▸ hkey

theorem choice?_colorless (a : Arguments) {yes no : String} (hyes : isColor yes = false)
    (hno : isColor no = false) : a.colorless.choice? yes no = a.choice? yes no := by
  rw [choice?, choice?, colorless, ← List.filter_reverse, List.find?_filter]
  refine congrArg (Option.map _) (congrFun (congrArg List.find? (funext fun p => ?_)) _)
  rw [Bool.eq_iff_iff, decide_eq_true_iff, Bool.not_eq_true', Bool.or_eq_true, beq_iff_eq,
    beq_iff_eq]
  exact and_iff_right_of_imp fun h => h.elim (fun heq => heq ▸ hyes) fun heq => heq ▸ hno

/-- Without the options of color, none of them was chosen. -/
theorem choice?_colorless_color (a : Arguments) :
    a.colorless.choice? "--colored" "--plain" = none := by
  rw [choice?, Option.map_eq_none_iff, List.find?_eq_none]
  intro p hp hcolor
  rw [colorless, List.mem_reverse, List.mem_filter] at hp
  exact absurd hp.2 (by rw [isColor, hcolor]; exact Bool.false_ne_true)

/-- An option of color in front of other arguments is read as one more option. -/
theorem read_color {name : String} (hname : isColor name = true) (args : List String) :
    read renderOptions true (name :: args) =
      (read renderOptions true args).map fun a => ⟨(name, "") :: a.options, a.positional⟩ := by
  have hswitch : name ≠ "--" ∧ looksLikeOption name = true ∧
      readOption renderOptions name = some ⟨[(name, "")], none⟩ := by
    rw [isColor, Bool.or_eq_true, beq_iff_eq, beq_iff_eq] at hname
    rcases hname with rfl | rfl
    · exact ⟨by decide, by decide, rfl⟩
    · exact ⟨by decide, by decide, rfl⟩
  rw [read, read, readFrom, if_neg hswitch.1, if_pos hswitch.2.1, hswitch.2.2]
  rfl

/-- In front of other arguments, an option of color changes nothing else. -/
theorem map_colorless_read_color {name : String} (hname : isColor name = true)
    (args : List String) :
    (read renderOptions true (name :: args)).map colorless =
      (read renderOptions true args).map colorless := by
  rw [read_color hname, Option.map_map]
  refine congrArg (Option.map · _) (funext fun a => ?_)
  rw [Function.comp_apply, colorless, colorless,
    List.filter_cons_of_neg (by rw [hname]; exact Bool.false_ne_true)]

end Arguments

/-- The request of arguments without the options of color is the one without color. -/
theorem readRequest?_colorless (a : Arguments) :
    readRequest? a.colorless = (readRequest? a).map RenderRequest.uncolored := by
  rw [readRequest?, readRequest?]
  -- None of the other options has the name of one of color.
  simp only [a.value?_colorless (show isColor "--line" = false by decide),
    a.value?_colorless (show isColor "--level" = false by decide),
    a.value?_colorless (show isColor "--format" = false by decide),
    a.value?_colorless (show isColor "--date-format" = false by decide),
    a.value?_colorless (show isColor "--time-zone" = false by decide),
    a.value?_colorless (show isColor "--file" = false by decide),
    a.value?_colorless (show isColor "--function" = false by decide),
    a.has_colorless (show isColor "--full-path" = false by decide),
    a.values_colorless (show isColor "--meta" = false by decide),
    a.choice?_colorless (show isColor "--details" = false by decide)
      (show isColor "--short" = false by decide), a.choice?_colorless_color]
  have hpositional : a.colorless.positional = a.positional := rfl
  rw [hpositional]
  cases a.value? "--line" with
  | none => rcases a.positional with _ | ⟨message, _ | ⟨second, rest⟩⟩ <;> rfl
  | some text =>
      dsimp only
      cases readInteger? text with
      | none => rfl
      | some line => rcases a.positional with _ | ⟨message, _ | ⟨second, rest⟩⟩ <;> rfl

/-! ### Runs of the program -/

/-- A run that asks for a line depends on the arguments only up to the options of color. -/
theorem run_render_eq (s : Surroundings) (args : List String) :
    run s ("template" :: "render" :: args) =
      match s.settings with
      | .error f => .failed f
      | .ok _ =>
        match (Arguments.read renderOptions true args).map Arguments.colorless with
        | none => .usage
        | some a =>
          if a.has "--help" then .printed ""
          else
            match readRequest? a with
            | some r => render s r
            | none => .usage := by
  rw [run_of_command s (by decide) (by decide) rfl]
  cases s.settings with
  | error f => rfl
  | ok settings =>
      dsimp only
      rw [runTemplate, withArguments, read_word _ (by decide) (by decide)]
      change withArguments renderOptions true args _ = _
      rw [withArguments]
      cases Arguments.read renderOptions true args with
      | none => rfl
      | some a =>
          simp only [Option.map_some, a.has_colorless (show isColor "--help" = false by decide),
            readRequest?_colorless]
          cases readRequest? a with
          | none => rfl
          | some r => simp only [Option.map_some, render_uncolored]

/-- Arguments that are read alike up to the options of color end a run alike. -/
theorem run_render_congr (s : Surroundings) {args others : List String}
    (h : (Arguments.read renderOptions true args).map Arguments.colorless =
      (Arguments.read renderOptions true others).map Arguments.colorless) :
    run s ("template" :: "render" :: args) = run s ("template" :: "render" :: others) := by
  rw [run_render_eq, run_render_eq, h]

/-- The program accepts arguments as a request for a line: the settings and the arguments
    can be read, and the level, the metadata and the options of the logger are valid. -/
structure Accepts (s : Surroundings) (args : List String) (r : RenderRequest) (m : Metadata)
    (severity : Severity) (l : Logger) : Prop where
  settings : ∃ settings, s.settings = .ok settings
  request : ∃ a, Arguments.read renderOptions true args = some a ∧ a.has "--help" = false ∧
    readRequest? a = some r
  metadata : Metadata.ofPairs? r.pairs = some m
  severity : Severity.parse (.text r.level) = .ok severity
  logger : Logger.ofOptions .entry (.memory ⟨0⟩) r.options = .ok l

/-- On a clock inside the calendar, a request that was accepted has a line without color. -/
theorem Accepts.exists_lineOf_uncolored {s : Surroundings} {args : List String}
    {r : RenderRequest} {m : Metadata} {severity : Severity} {l : Logger}
    (h : Accepts s args r m severity l) (hnow : s.now.IsInside) :
    ∃ line, r.lineOf s.now m severity l.uncolored = .ok line := by
  rcases h.request with ⟨a, _, _, hrequest⟩
  have hplain := (options_of_readRequest? hrequest).2
  have hl := ofOptions_uncolored r
  rw [h.logger] at hl
  exact exists_lineOf (r := r.uncolored) ⟨hplain.format, hplain.dateFormat, hplain.formatter⟩
    hnow m severity hl

/-- A run with arguments that were accepted prints the line that is made without color. -/
theorem Accepts.run_eq {s : Surroundings} {args : List String} {r : RenderRequest} {m : Metadata}
    {severity : Severity} {l : Logger} (h : Accepts s args r m severity l) :
    run s ("template" :: "render" :: args) =
      .ofExcept ((r.lineOf s.now m severity l.uncolored).map fun line =>
        stripAnsi line ++ "\n") := by
  rcases h.request with ⟨a, hread, hhelp, hrequest⟩
  rw [run_template_render h.settings hread hhelp hrequest,
    render_of_made h.metadata h.severity h.logger]

/-- Rendering that succeeds has read the metadata and the level, and made the logger. -/
theorem exists_of_code_render {s : Surroundings} {r : RenderRequest}
    (h : (render s r).code = 0) :
    ∃ m severity l, Metadata.ofPairs? r.pairs = some m ∧
      Severity.parse (.text r.level) = .ok severity ∧
      Logger.ofOptions .entry (.memory ⟨0⟩) r.options = .ok l := by
  cases hm : Metadata.ofPairs? r.pairs with
  | none =>
      rw [(render_eq_usage_iff s r).mpr hm] at h
      exact absurd h (by decide)
  | some m =>
      cases hlevel : Severity.parse (.text r.level) with
      | error failure =>
          rw [render, hm] at h
          simp only [hlevel, bind, Except.bind] at h
          split at h
          · exact absurd h (code_complain _ ▸ Nat.one_ne_zero)
          · exact absurd h Nat.one_ne_zero
      | ok severity =>
          rw [render_of_level hm hlevel] at h
          cases hl : Logger.ofOptions .entry (.memory ⟨0⟩) r.options with
          | error failure =>
              rw [hl] at h
              dsimp only at h
              split at h
              · exact absurd h (code_complain _ ▸ Nat.one_ne_zero)
              · exact absurd h Nat.one_ne_zero
          | ok l => exact ⟨m, severity, l, rfl, rfl, rfl⟩

/-- A run that asks for a line and not for help accepts its arguments if it succeeds. -/
theorem exists_accepts {s : Surroundings} {args : List String} {a : Arguments}
    (hread : Arguments.read renderOptions true args = some a) (hhelp : a.has "--help" = false)
    (h : (run s ("template" :: "render" :: args)).code = 0) :
    ∃ r m severity l, Accepts s args r m severity l := by
  rw [run_render_eq, hread] at h
  cases hs : s.settings with
  | error failure =>
      rw [hs] at h
      exact absurd h Nat.one_ne_zero
  | ok settings =>
      simp only [hs, Option.map_some, a.has_colorless (show isColor "--help" = false by decide),
        hhelp, Bool.false_eq_true, if_false, readRequest?_colorless] at h
      cases hrequest : readRequest? a with
      | none =>
          rw [hrequest] at h
          exact absurd h (Nat.succ_ne_zero 1)
      | some r =>
          simp only [hrequest, Option.map_some, render_uncolored] at h
          rcases exists_of_code_render h with ⟨m, severity, l, hm, hlevel, hl⟩
          exact ⟨r, m, severity, l, ⟨settings, hs⟩, ⟨a, hread, hhelp, hrequest⟩, hm, hlevel, hl⟩

/-- Color is not printed. The program prints for a line in color what it prints for the
    plain line: arguments behind one option of color end as behind the other one, and in
    general as all arguments that are read alike up to these options. Arguments are
    accepted if they end well and do not ask for help. If they are accepted, the output
    is the line without color, freed of its sequences, and a line feed; and there is such
    a line on every clock inside the calendar. -/
theorem color_not_printed (s : Surroundings) (args : List String) :
    run s ("template" :: "render" :: "--colored" :: args) =
        run s ("template" :: "render" :: "--plain" :: args) ∧
      (∀ others,
        (Arguments.read renderOptions true args).map Arguments.colorless =
            (Arguments.read renderOptions true others).map Arguments.colorless →
          run s ("template" :: "render" :: args) = run s ("template" :: "render" :: others)) ∧
      (∀ a, Arguments.read renderOptions true args = some a → a.has "--help" = false →
        (run s ("template" :: "render" :: args)).code = 0 →
          ∃ r m severity l, Accepts s args r m severity l) ∧
      ∀ r m severity l, Accepts s args r m severity l →
        run s ("template" :: "render" :: args) =
            .ofExcept ((r.lineOf s.now m severity l.uncolored).map fun line =>
              stripAnsi line ++ "\n") ∧
          (s.now.IsInside → ∃ line, r.lineOf s.now m severity l.uncolored = .ok line ∧
            run s ("template" :: "render" :: args) = .printed (stripAnsi line ++ "\n")) := by
  refine ⟨?_, fun others h => run_render_congr s h, fun a hread hhelp h =>
    exists_accepts hread hhelp h, fun r m severity l h => ?_⟩
  · apply run_render_congr
    rw [Arguments.map_colorless_read_color (by decide), Arguments.map_colorless_read_color
      (by decide)]
  · have hrun := h.run_eq
    refine ⟨hrun, fun hnow => ?_⟩
    rcases h.exists_lineOf_uncolored hnow with ⟨line, hline⟩
    refine ⟨line, hline, ?_⟩
    rw [hrun, hline]
    rfl

/-- The request of a line in color that starts with a sequence of its own and breaks off
    within another one. -/
def RenderRequest.cutOff : RenderRequest :=
  ⟨"up\x1b[", "entry", { colored := .bool true, format := .text "\x1b[1m(%type) (%msg)" },
    "app/main.py", "main()", 1, []⟩

/-- The logger of that request. -/
def cutOffLogger : Logger where
  threshold := .entry
  sink := .memory ⟨0⟩
  colored := .bool true
  details := .bool true
  fullFilePath := .bool false
  format := .text "\x1b[1m(%type) (%msg)"
  template := some (Template.ofText "\x1b[1m(%type) (%msg)")
  formatter := none
  dateFormat := .null
  timeZone := .home
  dateFormatter := ⟨.null, .home⟩

theorem accepts_cutOff :
    Accepts Surroundings.bare
      ["up\x1b[", "--colored", "--level=entry", "--format=\x1b[1m(%type) (%msg)"]
      .cutOff [] .entry cutOffLogger where
  settings := inOrder_bare.settings
  request := ⟨_, rfl, rfl, rfl⟩
  metadata := rfl
  severity := rfl
  logger := rfl

/-- The line keeps the sequence that it breaks off within, and nothing of the colors. -/
theorem color_not_printed_cut_off :
    Accepts Surroundings.bare
        ["up\x1b[", "--colored", "--level=entry", "--format=\x1b[1m(%type) (%msg)"]
        .cutOff [] .entry cutOffLogger ∧
      run Surroundings.bare ["template", "render",
          "up\x1b[", "--colored", "--level=entry", "--format=\x1b[1m(%type) (%msg)"] =
        .printed "ENTRY up\x1b[\n" ∧
      run Surroundings.bare ["template", "render",
          "up\x1b[", "--level=entry", "--format=\x1b[1m(%type) (%msg)", "--plain"] =
        .printed "ENTRY up\x1b[\n" ∧
      ∃ r m severity l, Accepts Surroundings.bare
        ["up\x1b[", "--level=entry", "--format=\x1b[1m(%type) (%msg)", "--plain"]
        r m severity l := by
  have hline : (RenderRequest.cutOff.lineOf Surroundings.bare.now [] .entry
      cutOffLogger.uncolored).toOption = some "\x1b[1mENTRY up\x1b[" := by decide +kernel
  have hstrip : stripAnsi "\x1b[1mENTRY up\x1b[" = "ENTRY up\x1b[" := by decide +kernel
  rcases color_not_printed Surroundings.bare
    ["up\x1b[", "--colored", "--level=entry", "--format=\x1b[1m(%type) (%msg)"]
    with ⟨_, hothers, _, hprinted⟩
  rcases (hprinted _ _ _ _ accepts_cutOff).2 inOrder_bare.now with ⟨line, hfound, hrun⟩
  rw [hfound] at hline
  rw [Option.some.inj hline, hstrip] at hrun
  have hplain := (hothers
    ["up\x1b[", "--level=entry", "--format=\x1b[1m(%type) (%msg)", "--plain"] rfl).symm.trans hrun
  refine ⟨accepts_cutOff, hrun, hplain, ?_⟩
  exact (color_not_printed Surroundings.bare _).2.2.1 _ rfl rfl (congrArg Outcome.code hplain)

end Cli

end TextLog
