import TextLog.Console.Ansi
import TextLog.Logger

/-!
# Terminal Sequences beside Texts

Sequences that are put in front of a text and behind it are taken out again, whatever
the text is.

A text may hold sequences of its own, and it may end in the middle of one, so what is
taken out of a text could reach into what stands behind it. It cannot reach over an
escape character: a sequence is begun by one and has no other, and so a text can be cut
in front of every escape character (`stripChars_append`). The same holds of a line feed.
A line in color is therefore the plain line once its sequences are taken out, even if
the line itself begins a sequence that the code behind it would have ended.

## Main definitions

* `IsSequence`: The characters are a sequence.
* `Interrupts`: A character that no sequence has behind its first character.
* `Logger.uncolored`: The logger without color.

## Theorems

* `stripChars_append`: Texts can be cut where a sequence is interrupted.
* `stripChars_sequence_append`, `stripChars_append_sequence`: Sequences are taken out
  wherever they stand.
* `isSequence_code`: Colors are switched on by sequences.
* `stripAnsi_lineFeed`, `stripAnsi_colorize`: A line and its color.
* `map_stripAnsi_formatEvent`: Lines of loggers, with color and without.
-/

namespace TextLog

namespace Console

/-! ### What a sequence can be -/

/-- An escape character, an opening bracket, parameters and a letter. -/
def IsSequence (cs : List Char) : Prop :=
  ∃ parameters letter, cs = '\x1b' :: '[' :: (parameters ++ [letter]) ∧
    (∀ c ∈ parameters, isParameter c = true) ∧ isParameter letter = false ∧
    letter.isAlpha = true

/-- A character that stands in no sequence but at its start. -/
structure Interrupts (c : Char) : Prop where
  ne_open : c ≠ '['
  not_parameter : isParameter c = false
  not_letter : c.isAlpha = false

theorem interrupts_escape : Interrupts '\x1b' :=
  ⟨by decide, by decide, by decide⟩

theorem interrupts_lineFeed : Interrupts '\n' :=
  ⟨by decide, by decide, by decide⟩

theorem afterLetter?_parameters {parameters : List Char}
    (h : ∀ c ∈ parameters, isParameter c = true) (cs : List Char) :
    afterLetter? (parameters ++ cs) = afterLetter? cs := by
  induction parameters with
  | nil => rfl
  | cons c parameters ih =>
      rw [List.cons_append, afterLetter?, if_pos (h c List.mem_cons_self),
        ih fun b hb => h b (List.mem_cons_of_mem c hb)]

/-- A sequence ends at its letter, whatever stands behind it. -/
theorem sequence?_append_of_isSequence {cs : List Char} (h : IsSequence cs) (rest : List Char) :
    sequence? (cs ++ rest) = some rest := by
  rcases h with ⟨parameters, letter, rfl, hparameters, hletter, halpha⟩
  have hend : afterLetter? (letter :: rest) = some rest := by
    rw [afterLetter?, hletter, if_neg Bool.false_ne_true, if_pos halpha]
  change afterLetter? (parameters ++ [letter] ++ rest) = some rest
  rw [List.append_assoc, afterLetter?_parameters hparameters, List.singleton_append, hend]

/-! ### Texts that are cut -/

theorem afterLetter?_append {c : Char} (hc : Interrupts c) (cs ds : List Char) :
    afterLetter? (cs ++ c :: ds) = (afterLetter? cs).map (· ++ c :: ds) := by
  induction cs with
  | nil =>
      have hnone : afterLetter? (c :: ds) = none := by
        rw [afterLetter?, hc.not_parameter, hc.not_letter, if_neg Bool.false_ne_true,
          if_neg Bool.false_ne_true]
      exact hnone
  | cons b cs ih =>
      rw [List.cons_append, afterLetter?, afterLetter?, ih]
      by_cases hparameter : isParameter b = true
      · rw [if_pos hparameter, if_pos hparameter]
      · rw [if_neg hparameter, if_neg hparameter]
        by_cases hletter : b.isAlpha = true
        · rw [if_pos hletter, if_pos hletter, Option.map_some]
        · rw [if_neg hletter, if_neg hletter, Option.map_none]

theorem sequence?_of_ne_escape {b : Char} (hb : b ≠ '\x1b') (cs : List Char) :
    sequence? (b :: cs) = none := by
  unfold sequence?
  split
  · rename_i rest heq
    exact absurd (List.cons.inj heq).1 hb
  · rfl

theorem sequence?_of_ne_open {b : Char} (hb : b ≠ '[') (cs : List Char) :
    sequence? ('\x1b' :: b :: cs) = none := by
  unfold sequence?
  split
  · rename_i rest heq
    exact absurd (List.cons.inj (List.cons.inj heq).2).1 hb
  · rfl

/-- What a text starts with is a sequence of its own, also if more stands behind it. -/
theorem sequence?_append {c : Char} (hc : Interrupts c) (b : Char) (cs ds : List Char) :
    sequence? (b :: cs ++ c :: ds) = (sequence? (b :: cs)).map (· ++ c :: ds) := by
  by_cases hescape : b = '\x1b'
  · subst hescape
    cases cs with
    | nil => exact sequence?_of_ne_open hc.ne_open ds
    | cons d cs =>
        by_cases hopen : d = '['
        · subst hopen
          exact afterLetter?_append hc cs ds
        · rw [List.cons_append, List.cons_append, sequence?_of_ne_open hopen,
            sequence?_of_ne_open hopen, Option.map_none]
  · rw [List.cons_append, sequence?_of_ne_escape hescape, sequence?_of_ne_escape hescape,
      Option.map_none]

theorem stripChars_of_sequence? {b : Char} {cs after : List Char}
    (h : sequence? (b :: cs) = some after) : stripChars (b :: cs) = stripChars after := by
  rw [stripChars]
  split
  · rename_i heq
    rw [Option.some.inj (heq.symm.trans h)]
  · rename_i heq
    exact absurd (heq.symm.trans h) (by simp only [reduceCtorEq, not_false_eq_true])

theorem stripChars_of_sequence?_eq_none {b : Char} {cs : List Char}
    (h : sequence? (b :: cs) = none) : stripChars (b :: cs) = b :: stripChars cs := by
  rw [stripChars]
  split
  · rename_i heq
    exact absurd (heq.symm.trans h) (by simp only [reduceCtorEq, not_false_eq_true])
  · rfl

/-- A text can be cut in front of a character that interrupts sequences. -/
theorem stripChars_append {c : Char} (hc : Interrupts c) (cs ds : List Char) :
    stripChars (cs ++ c :: ds) = stripChars cs ++ stripChars (c :: ds) := by
  induction cs using stripChars.induct with
  | case1 => rw [stripChars, List.nil_append, List.nil_append]
  | case2 b cs after hsequence ih =>
      have hjoined : sequence? (b :: (cs ++ c :: ds)) = some (after ++ c :: ds) := by
        rw [← List.cons_append, sequence?_append hc, hsequence, Option.map_some]
      rw [List.cons_append, stripChars_of_sequence? hjoined, ih, stripChars_of_sequence? hsequence]
  | case3 b cs hsequence ih =>
      have hjoined : sequence? (b :: (cs ++ c :: ds)) = none := by
        rw [← List.cons_append, sequence?_append hc, hsequence, Option.map_none]
      rw [List.cons_append, stripChars_of_sequence?_eq_none hjoined, ih,
        stripChars_of_sequence?_eq_none hsequence, List.cons_append]

/-- A sequence in front of a text is taken out. -/
theorem stripChars_sequence_append {cs : List Char} (h : IsSequence cs) (ds : List Char) :
    stripChars (cs ++ ds) = stripChars ds := by
  have hsequence := sequence?_append_of_isSequence h ds
  rcases h with ⟨parameters, letter, rfl, _⟩
  rw [List.cons_append] at hsequence ⊢
  exact stripChars_of_sequence? hsequence

/-- A sequence behind a text is taken out, even if the text ends within another one. -/
theorem stripChars_append_sequence {cs : List Char} (h : IsSequence cs) (bs ds : List Char) :
    stripChars (bs ++ (cs ++ ds)) = stripChars bs ++ stripChars ds := by
  have hstrip := stripChars_sequence_append h ds
  rcases h with ⟨parameters, letter, rfl, _⟩
  rw [List.cons_append] at hstrip ⊢
  rw [stripChars_append interrupts_escape, hstrip]

/-! ### Lines in color -/

theorem isSequence_code (c : Color) : IsSequence c.code.toList := by
  refine ⟨(c.code.toList.drop 2).dropLast, 'm', ?_, ?_, by decide, by decide⟩
  · cases c <;> rfl
  · rw [← List.all_eq_true]
    cases c <;> rfl

theorem stripChars_lineFeed : stripChars ['\n'] = ['\n'] := by
  rw [stripChars_of_sequence?_eq_none rfl, stripChars]

/-- The line feed behind a line stays. -/
theorem stripAnsi_lineFeed (line : String) : stripAnsi (line ++ "\n") = stripAnsi line ++ "\n" := by
  rw [stripAnsi, stripAnsi, String.toList_append, show "\n".toList = ['\n'] from rfl,
    stripChars_append interrupts_lineFeed, stripChars_lineFeed, String.ofList_append]

/-- A line in color is the plain line once its sequences are taken out. -/
theorem stripAnsi_colorize (line : String) (s : Severity) :
    stripAnsi (colorize line s ++ "\n") = stripAnsi line ++ "\n" := by
  rw [← stripAnsi_lineFeed, stripAnsi, stripAnsi, colorize]
  simp only [String.toList_append, List.append_assoc]
  rw [stripChars_sequence_append (isSequence_code s.color),
    stripChars_append_sequence (isSequence_code .foreground),
    show "\n".toList = ['\n'] from rfl, stripChars_append interrupts_lineFeed]

end Console

namespace Logger

open Console

/-- The logger without color. -/
def uncolored (l : Logger) : Logger :=
  { l with colored := .bool false }

theorem stripAnsi_paint (l : Logger) (s : Severity) (line : String) :
    stripAnsi (l.paint s line ++ "\n") = stripAnsi line ++ "\n" := by
  rw [paint]
  split
  · exact stripAnsi_colorize line s
  · exact stripAnsi_lineFeed line

/-- The line of an entry is the same without color once its sequences are taken out. -/
theorem map_stripAnsi_render (l : Logger) (entry : Entry) :
    ((l.render entry).map fun line => stripAnsi (line ++ "\n")) =
      (l.uncolored.render entry).map fun line => stripAnsi line ++ "\n" := by
  have hmode : l.uncolored.mode = l.mode := rfl
  rw [render, render, hmode]
  cases l.mode with
  | formatter f => simp only [stripAnsi_lineFeed]
  | template t => exact congrArg Except.ok (stripAnsi_paint l entry.severity _)
  | layout => exact congrArg Except.ok (stripAnsi_paint l entry.severity _)

/-- So is the line of an event; and it fails alike. -/
theorem map_stripAnsi_formatEvent (l : Logger) (occasion : Time.Occasion) (e : Event)
    (metadata : Option String) (label : Value) :
    ((l.formatEvent occasion e metadata label).map fun line => stripAnsi (line ++ "\n")) =
      (l.uncolored.formatEvent occasion e metadata label).map fun line =>
        stripAnsi line ++ "\n" := by
  have hdate : l.uncolored.dateFormatter = l.dateFormatter := rfl
  have hfile : l.uncolored.shownFile e.file = l.shownFile e.file := rfl
  have hmode : l.uncolored.mode = l.mode := rfl
  rw [formatEvent, formatEvent, hdate, hfile, hmode]
  cases l.dateFormatter.formatAt occasion with
  | error failure => rfl
  | ok date =>
      cases l.shownFile e.file with
      | error failure => rfl
      | ok file =>
          simp only [Except.bind]
          cases l.mode.accepts { e with file := file } label with
          | error failure => rfl
          | ok _ => exact map_stripAnsi_render l _

end Logger

end TextLog
