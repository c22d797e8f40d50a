import Mathlib.Data.List.TakeWhile
import TextLog.Proofs.Console.Crop

/-!
# The Start of a Layout

A text that starts with a word is laid out with that word at its start.

Laying out drops characters, fills up tabs, breaks lines, cuts words and trims
blanks, and what follows the first word can be anything. None of this touches a
first word that is visible and fits in a line: it is not broken, it is the first
on its line, and no blank in front of it or in it could be trimmed.

## Main definitions

* `IsPlainWord`: A word that is visible and fits in a line.

## Theorems

* `splitLines_append`, `expandTabs_append`: Cutting lines and filling tabs.
* `placeWords_cons_done`, `placeWords_start`: Placing words.
* `stripRight_append`, `trimOverhang_append`: Trimming blanks.
* `layOutText_start`: The layout starts with the word.
-/

namespace TextLog

namespace Console

/-- A word that is visible and fits in a line. -/
structure IsPlainWord (word : List Char) : Prop where
  ne_nil : word ≠ []
  not_blank : ∀ c ∈ word, Text.isBlank c = false
  not_hidden : ∀ c ∈ word, isHidden c = false
  fits : width word ≤ consoleWidth

theorem ne_of_not_blank {c d : Char} (hc : Text.isBlank c = false) (hd : Text.isBlank d = true) :
    c ≠ d := by
  intro heq
  rw [heq, hd] at hc
  exact absurd hc (by decide)

/-! ### Lines and tabs -/

theorem exists_of_splitLines (cs : List Char) : ∃ line more, splitLines cs = line :: more := by
  unfold splitLines
  split
  · exact ⟨[], [], rfl⟩
  · exact ⟨[], _, rfl⟩
  · split <;> exact ⟨_, _, rfl⟩

/-- What has no line feed stays at the start of the first line. -/
theorem splitLines_append (pre cs : List Char) (hpre : ∀ c ∈ pre, c ≠ '\n') :
    ∃ line more, splitLines (pre ++ cs) = (pre ++ line) :: more := by
  induction pre with
  | nil => exact exists_of_splitLines cs
  | cons c pre ih =>
      have hc : c ≠ '\n' := hpre c List.mem_cons_self
      rcases ih fun d hd => hpre d (List.mem_cons_of_mem c hd) with ⟨line, more, hlines⟩
      refine ⟨line, more, ?_⟩
      rw [List.cons_append, splitLines, hlines]
      · rfl
      · exact hc

/-- What was read since the last tab comes first. -/
theorem exists_of_expandTabsFrom (cell : Nat) (part cs : List Char) :
    ∃ tail, expandTabsFrom cell part cs = part.reverse ++ tail := by
  induction cs generalizing cell part with
  | nil => exact ⟨[], (List.append_nil _).symm⟩
  | cons c cs ih =>
      by_cases hc : c = '\t'
      · rw [hc, expandTabsFrom, List.reverse_cons, List.append_assoc, List.append_assoc]
        exact ⟨_, rfl⟩
      · rcases ih cell (c :: part) with ⟨tail, htail⟩
        rw [expandTabsFrom, htail, List.reverse_cons, List.append_assoc]
        · exact ⟨_, rfl⟩
        · exact fun heq => absurd heq hc

/-- What has no tab stays at the start of a line. -/
theorem expandTabs_append (pre cs : List Char) (hpre : ∀ c ∈ pre, c ≠ '\t') :
    ∃ tail, expandTabs (pre ++ cs) = pre ++ tail := by
  have hread : ∀ part : List Char, expandTabsFrom 0 part (pre ++ cs) =
      expandTabsFrom 0 (pre.reverse ++ part) cs := by
    induction pre with
    | nil => exact fun part => rfl
    | cons c pre ih =>
        intro part
        have hc : c ≠ '\t' := hpre c List.mem_cons_self
        rw [List.cons_append, expandTabsFrom, ih fun d hd => hpre d (List.mem_cons_of_mem c hd),
          List.reverse_cons, List.append_assoc]
        · rfl
        · exact fun heq => absurd heq hc
  rcases exists_of_expandTabsFrom 0 (pre.reverse ++ []) cs with ⟨tail, htail⟩
  rw [List.reverse_append, List.reverse_reverse] at htail
  exact ⟨tail, (hread []).trans htail⟩

/-! ### Placing words -/

/-- Lines that are finished stay. -/
theorem placePieces_cons_done (pieces : List (List Char)) (line : List Char)
    (done : List (List Char)) (current : List Char) :
    ∃ more last, placePieces pieces (line :: done) current = (line :: more, last) := by
  induction pieces generalizing done current with
  | nil => exact ⟨done, current, rfl⟩
  | cons piece rest ih =>
      rw [placePieces]
      by_cases hcurrent : current.isEmpty = true
      · rw [if_pos hcurrent]
        exact ih done piece
      · rw [if_neg hcurrent]
        exact ih (done ++ [current]) piece

theorem placeWords_cons_done (fold : Bool) (limit : Nat) (words : List (List Char))
    (line : List Char) (done : List (List Char)) (current : List Char) (cells : Nat) :
    ∃ more, placeWords fold limit words (line :: done) current cells = line :: more := by
  induction words generalizing done current cells with
  | nil => exact ⟨done ++ [current], rfl⟩
  | cons word rest ih =>
      rw [placeWords]
      by_cases hfits : cells + width (Text.stripRight word) ≤ limit
      · rw [if_pos hfits]
        exact ih done (current ++ word) (cells + width word)
      · rw [if_neg hfits]
        rcases placePieces_cons_done
          (if fold && limit < width (Text.stripRight word) then chop limit word else [word]) line
          done current with ⟨more, last, hplaced⟩
        simp only [hplaced]
        exact ih more last (width last)

/-- A line that is not empty stays the start of the first line. -/
theorem placeWords_start (fold : Bool) (limit : Nat) (words : List (List Char))
    (current : List Char) (cells : Nat) (hcurrent : current ≠ []) :
    ∃ line more, placeWords fold limit words [] current cells = (current ++ line) :: more := by
  induction words generalizing current cells with
  | nil => exact ⟨[], [], by rw [List.append_nil]; rfl⟩
  | cons word rest ih =>
      rw [placeWords]
      by_cases hfits : cells + width (Text.stripRight word) ≤ limit
      · rw [if_pos hfits]
        have hlonger : current ++ word ≠ [] := by
          intro hnil
          exact hcurrent (List.append_eq_nil_iff.mp hnil).1
        rcases ih (current ++ word) (cells + width word) hlonger with ⟨line, more, hplaced⟩
        exact ⟨word ++ line, more, by rw [hplaced, List.append_assoc]⟩
      · rw [if_neg hfits]
        -- Either there is nothing to place, or the line is finished first.
        generalize (if fold && limit < width (Text.stripRight word) then chop limit word
          else [word]) = parts
        cases parts with
        | nil => exact ih current _ hcurrent
        | cons piece pieces =>
            have hempty : ¬ current.isEmpty = true := by
              rw [List.isEmpty_iff]
              exact hcurrent
            rcases placePieces_cons_done pieces current [] piece with ⟨more, last, hplaced⟩
            simp only [placePieces, if_neg hempty, List.nil_append, hplaced]
            rcases placeWords_cons_done fold limit rest current more last (width last) with
              ⟨more, hrest⟩
            exact ⟨[], more, by rw [hrest, List.append_nil]⟩

/-! ### Trimming -/

/-- Stripping blanks does not reach beyond a character that is none. -/
theorem stripRight_append (word tail : List Char) (hword : ∀ c ∈ word, Text.isBlank c = false) :
    ∃ kept, Text.stripRight (word ++ tail) = word ++ kept := by
  have hlast : word.reverse.dropWhile Text.isBlank = word.reverse := by
    rcases hrev : word.reverse with _ | ⟨c, rest⟩
    · rfl
    · have hmem : c ∈ word := List.mem_reverse.mp (hrev ▸ List.mem_cons_self)
      rw [List.dropWhile_cons, hword c hmem]
      rfl
  rw [Text.stripRight, List.reverse_append, List.dropWhile_append]
  by_cases hblank : (tail.reverse.dropWhile Text.isBlank).isEmpty = true
  · rw [if_pos hblank, hlast, List.reverse_reverse]
    exact ⟨[], (List.append_nil word).symm⟩
  · rw [if_neg hblank, List.reverse_append, List.reverse_reverse]
    exact ⟨_, rfl⟩

/-- Trimming a line leaves the word at its start. -/
theorem trimOverhang_append (limit : Nat) (word tail : List Char)
    (hword : ∀ c ∈ word, Text.isBlank c = false) :
    ∃ kept, trimOverhang limit (word ++ tail) = word ++ kept := by
  rcases stripRight_append word tail hword with ⟨stripped, hstripped⟩
  have hlength : (Text.stripRight (word ++ tail)).length = word.length + stripped.length := by
    rw [hstripped, List.length_append]
  rw [trimOverhang, hlength]
  -- No more is cut off than there are blanks behind the word.
  generalize hkeep : (word ++ tail).length - min ((word ++ tail).length - limit)
    ((word ++ tail).length - (word.length + stripped.length)) = keep
  have hkeep' : word.length ≤ keep := by
    rw [← hkeep, List.length_append]
    omega
  rw [List.take_append, List.take_of_length_le hkeep']
  exact ⟨_, rfl⟩

/-! ### The layout -/

/-- The first word of a line with the blanks behind it. -/
theorem nextWord?_start {word : List Char} (hword : IsPlainWord word) (tail : List Char) :
    ∃ blanks rest, nextWord? (word ++ ' ' :: tail) = some (word ++ ' ' :: blanks, rest) ∧
      ∀ c ∈ blanks, Text.isBlank c = true := by
  have hpos : ∀ c ∈ word, (!Text.isBlank c) = true := by
    intro c hc
    rw [hword.not_blank c hc]
    rfl
  have hspace : Text.isBlank ' ' = true := by decide
  have hlead : (word ++ ' ' :: tail).takeWhile Text.isBlank = [] ∧
      (word ++ ' ' :: tail).dropWhile Text.isBlank = word ++ ' ' :: tail := by
    rcases hcs : word with _ | ⟨c, rest⟩
    · exact absurd hcs hword.ne_nil
    · have hc : Text.isBlank c = false := hword.not_blank c (hcs ▸ List.mem_cons_self)
      rw [List.cons_append, List.takeWhile_cons, List.dropWhile_cons, hc]
      exact ⟨rfl, rfl⟩
  have htake : (word ++ ' ' :: tail).takeWhile (fun c => !Text.isBlank c) = word := by
    rw [List.takeWhile_append_of_pos hpos, List.takeWhile_cons, hspace]
    exact List.append_nil word
  have hdrop : (word ++ ' ' :: tail).dropWhile (fun c => !Text.isBlank c) = ' ' :: tail := by
    rw [List.dropWhile_append_of_pos hpos, List.dropWhile_cons, hspace]
    rfl
  have hempty : ¬ word.isEmpty = true := by
    rw [List.isEmpty_iff]
    exact hword.ne_nil
  refine ⟨tail.takeWhile Text.isBlank, tail.dropWhile Text.isBlank, ?_, ?_⟩
  · rw [nextWord?]
    simp only [hlead.1, hlead.2, htake, hdrop, if_neg hempty, List.takeWhile_cons,
      List.dropWhile_cons, hspace, if_true, List.nil_append]
  · intro c hc
    exact List.mem_takeWhile_imp hc

/-- A line that starts with a word is broken into lines of which the first starts
    with it. -/
theorem wrapLine_start {word : List Char} (hword : IsPlainWord word) (tail : List Char) :
    ∃ line more, wrapLine true consoleWidth (word ++ ' ' :: tail) = (word ++ line) :: more := by
  rcases nextWord?_start hword tail with ⟨blanks, rest, hnext, hblanks⟩
  have hwords : ∃ more, wordsFrom (word ++ ' ' :: tail).length (word ++ ' ' :: tail) =
      (word ++ ' ' :: blanks) :: more := by
    rcases hlength : (word ++ ' ' :: tail).length with _ | fuel
    · rw [List.length_append, List.length_cons] at hlength
      omega
    · exact ⟨_, by rw [wordsFrom, hnext]⟩
  rcases hwords with ⟨more, hwords⟩
  have hstrip : Text.stripRight (word ++ ' ' :: blanks) = word := by
    have hall : ∀ c ∈ (' ' :: blanks).reverse, Text.isBlank c = true := by
      intro c hc
      rcases List.mem_cons.mp (List.mem_reverse.mp hc) with hspace | hmem
      · rw [hspace]
        decide
      · exact hblanks c hmem
    have hlast : word.reverse.dropWhile Text.isBlank = word.reverse := by
      rcases hrev : word.reverse with _ | ⟨c, rest⟩
      · rfl
      · have hmem : c ∈ word := List.mem_reverse.mp (hrev ▸ List.mem_cons_self)
        rw [List.dropWhile_cons, hword.not_blank c hmem]
        rfl
    rw [Text.stripRight, List.reverse_append, List.dropWhile_append_of_pos hall, hlast,
      List.reverse_reverse]
  have hfits : 0 + width (Text.stripRight (word ++ ' ' :: blanks)) ≤ consoleWidth := by
    rw [hstrip, Nat.zero_add]
    exact hword.fits
  have hne : [] ++ (word ++ ' ' :: blanks) ≠ [] := by
    simp only [List.nil_append, ne_eq, List.append_eq_nil_iff, reduceCtorEq, and_false,
      not_false_eq_true]
  rcases placeWords_start true consoleWidth more ([] ++ (word ++ ' ' :: blanks))
    (0 + width (word ++ ' ' :: blanks)) hne with ⟨line, lines, hplaced⟩
  rw [List.nil_append, List.append_assoc] at hplaced
  rcases trimOverhang_append consoleWidth word (' ' :: blanks ++ line)
    hword.not_blank with ⟨kept, htrim⟩
  refine ⟨kept, lines.map (trimOverhang consoleWidth), ?_⟩
  rw [wrapLine, hwords]
  simp only [List.isEmpty_cons, Bool.false_eq_true, if_false, placeWords, if_pos hfits,
    List.nil_append]
  rw [hplaced, List.map_cons, htrim]

/-- A text that starts with a visible word that fits in a line is laid out with
    the word at its start, whatever follows behind the blank. -/
theorem layOutText_start {word : List Char} (hword : IsPlainWord word) (tail : List Char) :
    ∃ rest, layOutText (String.ofList (word ++ ' ' :: tail)) = String.ofList word ++ rest := by
  have hvisible : (word ++ ' ' :: tail).filter (fun c => !isHidden c) =
      word ++ ' ' :: tail.filter fun c => !isHidden c := by
    have hspace : (!isHidden ' ') = true := by decide
    have hall : ∀ c ∈ word, (!isHidden c) = true := by
      intro c hc
      rw [hword.not_hidden c hc]
      rfl
    rw [List.filter_append, List.filter_eq_self.mpr hall, List.filter_cons, if_pos hspace]
  generalize hshown : (tail.filter fun c => !isHidden c) = shown at hvisible
  have hfeed : ∀ c ∈ word ++ [' '], c ≠ '\n' := by
    intro c hc
    rcases List.mem_append.mp hc with hmem | hmem
    · exact ne_of_not_blank (hword.not_blank c hmem) (by decide)
    · rw [List.mem_singleton.mp hmem]
      decide
  have htab : ∀ c ∈ word ++ [' '], c ≠ '\t' := by
    intro c hc
    rcases List.mem_append.mp hc with hmem | hmem
    · exact ne_of_not_blank (hword.not_blank c hmem) (by decide)
    · rw [List.mem_singleton.mp hmem]
      decide
  rcases splitLines_append (word ++ [' ']) shown hfeed with ⟨line, more, hlines⟩
  rcases expandTabs_append (word ++ [' ']) line htab with ⟨filled, hfilled⟩
  simp only [List.append_assoc, List.cons_append, List.nil_append] at hlines hfilled
  rcases wrapLine_start hword filled with ⟨first, others, hwrapped⟩
  rcases cropLine_append consoleWidth word first hword.not_blank with ⟨kept, hcropped⟩
  rw [layOutText, String.toList_ofList]
  simp only [hvisible, hlines, List.flatMap_cons, hfilled, hwrapped, List.cons_append,
    List.map_cons, hcropped, String.join_cons, String.ofList_append, String.append_assoc]
  exact ⟨_, rfl⟩

end Console

end TextLog
