import TextLog.Proofs.Console.Layout

/-!
# Visible Characters

Laying out a text leaves its visible characters as they are.

A text is cut at line feeds, its tabs are filled up, its lines are broken between words,
words are cut and blanks that stick out are taken away. All of this happens to blanks, to
characters that are not shown, and between characters. So two texts with the same layout
have the same visible characters (`visible_layOutText`), and a character that is missing
from one of them is missing from the console.

## Main definitions

* `isVisible`: A character that is neither blank nor hidden.
* `visible`: The visible characters of a text.

## Theorems

* `visible_splitLines`, `visible_expandTabs`: Lines and tabs.
* `flatten_chop`, `flatten_placeWords`: Placing words leaves out nothing.
* `visible_wordsFrom`, `visible_trimOverhang`, `visible_cropLine`: Only blanks are left out.
* `visible_wrapLine`, `visible_layOutText`: The layout of a line and of a text.
-/

namespace TextLog

namespace Console

/-- A character that leaves a mark on the console. -/
def isVisible (c : Char) : Bool :=
  !Text.isBlank c && !isHidden c

/-- The visible characters of a text. -/
def visible (cs : List Char) : List Char :=
  cs.filter isVisible

theorem visible_append (xs ys : List Char) : visible (xs ++ ys) = visible xs ++ visible ys :=
  List.filter_append xs ys

theorem visible_cons (c : Char) (cs : List Char) :
    visible (c :: cs) = if isVisible c then c :: visible cs else visible cs :=
  List.filter_cons

theorem isVisible_of_isBlank {c : Char} (hc : Text.isBlank c = true) : isVisible c = false := by
  rw [isVisible, hc]
  rfl

/-- There is nothing to see in blanks. -/
theorem visible_of_blanks {cs : List Char} (hcs : ∀ c ∈ cs, Text.isBlank c = true) :
    visible cs = [] := by
  refine List.filter_eq_nil_iff.mpr fun c hc => ?_
  rw [isVisible_of_isBlank (hcs c hc)]
  exact Bool.false_ne_true

theorem visible_flatten (lines : List (List Char)) :
    visible lines.flatten = lines.flatMap visible := by
  induction lines with
  | nil => rfl
  | cons line lines ih => rw [List.flatten_cons, visible_append, ih, List.flatMap_cons]

theorem visible_filter_hidden (cs : List Char) :
    visible (cs.filter fun c => !isHidden c) = visible cs := by
  rw [visible, visible, List.filter_filter]
  refine List.filter_congr fun c _ => ?_
  rw [isVisible, Bool.and_assoc, Bool.and_self]

/-! ### Lines and tabs -/

theorem visible_splitLines (cs : List Char) : (splitLines cs).flatMap visible = visible cs := by
  induction cs with
  | nil => rfl
  | cons c cs ih =>
      by_cases hc : c = '\n'
      · rw [hc, splitLines, List.flatMap_cons, ih, visible_cons,
          isVisible_of_isBlank (by decide), if_neg Bool.false_ne_true]
        rfl
      · rcases exists_of_splitLines cs with ⟨line, more, hlines⟩
        rw [hlines, List.flatMap_cons] at ih
        rw [splitLines, hlines]
        · simp only [List.flatMap_cons, visible_cons, ← ih]
          split <;> rfl
        · exact hc

theorem visible_expandTabsFrom (cell : Nat) (part cs : List Char) :
    visible (expandTabsFrom cell part cs) = visible part.reverse ++ visible cs := by
  induction cs generalizing cell part with
  | nil => rw [expandTabsFrom]; exact (List.append_nil _).symm
  | cons c cs ih =>
      by_cases hc : c = '\t'
      · have hfill : ∀ n, visible (List.replicate n ' ') = [] := fun n =>
          visible_of_blanks fun d hd => by rw [List.eq_of_mem_replicate hd]; decide
        have htab : visible ('\t' :: cs) = visible cs := by
          rw [visible_cons, isVisible_of_isBlank (by decide), if_neg Bool.false_ne_true]
        have hspace : visible [' '] = [] := by decide
        rw [hc, expandTabsFrom]
        simp only [visible_append, ih, hfill, htab, List.reverse_cons, hspace, List.append_nil,
          List.reverse_nil]
        rfl
      · rw [expandTabsFrom, ih, List.reverse_cons, visible_append, List.append_assoc,
          ← visible_append]
        · rfl
        · exact hc

theorem visible_expandTabs (cs : List Char) : visible (expandTabs cs) = visible cs :=
  visible_expandTabsFrom 0 [] cs

/-! ### Cutting words -/

/-- Every character is in one of the clusters, in order. -/
theorem chars_clustersFrom (done : List Cluster) (last : Option Char) (cs : List Char) :
    (clustersFrom done last cs).flatMap Cluster.chars =
      done.reverse.flatMap Cluster.chars ++ cs := by
  fun_induction clustersFrom done last cs <;>
    simp_all only [Cluster.join, List.reverse_cons, List.reverse_nil, List.nil_append,
      List.flatMap_append, List.flatMap_cons, List.flatMap_nil, List.append_nil,
      List.append_assoc, List.cons_append]

theorem flatten_chopClusters (limit : Nat) (piece : List Char) (cells : Nat)
    (ks : List Cluster) :
    (chopClusters limit piece cells ks).flatten = piece ++ ks.flatMap Cluster.chars := by
  induction ks generalizing piece cells with
  | nil => rw [chopClusters, List.flatten_cons]; rfl
  | cons k ks ih =>
      rw [chopClusters, List.flatMap_cons]
      split
      · rw [List.flatten_cons, ih]
      · rw [ih, List.append_assoc]

theorem flatten_chop (limit : Nat) (word : List Char) : (chop limit word).flatten = word := by
  rw [chop, flatten_chopClusters, clusters, chars_clustersFrom]
  rfl

/-! ### Placing words -/

theorem flatten_placePieces (pieces done : List (List Char)) (current : List Char) :
    (placePieces pieces done current).1.flatten ++ (placePieces pieces done current).2 =
      done.flatten ++ (current ++ pieces.flatten) := by
  induction pieces generalizing done current with
  | nil => rw [placePieces, List.flatten_nil, List.append_nil]
  | cons piece pieces ih =>
      rw [placePieces, ih, List.flatten_cons]
      by_cases hcurrent : current.isEmpty = true
      · rw [if_pos hcurrent, List.isEmpty_iff.mp hcurrent, List.nil_append]
      · rw [if_neg hcurrent, List.flatten_append, List.flatten_singleton, List.append_assoc]

/-- Placing words on lines leaves out nothing. -/
theorem flatten_placeWords (fold : Bool) (limit : Nat) (words done : List (List Char))
    (current : List Char) (cells : Nat) :
    (placeWords fold limit words done current cells).flatten =
      done.flatten ++ (current ++ words.flatten) := by
  induction words generalizing done current cells with
  | nil =>
      rw [placeWords, List.flatten_append, List.flatten_singleton, List.flatten_nil,
        List.append_nil]
  | cons word words ih =>
      rw [placeWords, List.flatten_cons]
      split
      · rw [ih, List.append_assoc]
      · -- Whether the word is cut or not, its parts make up the word.
        have hparts : (if fold && limit < width (Text.stripRight word) then chop limit word
            else [word]).flatten = word := by
          split
          · exact flatten_chop limit word
          · exact List.flatten_singleton
        generalize (if fold && limit < width (Text.stripRight word) then chop limit word
          else [word]) = parts at hparts
        have hplaced := flatten_placePieces parts done current
        simp only [ih]
        rw [← List.append_assoc, hplaced, hparts, List.append_assoc, List.append_assoc]

/-! ### Blanks that are left out -/

/-- A line is its next word and what is left, and there is nothing to see if there is no
    next word. -/
theorem nextWord?_cases (cs : List Char) :
    (∃ word rest, nextWord? cs = some (word, rest) ∧ word ++ rest = cs ∧
      rest.length < cs.length) ∨
      (nextWord? cs = none ∧ visible cs = []) := by
  have hcs := List.takeWhile_append_dropWhile (p := Text.isBlank) (l := cs)
  generalize hlead : cs.takeWhile Text.isBlank = lead at hcs
  generalize hrest : cs.dropWhile Text.isBlank = rest at hcs
  have hword := List.takeWhile_append_dropWhile (p := fun c => !Text.isBlank c) (l := rest)
  have hblanks := List.takeWhile_append_dropWhile (p := Text.isBlank)
    (l := rest.dropWhile fun c => !Text.isBlank c)
  rw [nextWord?]
  simp only [hlead, hrest]
  by_cases hempty : (rest.takeWhile fun c => !Text.isBlank c).isEmpty = true
  · rw [if_pos hempty]
    refine Or.inr ⟨rfl, ?_⟩
    -- Nothing comes behind the blanks, as it would start a word.
    have hnil : rest = [] := by
      have hhead := List.head?_dropWhile_not Text.isBlank cs
      rw [hrest] at hhead
      cases rest with
      | nil => rfl
      | cons c rest =>
          have hc : (!Text.isBlank c) = true := by
            rw [show Text.isBlank c = false from hhead]
            rfl
          rw [List.isEmpty_iff, List.takeWhile_cons, if_pos hc] at hempty
          exact absurd hempty (List.cons_ne_nil c _)
    rw [← hcs, hnil, List.append_nil]
    exact visible_of_blanks fun c hc => List.mem_takeWhile_imp (hlead ▸ hc)
  · rw [if_neg hempty]
    refine Or.inl ⟨_, _, rfl, ?_, ?_⟩
    · rw [List.append_assoc, hblanks, List.append_assoc, hword, hcs]
    · have hpos : 0 < (rest.takeWhile fun c => !Text.isBlank c).length := by
        rw [List.length_pos_iff]
        exact fun hnil => hempty (List.isEmpty_iff.mpr hnil)
      have hlength := congrArg List.length hword
      have hlength' := congrArg List.length hblanks
      have hlength'' := congrArg List.length hcs
      rw [List.length_append] at hlength hlength' hlength''
      omega

theorem visible_wordsFrom (fuel : Nat) (cs : List Char) (hfuel : cs.length ≤ fuel) :
    visible (wordsFrom fuel cs).flatten = visible cs := by
  induction fuel generalizing cs with
  | zero =>
      rw [List.eq_nil_of_length_eq_zero (Nat.le_zero.mp hfuel)]
      rfl
  | succ fuel ih =>
      rw [wordsFrom]
      rcases nextWord?_cases cs with ⟨word, rest, hnext, hsplit, hless⟩ | ⟨hnone, hblank⟩
      · rw [hnext]
        simp only [List.flatten_cons, visible_append]
        rw [ih rest (by omega), ← visible_append, hsplit]
      · rw [hnone, hblank]
        rfl

/-- What sticks out and is cut off are blanks. -/
theorem visible_trimOverhang (limit : Nat) (line : List Char) :
    visible (trimOverhang limit line) = visible line := by
  have hline : Text.stripRight line ++ (line.reverse.takeWhile Text.isBlank).reverse = line := by
    rw [Text.stripRight, ← List.reverse_append, List.takeWhile_append_dropWhile,
      List.reverse_reverse]
  have hblank : ∀ c ∈ (line.reverse.takeWhile Text.isBlank).reverse, Text.isBlank c = true :=
    fun c hc => List.mem_takeWhile_imp (List.mem_reverse.mp hc)
  generalize (line.reverse.takeWhile Text.isBlank).reverse = blanks at hline hblank
  have hlength := congrArg List.length hline
  rw [List.length_append] at hlength
  rw [trimOverhang]
  generalize hkeep : line.length - min (line.length - limit)
    (line.length - (Text.stripRight line).length) = keep
  have hkept : line.take keep = Text.stripRight line ++ blanks.take (keep -
      (Text.stripRight line).length) := by
    conv => lhs; rw [← hline]
    rw [List.take_append, List.take_of_length_le (by omega)]
  rw [hkept, visible_append, visible_of_blanks fun c hc => hblank c (List.mem_of_mem_take hc)]
  conv => rhs; rw [← hline, visible_append, visible_of_blanks hblank]

theorem visible_reverse (cs : List Char) : visible cs.reverse = (visible cs).reverse :=
  List.filter_reverse

theorem visible_dropBlanks (limit : Nat) (cs : List Char) :
    visible (dropBlanks limit cs) = visible cs := by
  induction cs with
  | nil => rfl
  | cons c rest ih =>
      rw [dropBlanks]
      by_cases hcut : (Text.isBlank c && limit < width (c :: rest).reverse) = true
      · have hspaces : ∀ d ∈ List.replicate (limit - width rest.reverse) ' ',
            Text.isBlank d = true := by
          intro d hd
          rw [List.eq_of_mem_replicate hd]
          decide
        rw [if_pos hcut, visible_append, visible_of_blanks hspaces, List.nil_append, ih,
          visible_cons, isVisible_of_isBlank (Bool.and_eq_true_iff.mp hcut).1]
        rfl
      · rw [if_neg hcut]

/-- What is beyond the last cell and is cut off are blanks. -/
theorem visible_cropLine (limit : Nat) (line : List Char) :
    visible (cropLine limit line) = visible line := by
  rw [cropLine, visible_reverse, visible_dropBlanks, visible_reverse, List.reverse_reverse]

/-! ### The layout -/

theorem visible_wrapLine (fold : Bool) (limit : Nat) (line : List Char) :
    (wrapLine fold limit line).flatMap visible = visible line := by
  have htrim : ∀ lines : List (List Char),
      (lines.map (trimOverhang limit)).flatMap visible = visible lines.flatten := by
    intro lines
    rw [visible_flatten, List.flatMap_map]
    simp only [visible_trimOverhang]
  rw [wrapLine, htrim]
  split
  · rw [List.flatten_singleton]
  · rw [flatten_placeWords, List.flatten_nil, List.nil_append, List.nil_append,
      visible_wordsFrom line.length line (Nat.le_refl _)]

/-- A layout shows the visible characters of the text, and no others. -/
theorem visible_layOutText (s : String) : visible (layOutText s).toList = visible s.toList := by
  have hends : ∀ lines : List (List Char),
      visible (String.join (lines.map fun l =>
        String.ofList (cropLine consoleWidth l ++ ['\n']))).toList = lines.flatMap visible := by
    intro lines
    induction lines with
    | nil => rfl
    | cons line lines ih =>
        have hfeed : visible ['\n'] = [] := by decide
        rw [List.map_cons, String.join_cons, String.toList_append, String.toList_ofList,
          visible_append, visible_append, visible_cropLine, hfeed, List.append_nil, ih,
          List.flatMap_cons]
  rw [layOutText, hends, List.flatMap_assoc]
  have hlines : ∀ line : List Char,
      (wrapLine true consoleWidth (expandTabs line)).flatMap visible = visible line :=
    fun line => (visible_wrapLine true consoleWidth _).trans (visible_expandTabs line)
  simp only [hlines, visible_splitLines, visible_filter_hidden]

end Console

end TextLog
