import Mathlib.Data.Bool.AllAny
import TextLog.Cli.Commands
import TextLog.Proofs.Console.Escape
import TextLog.Proofs.Console.Layout

/-!
# Complaints

A command that complains about a failure prints a line that says so.

The line is markup: a word and the wording of the failure in a color. The wording
may quote what a user gave, which may look like markup, end in a bracket that is
open, or spell the code of an emoji. An escaped wording is read as text, so that
the line can be printed; and whatever it holds, the line starts with the word.

## Main definitions

* `Cli.Outcome.IsComplaint`: A run that ended with a line about a failure.

## Theorems

* `styleName_red`: The color of the line.
* `pieces_errorMarkup`, `exists_pieces_of_errorMarkup`: The line is read as text in a color.
* `exists_plain_of_errorMarkup`: What the line shows.
* `isComplaint_of_escape`: Complaining with an escaped wording.
-/

namespace TextLog

namespace Console

/-! ### The color -/

theorem mem_colorNames_red : "red" ∈ colorNames := by
  refine List.mem_cons_of_mem _ (List.mem_flatMap.mpr ⟨_, List.mem_cons_self, ?_⟩)
  decide

theorem ofWords?_red :
    Style.ofWords? ["red"] = .ok (some { Style.empty with color := some "red" }) := by
  have hsmall : Text.smallText "red" = "red" := by decide
  have hcolor : isColor "red" = .ok true := by
    rw [isColor, if_pos (List.contains_iff_mem.mpr mem_colorNames_red)]
  have hword : Style.empty.addWord? "red" .anything =
      .ok (some ({ Style.empty with color := some "red" }, .anything)) := by
    simp only [Style.addWord?, hsmall]
    change (isColor "red").bind _ = _
    rw [hcolor]
    rfl
  rw [Style.ofWords?, if_neg (by decide), Style.addWords?, hword]
  rfl

theorem styleName_red : styleName ['r', 'e', 'd'] = .ok "red" := by
  have hwords : words (String.ofList ['r', 'e', 'd']) = ["red"] := by decide
  rw [styleName, hwords, ofWords?_red]
  rfl

theorem applyTag_red (position : Nat) :
    applyTag [] ['r', 'e', 'd'] position = .ok [⟨"red", none⟩] := by
  change (do let style ← styleName ['r', 'e', 'd']; return ([⟨style, none⟩] : List OpenTag)) = _
  rw [styleName_red]
  rfl

/-- A tag without parameters can be closed. -/
theorem close_of_no_parameters (style : String) : OpenTag.close ⟨style, none⟩ = .ok () := by
  unfold OpenTag.close
  split
  · rename_i heq
    exact absurd heq (by simp only [reduceCtorEq, not_false_eq_true])
  · rfl

theorem applyTag_closing_red (position : Nat) :
    applyTag [⟨"red", none⟩] ['/', 'r', 'e', 'd'] position = .ok [] := by
  have hstrip : Text.strip (String.ofList ['r', 'e', 'd']) = "red" := by decide
  have hlist : "red".toList = ['r', 'e', 'd'] := by decide
  have hname : (Tag.ofInside ['/', 'r', 'e', 'd']).name = ['/', 'r', 'e', 'd'] := by decide
  rw [applyTag]
  simp only [hname, hstrip, hlist, styleName_red]
  rw [if_neg (by decide)]
  simp only [bind, Except.bind, List.find?, beq_self_eq_true, close_of_no_parameters,
    List.eraseP_cons, cond_true, pure, Except.pure]

/-! ### What text shows -/

theorem replaceCodes_cons {c : Char} (hc : c ≠ ':') (rest : List Char) :
    Emoji.replaceCodes (c :: rest) = c :: Emoji.replaceCodes rest := by
  have hnone : Emoji.code? (c :: rest) = none := by
    unfold Emoji.code?
    split
    · rename_i heq
      exact absurd (List.cons.inj heq).1 hc
    · rfl
  rw [Emoji.replaceCodes]
  split
  · rename_i heq
    rw [hnone] at heq
    exact absurd heq (by simp only [reduceCtorEq, not_false_eq_true])
  · rfl

/-- A colon before a blank begins no code. -/
theorem replaceCodes_colon (rest : List Char) :
    Emoji.replaceCodes (':' :: ' ' :: rest) = ':' :: ' ' :: Emoji.replaceCodes rest := by
  have hnone : Emoji.code? (':' :: ' ' :: rest) = none := rfl
  rw [Emoji.replaceCodes]
  split
  · rename_i heq
    rw [hnone] at heq
    exact absurd heq (by simp only [reduceCtorEq, not_false_eq_true])
  · exact congrArg (':' :: ·) (replaceCodes_cons (by decide) rest)

/-- What a piece of text shows. -/
def shownText (cs : List Char) : List Char :=
  Emoji.replaceCodes (unescapeBrackets cs)

/-- The word that a complaint starts with. -/
def complaintWord : List Char :=
  ['E', 'r', 'r', 'o', 'r', ':']

theorem isPlainWord_complaintWord : IsPlainWord complaintWord where
  ne_nil := by decide
  not_blank := List.all_iff_forall_prop.mp (by decide)
  not_hidden := List.all_iff_forall_prop.mp (by decide)
  fits := by decide

theorem shownText_complaintWord (cs : List Char) :
    shownText (complaintWord ++ ' ' :: cs) = complaintWord ++ ' ' :: shownText cs := by
  have hunescape : unescapeBrackets (complaintWord ++ ' ' :: cs) =
      'E' :: 'r' :: 'r' :: 'o' :: 'r' :: ':' :: ' ' :: unescapeBrackets cs := rfl
  rw [shownText, hunescape, replaceCodes_cons (by decide), replaceCodes_cons (by decide),
    replaceCodes_cons (by decide), replaceCodes_cons (by decide), replaceCodes_cons (by decide),
    replaceCodes_colon]
  rfl

/-- Pieces of text show what each of them shows. -/
theorem plainFrom_texts (openTags : List OpenTag) (texts : List (List Char)) (rest : List Piece) :
    plainFrom openTags (texts.map Piece.text ++ rest) =
      (plainFrom openTags rest).map (texts.flatMap shownText ++ ·) := by
  induction texts with
  | nil =>
      rw [List.map_nil, List.nil_append]
      cases plainFrom openTags rest <;> rfl
  | cons text texts ih =>
      rw [List.map_cons, List.cons_append, plainFrom, ih, List.flatMap_cons]
      cases plainFrom openTags rest with
      | error failure => rfl
      | ok shown =>
          simp only [Except.map, List.append_assoc]
          rfl

theorem forM_wear_texts (texts : List (List Char)) (rest : List Piece)
    (hrest : rest.forM wear = .ok ()) : (texts.map Piece.text ++ rest).forM wear = .ok () := by
  induction texts with
  | nil => exact hrest
  | cons text texts ih =>
      change (wear (.text text)).bind (fun _ => (texts.map Piece.text ++ rest).forM wear) = _
      rw [ih]
      rfl

end Console

namespace Cli

open Console

/-! ### Complaints -/

/-- A run that ended with a line about a failure, and with nothing unhandled. -/
structure Outcome.IsComplaint (o : Outcome) : Prop where
  code : o.code = 1
  handled : o.failure = none
  line : ∃ rest, o.output = "Error:" ++ rest

/-- A complaint is read as a color, and as its wording between the word and the end of the
    color. -/
theorem pieces_errorMarkup (wording : String) :
    pieces (errorMarkup wording).toList =
      .tag ['r', 'e', 'd'] 0 ::
        piecesFrom (4 + (wording.toList ++ closing '/' ['r', 'e', 'd']).length) 12
          (complaintWord ++ [' ']).reverse (wording.toList ++ closing '/' ['r', 'e', 'd']) := by
  have hmarkup : (errorMarkup wording).toList =
      closing 'r' ['e', 'd'] ++
        ((complaintWord ++ [' ']) ++ (wording.toList ++ closing '/' ['r', 'e', 'd'])) := by
    rw [errorMarkup, String.toList_append, String.toList_append, List.append_assoc]
    rfl
  have hlength : (errorMarkup wording).toList.length =
      (complaintWord ++ [' ']).length +
        (4 + (wording.toList ++ closing '/' ['r', 'e', 'd']).length) + 1 := by
    rw [hmarkup]
    simp only [complaintWord, closing, List.length_append, List.length_cons, List.length_nil]
    omega
  have hinside : ∀ d ∈ ['e', 'd'], isInside d = true := List.all_iff_forall_prop.mp (by decide)
  have htag : tag? (closing 'r' ['e', 'd'] ++
      ((complaintWord ++ [' ']) ++ (wording.toList ++ closing '/' ['r', 'e', 'd']))) =
        some (_, _) := tag?_closing (by decide) hinside _
  have hslashes : backslashes (closing 'r' ['e', 'd'] ++
      ((complaintWord ++ [' ']) ++ (wording.toList ++ closing '/' ['r', 'e', 'd']))) = (0, _) :=
    backslashes_replicate 0 fun heq => absurd (Option.some.inj heq) (by decide)
  rw [pieces, hlength, hmarkup, piecesFrom_tag _ 0 hslashes htag, if_neg (by decide),
    piecesFrom_append _ _ _ _ _ (List.all_iff_forall_prop.mp (by decide)), List.append_nil]
  rfl

/-- A complaint with an escaped wording is read as text in a color, the first piece
    of which starts with the word. -/
theorem exists_pieces_of_errorMarkup (wording : String)
    (hwording : wording.toList.getLast? ≠ some '\\') :
    ∃ (first : List Char) (more : List (List Char)) (position : Nat),
      pieces (errorMarkup (escape wording)).toList =
        .tag ['r', 'e', 'd'] 0 ::
          (((complaintWord ++ ' ' :: first) :: more).map Piece.text ++
            [.tag ['/', 'r', 'e', 'd'] position]) := by
  have hinside : ∀ d ∈ ['r', 'e', 'd'], isInside d = true :=
    List.all_iff_forall_prop.mp (by decide)
  have hstart : isTagStart '/' = true := by decide
  rcases exists_pieces_of_escapedAs (escapedAs_escape hwording) hwording hstart hinside
    (4 + ((escape wording).toList ++ closing '/' ['r', 'e', 'd']).length) 12
    (complaintWord ++ [' ']).reverse (Nat.le_add_left _ _) with
    ⟨texts, position, hpieces, hfirst⟩
  rcases hfirst (by decide) with ⟨first, more, htexts⟩
  refine ⟨first, more, position, ?_⟩
  rw [pieces_errorMarkup, hpieces, htexts, List.reverse_reverse, List.append_assoc]
  rfl

/-- A complaint with an escaped wording can be shown, and starts with the word. -/
theorem exists_plain_of_errorMarkup (wording : String)
    (hwording : wording.toList.getLast? ≠ some '\\') :
    ∃ shown : List Char, plain (errorMarkup (escape wording)) =
      .ok (String.ofList (complaintWord ++ ' ' :: shown)) := by
  rcases exists_pieces_of_errorMarkup wording hwording with ⟨first, more, position, hpieces⟩
  have hshown : plainFrom [] (pieces (errorMarkup (escape wording)).toList) =
      .ok (complaintWord ++ ' ' :: (shownText first ++ more.flatMap shownText)) := by
    rw [hpieces, plainFrom, applyTag_red]
    simp only [Except.bind]
    rw [plainFrom_texts, plainFrom, applyTag_closing_red, List.flatMap_cons,
      shownText_complaintWord]
    simp only [Except.bind, plainFrom, Except.map, List.append_nil, List.append_assoc,
      List.cons_append]
  have hworn : (pieces (errorMarkup (escape wording)).toList).forM wear = .ok () := by
    have hred : ∀ n, wear (.tag ['r', 'e', 'd'] n) = .ok () := fun _ => rfl
    have hclosing : [Piece.tag ['/', 'r', 'e', 'd'] position].forM wear = .ok () := rfl
    rw [hpieces]
    change (wear (.tag ['r', 'e', 'd'] 0)).bind (fun _ => List.forM (_ ++ _) wear) = _
    rw [hred, forM_wear_texts _ _ hclosing]
    rfl
  refine ⟨shownText first ++ more.flatMap shownText, ?_⟩
  rw [plain]
  simp only [hshown, hworn, bind, Except.bind]
  rfl

/-- Complaining with an escaped wording prints a line that starts with the word,
    whatever the wording quotes. Only a backslash at its end would do harm. -/
theorem isComplaint_of_escape (wording : String)
    (hwording : wording.toList.getLast? ≠ some '\\') :
    (complain (errorMarkup (escape wording))).IsComplaint := by
  rcases exists_plain_of_errorMarkup wording hwording with ⟨shown, hplain⟩
  rcases layOutText_start isPlainWord_complaintWord shown with ⟨rest, hlayout⟩
  have hprinted : printMarkup (errorMarkup (escape wording)) = .ok ("Error:" ++ rest) := by
    rw [printMarkup, hplain, Except.map, hlayout]
    rfl
  rw [complain, hprinted]
  exact ⟨rfl, rfl, rest, rfl⟩

end Cli

end TextLog
