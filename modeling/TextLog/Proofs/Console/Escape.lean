import Mathlib.Data.List.TakeWhile
import TextLog.Console.Markup

/-!
# Escaped Markup

A text that is escaped is read as text, also between tags.

Escaping puts backslashes before every tag of a text, so that none is read as
one. That is not enough by itself: what stands behind the text could complete a
bracket that is open at its end, or be made plain by a backslash there. It is not
completed if a tag follows, since a tag has no bracket inside; and a backslash at
the end is excluded.

Escaping and reading go through a text in the same steps, which
`EscapedAs` lists without the fuel of either.

## Main definitions

* `isInside`: A character that may stand in a tag.
* `closing`: A tag.
* `EscapedAs`: The steps of escaping.

## Theorems

* `tag?_closing`, `eq_of_tag?_eq_some`: What texts with a tag at their start are.
* `escapedAs_escapeFrom`, `escapedAs_escape`: Escaping goes by these steps.
* `getLast?_of_escapedAs`: Escaping keeps the end of a text.
* `EscapedAs.induction_of_getLast?`: The steps of a text without a backslash at its end.
* `tag?_append_closing`: No tag arises where there was none.
* `piecesFrom_odd`, `piecesFrom_closing`, `exists_piecesFrom_slashes_char`: The
  same steps, read.
* `exists_pieces_of_escapedAs`: An escaped text before a tag is read as text.
-/

namespace TextLog

namespace Console

/-- A character that may stand in a tag behind its first one. -/
def isInside (c : Char) : Bool :=
  c != '[' && c != ']'

/-- A tag, as it is written. -/
def closing (c : Char) (inside : List Char) : List Char :=
  '[' :: c :: (inside ++ [']'])

/-! ### Tags -/

theorem tag?_cons_cons (c : Char) (rest : List Char) (hc : isTagStart c = true) :
    tag? ('[' :: c :: rest) =
      match rest.dropWhile isInside with
      | ']' :: after => some (c :: rest.takeWhile isInside, after)
      | _ => none := by
  rw [tag?, if_pos hc]
  rfl

theorem tag?_of_ne_open {c : Char} (hc : c ≠ '[') (rest : List Char) : tag? (c :: rest) = none := by
  unfold tag?
  split
  · rename_i heq
    exact absurd (List.cons.inj heq).1 hc
  · rfl

theorem tag?_of_not_start {c : Char} (hc : isTagStart c = false) (rest : List Char) :
    tag? ('[' :: c :: rest) = none := by
  rw [tag?, hc]
  rfl

/-- A tag is read up to its closing bracket. -/
theorem tag?_closing {c : Char} {inside : List Char} (hc : isTagStart c = true)
    (hinside : ∀ d ∈ inside, isInside d = true) (after : List Char) :
    tag? (closing c inside ++ after) = some (c :: inside, after) := by
  have hclose : isInside ']' = false := by decide
  have hsplit : closing c inside ++ after = '[' :: c :: (inside ++ ']' :: after) := by
    rw [closing, List.cons_append, List.cons_append, List.append_assoc]
    rfl
  have htake : (inside ++ ']' :: after).takeWhile isInside = inside := by
    rw [List.takeWhile_append_of_pos hinside, List.takeWhile_cons, hclose]
    exact List.append_nil inside
  have hdrop : (inside ++ ']' :: after).dropWhile isInside = ']' :: after := by
    rw [List.dropWhile_append_of_pos hinside, List.dropWhile_cons, hclose]
    rfl
  rw [hsplit, tag?_cons_cons c _ hc, hdrop, htake]
  rfl

/-- What a text with a tag at its start looks like. -/
theorem eq_of_tag?_eq_some {cs inside after : List Char} (h : tag? cs = some (inside, after)) :
    ∃ c rest, inside = c :: rest ∧ isTagStart c = true ∧ (∀ d ∈ rest, isInside d = true) ∧
      cs = closing c rest ++ after := by
  unfold tag? at h
  split at h
  · rename_i c rest
    by_cases hc : isTagStart c = true
    · rw [if_pos hc] at h
      have hrest := List.takeWhile_append_dropWhile (p := isInside) (l := rest)
      simp only at h
      split at h
      · rename_i tail hdrop
        simp only [Option.some.injEq, Prod.mk.injEq] at h
        have hdrop' : rest.dropWhile isInside = ']' :: tail := hdrop
        refine ⟨c, rest.takeWhile isInside, h.1.symm, hc, fun d hd => List.mem_takeWhile_imp hd, ?_⟩
        rw [hdrop', h.2] at hrest
        rw [closing, List.cons_append, List.cons_append, List.append_assoc]
        exact congrArg (fun tail => '[' :: c :: tail) hrest.symm
      · exact absurd h (by simp only [reduceCtorEq, not_false_eq_true])
    · rw [if_neg hc] at h
      exact absurd h (by simp only [reduceCtorEq, not_false_eq_true])
  · exact absurd h (by simp only [reduceCtorEq, not_false_eq_true])

/-- The backslashes at the start of a text are counted up to another
    character. -/
theorem backslashes_replicate (count : Nat) {cs : List Char} (hcs : cs.head? ≠ some '\\') :
    backslashes (List.replicate count '\\' ++ cs) = (count, cs) := by
  have hall : ∀ c ∈ List.replicate count '\\', decide (c = '\\') = true := by
    intro c hc
    rw [List.eq_of_mem_replicate hc]
    rfl
  have hnone : cs.takeWhile (fun c => decide (c = '\\')) = [] ∧
      cs.dropWhile (fun c => decide (c = '\\')) = cs := by
    cases cs with
    | nil => exact ⟨rfl, rfl⟩
    | cons c rest =>
        have hc : decide (c = '\\') = false :=
          decide_eq_false fun heq => hcs (congrArg some heq)
        rw [List.takeWhile_cons, List.dropWhile_cons, hc]
        exact ⟨rfl, rfl⟩
  rw [backslashes, List.takeWhile_append_of_pos hall, List.dropWhile_append_of_pos hall, hnone.1,
    hnone.2, List.append_nil, List.length_replicate]

/-- A text is its backslashes and what is left. -/
theorem eq_of_backslashes (cs : List Char) :
    cs = List.replicate (backslashes cs).1 '\\' ++ (backslashes cs).2 ∧
      (backslashes cs).2.head? ≠ some '\\' := by
  have hall : ∀ c ∈ cs.takeWhile (fun c => decide (c = '\\')), c = '\\' := by
    intro c hc
    exact of_decide_eq_true (List.mem_takeWhile_imp (p := fun c => decide (c = '\\')) hc)
  refine ⟨?_, ?_⟩
  · rw [backslashes, ← List.eq_replicate_of_mem hall]
    exact List.takeWhile_append_dropWhile.symm
  · intro hhead
    have hfalse := List.head?_dropWhile_not (fun c => decide (c = '\\')) cs
    rw [backslashes] at hhead
    rw [hhead] at hfalse
    exact absurd hfalse (by decide)

/-! ### Steps of escaping -/

/-- The steps of escaping: tags get backslashes in front of them, and everything
    else stays. Backslashes belong to what follows them. -/
inductive EscapedAs : List Char → List Char → Prop where
  | trailing (count : Nat) : EscapedAs (List.replicate count '\\') (List.replicate count '\\')
  | tag (count : Nat) (c : Char) (inside after escaped : List Char) (hc : isTagStart c = true)
      (hinside : ∀ d ∈ inside, isInside d = true) (hafter : EscapedAs after escaped) :
      EscapedAs (List.replicate count '\\' ++ (closing c inside ++ after))
        (List.replicate (2 * count + 1) '\\' ++ (closing c inside ++ escaped))
  | slashes (count : Nat) (c : Char) (rest escaped : List Char) (hc : c ≠ '\\')
      (hnone : tag? (c :: rest) = none) (hrest : EscapedAs rest escaped) :
      EscapedAs (List.replicate count '\\' ++ c :: rest)
        (List.replicate count '\\' ++ c :: escaped)

theorem escapeFrom_tag {cs inside after behind : List Char} {count : Nat} (fuel : Nat)
    (hslashes : backslashes cs = (count, behind)) (htag : tag? behind = some (inside, after)) :
    escapeFrom (fuel + 1) cs =
      List.replicate (2 * count + 1) '\\' ++ '[' :: inside ++ ']' :: escapeFrom fuel after := by
  cases cs with
  | nil =>
      -- There is no tag in an empty text.
      rw [← (Prod.mk.inj hslashes).2] at htag
      exact absurd htag (by simp only [List.dropWhile_nil, tag?, reduceCtorEq, not_false_eq_true])
  | cons c rest => simp only [escapeFrom, hslashes, htag]

theorem escapeFrom_char {c : Char} {rest : List Char} (fuel : Nat) (hc : c ≠ '\\')
    (hnone : tag? (c :: rest) = none) :
    escapeFrom (fuel + 1) (c :: rest) = c :: escapeFrom fuel rest := by
  have hslashes : backslashes (c :: rest) = (0, c :: rest) :=
    backslashes_replicate 0 fun h => hc (Option.some.inj h)
  simp only [escapeFrom, hslashes, hnone, if_true]

theorem escapeFrom_slashes {behind : List Char} (fuel count : Nat)
    (hbehind : behind.head? ≠ some '\\') (hnone : tag? behind = none) :
    escapeFrom (fuel + 1) (List.replicate (count + 1) '\\' ++ behind) =
      List.replicate (count + 1) '\\' ++ escapeFrom fuel behind := by
  have hslashes := backslashes_replicate (count + 1) hbehind
  rw [List.replicate_succ, List.cons_append] at hslashes ⊢
  simp only [escapeFrom, hslashes, hnone]
  rw [if_neg (Nat.succ_ne_zero count)]
  rfl

/-- Backslashes and the character behind them stay, if no tag starts there. -/
theorem exists_escapeFrom_slashes_char {c : Char} {rest : List Char} (fuel count : Nat)
    (hc : c ≠ '\\') (hnone : tag? (c :: rest) = none) (hfuel : count + 1 + rest.length ≤ fuel) :
    ∃ left, left < fuel ∧ rest.length ≤ left ∧
      escapeFrom fuel (List.replicate count '\\' ++ c :: rest) =
        List.replicate count '\\' ++ c :: escapeFrom left rest := by
  -- The backslashes take a step of their own, if there are any.
  cases count with
  | zero =>
      rcases fuel with _ | fuel
      · omega
      exact ⟨fuel, by omega, by omega, escapeFrom_char fuel hc hnone⟩
  | succ count =>
      rcases fuel with _ | _ | fuel
      · omega
      · omega
      have hhead : (c :: rest).head? ≠ some '\\' := fun heq => hc (Option.some.inj heq)
      refine ⟨fuel, by omega, by omega, ?_⟩
      rw [escapeFrom_slashes (fuel + 1) count hhead hnone, escapeFrom_char fuel hc hnone]

theorem escapeFrom_nil (fuel : Nat) : escapeFrom fuel [] = [] := by
  cases fuel <;> rfl

/-- Escaping goes by these steps, if there is enough fuel. -/
theorem escapedAs_escapeFrom (fuel : Nat) (cs : List Char) (hfuel : cs.length ≤ fuel) :
    EscapedAs cs (escapeFrom fuel cs) := by
  -- Backslashes and what follows them are one step here and two there.
  induction fuel using Nat.strong_induction_on generalizing cs with
  | _ fuel ih =>
      rcases hslashes : backslashes cs with ⟨count, behind⟩
      have hcs := eq_of_backslashes cs
      rw [hslashes] at hcs
      simp only at hcs
      rcases hcs with ⟨hcs, hhead⟩
      rcases fuel with _ | fuel
      · rw [List.eq_nil_of_length_eq_zero (Nat.le_zero.mp hfuel)]
        exact .trailing 0
      cases htag : tag? behind with
      | some p =>
          rcases p with ⟨inside, after⟩
          rcases eq_of_tag?_eq_some htag with ⟨c, rest, hinside, hc, hrest, hbehind⟩
          have hlength : after.length ≤ fuel := by
            have := congrArg List.length hcs
            rw [hbehind, List.length_append, List.length_append, closing, List.length_cons] at this
            omega
          rw [escapeFrom_tag fuel hslashes htag, hcs, hbehind, hinside]
          have hstep := EscapedAs.tag count c rest after (escapeFrom fuel after) hc hrest
            (ih fuel (Nat.lt_succ_self fuel) after hlength)
          simpa only [closing, List.cons_append, List.append_assoc, List.nil_append] using hstep
      | none =>
          cases behind with
          | nil =>
              rw [List.append_nil] at hcs
              cases count with
              | zero =>
                  rw [hcs]
                  exact .trailing 0
              | succ count =>
                  have hescape := escapeFrom_slashes fuel count hhead htag
                  rw [List.append_nil, ← hcs, escapeFrom_nil, List.append_nil] at hescape
                  rw [hescape, hcs]
                  exact .trailing (count + 1)
          | cons c rest =>
              have hc : c ≠ '\\' := fun h => hhead (congrArg some h)
              have hlength := congrArg List.length hcs
              rw [List.length_append, List.length_replicate, List.length_cons] at hlength
              rcases exists_escapeFrom_slashes_char (fuel + 1) count hc htag (by omega) with
                ⟨left, hless, hleft, hescape⟩
              rw [hcs, hescape]
              exact .slashes count c rest _ hc htag (ih left hless rest hleft)

/-- Escaping keeps the last character. -/
theorem getLast?_of_escapedAs {cs escaped : List Char} (h : EscapedAs cs escaped) :
    escaped.getLast? = cs.getLast? := by
  induction h with
  | trailing count => rfl
  | tag count c inside after escaped hc hinside hafter ih =>
      simp only [List.getLast?_append, closing, List.cons_append, List.getLast?_cons, ih,
        Option.some_or]
  | slashes count c rest escaped hc hnone hrest ih =>
      simp only [List.getLast?_append, List.getLast?_cons, ih]

theorem getLast?_ne_of_append {front cs : List Char} {c : Char}
    (h : (front ++ cs).getLast? ≠ some c) : cs.getLast? ≠ some c := by
  intro hcs
  rw [List.getLast?_append, hcs] at h
  exact h rfl

theorem getLast?_ne_of_cons {b c : Char} {cs : List Char} (h : (b :: cs).getLast? ≠ some c) :
    cs.getLast? ≠ some c := by
  rw [← List.singleton_append] at h
  exact getLast?_ne_of_append h

/-- Induction over the steps of escaping a text that does not end in a backslash. No
    backslashes are left at its end then. -/
theorem EscapedAs.induction_of_getLast?
    {motive : {cs escaped : List Char} → EscapedAs cs escaped → cs.getLast? ≠ some '\\' → Prop}
    (nil : ∀ hlast, motive (.trailing 0) hlast)
    (tag : ∀ count c inside after escaped hc hinside hafter hlast hafterLast,
      motive hafter hafterLast →
        motive (.tag count c inside after escaped hc hinside hafter) hlast)
    (slashes : ∀ count c rest escaped hc hnone hrest hlast hrestLast,
      motive hrest hrestLast → motive (.slashes count c rest escaped hc hnone hrest) hlast)
    {cs escaped : List Char} (h : EscapedAs cs escaped) (hlast : cs.getLast? ≠ some '\\') :
    motive h hlast := by
  induction h with
  | trailing count =>
      cases count with
      | zero => exact nil hlast
      | succ count =>
          rw [List.replicate_succ', List.getLast?_append] at hlast
          exact absurd rfl hlast
  | tag count c inside after escaped hc hinside hafter ih =>
      have hafterLast := getLast?_ne_of_append (getLast?_ne_of_append hlast)
      exact tag count c inside after escaped hc hinside hafter hlast hafterLast (ih hafterLast)
  | slashes count c rest escaped hc hnone hrest ih =>
      have hrestLast := getLast?_ne_of_cons (getLast?_ne_of_append hlast)
      exact slashes count c rest escaped hc hnone hrest hlast hrestLast (ih hrestLast)

/-- A text that does not end in a backslash is not guarded. -/
theorem guardEnd_of_getLast? {cs : List Char} (h : cs.getLast? ≠ some '\\') : guardEnd cs = cs := by
  rw [← List.head?_reverse] at h
  unfold guardEnd
  split
  · rfl
  · rename_i heq
    rw [heq] at h
    exact absurd rfl h
  · rfl

/-- Escaping a text that does not end in a backslash goes by these steps. -/
theorem escapedAs_escape {s : String} (hs : s.toList.getLast? ≠ some '\\') :
    EscapedAs s.toList (escape s).toList := by
  have h := escapedAs_escapeFrom s.toList.length s.toList (Nat.le_refl _)
  rw [escape, String.toList_ofList, guardEnd_of_getLast? (getLast?_of_escapedAs h ▸ hs)]
  exact h

/-! ### No tag arises -/

/-- If no closing bracket comes first in a text, then an opening one does in the
    escaped text before a tag: its own first one, or that of the tag. -/
theorem dropWhile_isInside_escaped {cs escaped : List Char} (h : EscapedAs cs escaped)
    (hfirst : (cs.dropWhile isInside).head? ≠ some ']') (c : Char) (inside : List Char) :
    ((escaped ++ closing c inside).dropWhile isInside).head? = some '[' := by
  have hslash : isInside '\\' = true := by decide
  have hopen : isInside '[' = false := by decide
  have hskip : ∀ (count : Nat) (tail : List Char),
      (List.replicate count '\\' ++ tail).dropWhile isInside = tail.dropWhile isInside := by
    intro count tail
    refine List.dropWhile_append_of_pos fun d hd => ?_
    rw [List.eq_of_mem_replicate hd]
    exact hslash
  induction h with
  | trailing count =>
      rw [hskip, closing, List.dropWhile_cons, hopen]
      rfl
  | tag count d inside' after escaped hd hinside hafter ih =>
      rw [List.append_assoc, hskip, List.append_assoc, closing, List.cons_append,
        List.dropWhile_cons, hopen]
      rfl
  | slashes count d rest escaped hd hnone hrest ih =>
      rw [hskip, List.dropWhile_cons] at hfirst
      rw [List.append_assoc, hskip, List.cons_append, List.dropWhile_cons]
      by_cases hin : isInside d = true
      · rw [if_pos hin] at hfirst ⊢
        exact ih hfirst
      · -- A bracket that comes first is an opening one.
        rw [if_neg hin] at hfirst ⊢
        have hclose : d ≠ ']' := fun heq => hfirst (congrArg some heq)
        have hbracket : d = '[' := by
          by_contra hopen'
          refine hin ?_
          rw [isInside, bne_iff_ne.mpr hopen', bne_iff_ne.mpr hclose]
          rfl
        rw [hbracket]
        rfl

/-- Where no tag starts in a text, none starts in the escaped text before a
    tag. -/
theorem tag?_append_closing {c : Char} {rest escaped : List Char} (h : EscapedAs rest escaped)
    (hnone : tag? (c :: rest) = none) (d : Char) (inside : List Char) :
    tag? (c :: (escaped ++ closing d inside)) = none := by
  by_cases hc : c = '['
  · rw [hc] at hnone ⊢
    have hopen : isTagStart '[' = false := by decide
    have hslash : isTagStart '\\' = false := by decide
    cases h with
    | trailing count =>
        cases count with
        | zero => exact tag?_of_not_start hopen _
        | succ count => exact tag?_of_not_start hslash _
    | tag count b inside' after escaped hb hinside hafter =>
        exact tag?_of_not_start hslash _
    | slashes count b rest' escaped hb hnone' hrest =>
        cases count with
        | succ count => exact tag?_of_not_start hslash _
        | zero =>
            rw [List.replicate_zero, List.nil_append] at hnone ⊢
            by_cases hstart : isTagStart b = true
            · -- The brackets behind the first character decide.
              have hfirst : (rest'.dropWhile isInside).head? ≠ some ']' := by
                intro hhead
                rw [tag?_cons_cons b rest' hstart] at hnone
                rcases hdrop : rest'.dropWhile isInside with _ | ⟨x, after⟩
                · rw [hdrop] at hhead
                  exact absurd hhead (by simp only [List.head?_nil, reduceCtorEq,
                    not_false_eq_true])
                · rw [hdrop] at hhead hnone
                  rw [Option.some.inj hhead] at hnone
                  exact absurd hnone (by simp only [reduceCtorEq, not_false_eq_true])
              have hopened := dropWhile_isInside_escaped hrest hfirst d inside
              rw [List.cons_append, tag?_cons_cons b _ hstart]
              rcases hdrop : (escaped ++ closing d inside).dropWhile isInside with _ | ⟨x, after⟩
              · rfl
              · rw [hdrop] at hopened
                rw [Option.some.inj hopened]
                rfl
            · rw [Bool.not_eq_true] at hstart
              exact tag?_of_not_start hstart _
  · exact tag?_of_ne_open hc _

/-! ### Pieces -/

theorem piecesFrom_tag {cs inside after behind held : List Char} {count : Nat} (fuel pos : Nat)
    (hslashes : backslashes cs = (count, behind)) (htag : tag? behind = some (inside, after)) :
    piecesFrom (fuel + 1) pos held cs =
      if count % 2 = 1 then
        pending held ++ pending (List.replicate (count / 2) '\\') ++
          .text ('[' :: inside ++ [']']) ::
            piecesFrom fuel (pos + count + inside.length + 2) [] after
      else
        pending held ++ pending (List.replicate (count / 2) '\\') ++
          .tag inside (pos + count) ::
            piecesFrom fuel (pos + count + inside.length + 2) [] after := by
  cases cs with
  | nil =>
      rw [← (Prod.mk.inj hslashes).2] at htag
      exact absurd htag (by simp only [List.dropWhile_nil, tag?, reduceCtorEq, not_false_eq_true])
  | cons c rest => simp only [piecesFrom, hslashes, htag]

theorem piecesFrom_char {c : Char} {rest held : List Char} (fuel pos : Nat) (hc : c ≠ '\\')
    (hnone : tag? (c :: rest) = none) :
    piecesFrom (fuel + 1) pos held (c :: rest) = piecesFrom fuel (pos + 1) (c :: held) rest := by
  have hslashes : backslashes (c :: rest) = (0, c :: rest) :=
    backslashes_replicate 0 fun h => hc (Option.some.inj h)
  simp only [piecesFrom, hslashes, hnone, if_true]

theorem piecesFrom_slashes {behind held : List Char} (fuel pos count : Nat)
    (hbehind : behind.head? ≠ some '\\') (hnone : tag? behind = none) :
    piecesFrom (fuel + 1) pos held (List.replicate (count + 1) '\\' ++ behind) =
      piecesFrom fuel (pos + (count + 1)) (List.replicate (count + 1) '\\' ++ held) behind := by
  have hslashes := backslashes_replicate (count + 1) hbehind
  rw [List.replicate_succ, List.cons_append] at hslashes ⊢
  simp only [piecesFrom, hslashes, hnone]
  rw [if_neg (Nat.succ_ne_zero count)]
  rfl

/-- Backslashes and the character behind them are kept for the next piece, if no
    tag starts there. -/
theorem exists_piecesFrom_slashes_char {c : Char} {rest : List Char} (held : List Char)
    (fuel pos count : Nat) (hc : c ≠ '\\') (hnone : tag? (c :: rest) = none)
    (hfuel : count + 1 + rest.length ≤ fuel) :
    ∃ left, rest.length ≤ left ∧
      piecesFrom fuel pos held (List.replicate count '\\' ++ c :: rest) =
        piecesFrom left (pos + count + 1) (c :: (List.replicate count '\\' ++ held)) rest := by
  cases count with
  | zero =>
      rcases fuel with _ | fuel
      · omega
      exact ⟨fuel, by omega, piecesFrom_char fuel pos hc hnone⟩
  | succ count =>
      rcases fuel with _ | _ | fuel
      · omega
      · omega
      have hhead : (c :: rest).head? ≠ some '\\' := fun heq => hc (Option.some.inj heq)
      refine ⟨fuel, by omega, ?_⟩
      rw [piecesFrom_slashes (fuel + 1) pos count hhead hnone, piecesFrom_char fuel _ hc hnone]

/-- A tag at the end of a text is the last piece. -/
theorem piecesFrom_closing {c : Char} {inside : List Char} (hc : isTagStart c = true)
    (hinside : ∀ d ∈ inside, isInside d = true) (fuel pos : Nat) (held : List Char) :
    piecesFrom (fuel + 1) pos held (closing c inside) =
      pending held ++ [.tag (c :: inside) pos] := by
  have htag := tag?_closing hc hinside []
  rw [List.append_nil] at htag
  have hslashes : backslashes (closing c inside) = (0, closing c inside) :=
    backslashes_replicate 0 fun heq => absurd (Option.some.inj heq) (by decide)
  have hnil : ∀ next, piecesFrom fuel next [] [] = [] := fun next => by cases fuel <;> rfl
  rw [piecesFrom_tag fuel pos hslashes htag, if_neg (by decide), hnil, Nat.zero_div,
    List.replicate_zero, Nat.add_zero, show pending [] = [] from rfl, List.append_nil]

/-- A tag with an odd number of backslashes in front of it is text, and half of the
    others are left. -/
theorem piecesFrom_odd {d : Char} {inside : List Char} (hd : isTagStart d = true)
    (hinside : ∀ d ∈ inside, isInside d = true) (fuel pos count : Nat) (held after : List Char) :
    piecesFrom (fuel + 1) pos held
        (List.replicate (2 * count + 1) '\\' ++ (closing d inside ++ after)) =
      pending held ++ pending (List.replicate count '\\') ++ .text (closing d inside) ::
        piecesFrom fuel (pos + (2 * count + 1) + (d :: inside).length + 2) [] after := by
  have hhead : (closing d inside ++ after).head? ≠ some '\\' :=
    fun heq => absurd (Option.some.inj heq) (by decide)
  have hslashes := backslashes_replicate (2 * count + 1) hhead
  have hhalf : (2 * count + 1) / 2 = count := by omega
  rw [piecesFrom_tag fuel pos hslashes (tag?_closing hd hinside after), if_pos (by omega), hhalf]
  rfl

/-- Text without backslashes and opening brackets is kept for the next piece. -/
theorem piecesFrom_append (pre cs held : List Char) (fuel pos : Nat)
    (hpre : ∀ c ∈ pre, c ≠ '\\' ∧ c ≠ '[') :
    piecesFrom (pre.length + fuel) pos held (pre ++ cs) =
      piecesFrom fuel (pos + pre.length) (pre.reverse ++ held) cs := by
  induction pre generalizing pos held with
  | nil => rw [List.length_nil, Nat.zero_add]; rfl
  | cons c pre ih =>
      have hc := hpre c List.mem_cons_self
      have hfuel : (c :: pre).length + fuel = pre.length + fuel + 1 := by
        rw [List.length_cons]
        omega
      have hpos : pos + (c :: pre).length = pos + 1 + pre.length := by
        rw [List.length_cons]
        omega
      rw [hfuel, hpos, List.cons_append, piecesFrom_char _ pos hc.1 (tag?_of_ne_open hc.2 _),
        ih _ _ fun d hd => hpre d (List.mem_cons_of_mem c hd), List.reverse_cons, List.append_assoc]
      rfl

/-- What is pending is text. -/
theorem exists_texts_of_pending (held : List Char) :
    ∃ texts : List (List Char), pending held = texts.map Piece.text ∧
      (held ≠ [] → texts = [held.reverse]) := by
  cases held with
  | nil => exact ⟨[], rfl, fun h => absurd rfl h⟩
  | cons c rest => exact ⟨[(c :: rest).reverse], rfl, fun _ => rfl⟩

/-- An escaped text before a tag is read as text up to the tag, which is read as a
    tag. What was read before the text starts the first piece. -/
theorem exists_pieces_of_escapedAs {cs escaped : List Char} (h : EscapedAs cs escaped)
    (hlast : cs.getLast? ≠ some '\\') {c : Char} {inside : List Char} (hc : isTagStart c = true)
    (hinside : ∀ d ∈ inside, isInside d = true) (fuel pos : Nat) (held : List Char)
    (hfuel : (escaped ++ closing c inside).length ≤ fuel) :
    ∃ (texts : List (List Char)) (position : Nat),
      piecesFrom fuel pos held (escaped ++ closing c inside) =
        texts.map Piece.text ++ [.tag (c :: inside) position] ∧
      (held ≠ [] → ∃ first more, texts = (held.reverse ++ first) :: more) := by
  induction h, hlast using EscapedAs.induction_of_getLast? generalizing fuel pos held with
  | nil =>
      rw [List.replicate_zero, List.nil_append] at hfuel ⊢
      rcases fuel with _ | fuel
      · exact absurd hfuel (by simp only [closing, List.length_cons]; omega)
      rcases exists_texts_of_pending held with ⟨texts, hpending, hheld⟩
      refine ⟨texts, pos, ?_, ?_⟩
      · rw [piecesFrom_closing hc hinside, hpending]
      · intro hne
        exact ⟨[], [], by rw [hheld hne, List.append_nil]⟩
  | tag count d inside' after escaped hd hinside' hafter _ _ ih =>
      rcases fuel with _ | fuel
      · exact absurd hfuel (by simp only [List.length_append, List.length_replicate]; omega)
      have hshorter : (escaped ++ closing c inside).length ≤ fuel := by
        simp only [List.length_append, List.length_replicate] at hfuel ⊢
        omega
      rcases ih fuel (pos + (2 * count + 1) + (d :: inside').length + 2) [] hshorter with
        ⟨texts, position, hpieces, _⟩
      rcases exists_texts_of_pending held with ⟨front, hfront, hheld⟩
      rcases exists_texts_of_pending (List.replicate count '\\') with ⟨halved, hhalved, _⟩
      refine ⟨front ++ halved ++ closing d inside' :: texts, position, ?_, ?_⟩
      · rw [List.append_assoc, List.append_assoc, piecesFrom_odd hd hinside', hpieces, hfront,
          hhalved]
        simp only [List.map_append, List.map_cons, List.append_assoc, List.cons_append]
      · intro hne
        exact ⟨[], _, by rw [hheld hne, List.append_nil, List.append_assoc, List.cons_append]⟩
  | slashes count d rest escaped hd hnone hrest _ _ ih =>
      have hstop := tag?_append_closing hrest hnone c inside
      have hlength : count + 1 + (escaped ++ closing c inside).length ≤ fuel := by
        simp only [List.length_append, List.length_cons, List.length_replicate] at hfuel ⊢
        omega
      rcases exists_piecesFrom_slashes_char held fuel pos count hd hstop hlength with
        ⟨left, hleft, hread⟩
      rcases ih left (pos + count + 1) (d :: (List.replicate count '\\' ++ held)) hleft
        with ⟨texts, position, hpieces, hfirst⟩
      rcases hfirst (List.cons_ne_nil d _) with ⟨first, more, htexts⟩
      refine ⟨texts, position, ?_, ?_⟩
      · rw [List.append_assoc, List.cons_append, hread, hpieces]
      · intro _
        refine ⟨List.replicate count '\\' ++ d :: first, more, ?_⟩
        rw [htexts, List.reverse_cons, List.reverse_append, List.reverse_replicate]
        simp only [List.append_assoc, List.cons_append, List.nil_append]

end Console

end TextLog
