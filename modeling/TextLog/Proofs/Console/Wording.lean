import TextLog.Proofs.Console.Complaint
import TextLog.Proofs.Console.Visible
import TextLog.Proofs.Outcome

/-!
# Wordings of Complaints

What becomes of the wording of a complaint, escaped or not.

A wording that is not escaped is read as markup. Without a tag in it that makes no
difference, because escaping does nothing then. With a tag, the complaint shows less: the
two readings go through the wording in the same steps, and wherever a tag stands, the
one that is not escaped loses the tag or backslashes in front of it
(`marks_add_le`). Since the layout shows all visible characters, the two complaints are
the same exactly if there is no tag (`complain_eq_iff`).

An escaped wording is shown character by character, but for two things that escaping does
not prevent: the code of an emoji is replaced, and a backslash is dropped before a bracket
that starts no tag.

## Main definitions

* `hasTag`: A tag starts somewhere in a text.
* `shownOf`, `marks`: What pieces show, and how much of it is visible.
* `HasNoCode`: There is no code of an emoji in a text.
* `IsLiteral`: A text with nothing in it that the console replaces.

## Theorems

* `escape_of_not_hasTag`: Escaping does nothing to a text without tags.
* `shownOf_of_plainFrom`: What a text shows is what its pieces show.
* `marks_add_le`: A tag that is not escaped is a loss.
* `complain_eq_iff`: When escaping makes no difference.
* `shownOf_escaped`: An escaped text is shown as it is.
* `complain_of_isLiteral`: A complaint with a wording as it is.
-/

namespace TextLog

namespace Console

/-! ### Texts without tags -/

/-- A tag starts somewhere in a text. -/
def hasTag : List Char → Bool
  | [] => false
  | c :: rest => (tag? (c :: rest)).isSome || hasTag rest

theorem hasTag_append (pre : List Char) {cs : List Char} (h : hasTag cs = true) :
    hasTag (pre ++ cs) = true := by
  induction pre with
  | nil => exact h
  | cons c pre ih => rw [List.cons_append, hasTag, ih, Bool.or_true]

theorem hasTag_closing {c : Char} {inside : List Char} (hc : isTagStart c = true)
    (hinside : ∀ d ∈ inside, isInside d = true) (after : List Char) :
    hasTag (closing c inside ++ after) = true := by
  have htag := tag?_closing hc hinside after
  rw [closing, List.cons_append] at htag ⊢
  rw [hasTag, htag, Option.isSome_some, Bool.true_or]

/-- No tag starts with a backslash. -/
theorem hasTag_slashes (count : Nat) {c : Char} {rest : List Char}
    (hnone : tag? (c :: rest) = none) :
    hasTag (List.replicate count '\\' ++ c :: rest) = hasTag rest := by
  induction count with
  | zero => rw [List.replicate_zero, List.nil_append, hasTag, hnone]; rfl
  | succ count ih =>
      rw [List.replicate_succ, List.cons_append, hasTag, tag?_of_ne_open (by decide), ih]
      rfl

theorem hasTag_of_no_open {cs : List Char} (hcs : ∀ c ∈ cs, c ≠ '[') : hasTag cs = false := by
  induction cs with
  | nil => rfl
  | cons c cs ih =>
      rw [hasTag, ih fun d hd => hcs d (List.mem_cons_of_mem c hd),
        tag?_of_ne_open (hcs c List.mem_cons_self)]
      rfl

theorem eq_of_escapedAs {cs escaped : List Char} (h : EscapedAs cs escaped)
    (hcs : hasTag cs = false) : escaped = cs := by
  induction h with
  | trailing count => rfl
  | tag count c inside after escaped hc hinside hafter ih =>
      rw [hasTag_append _ (hasTag_closing hc hinside after)] at hcs
      exact absurd hcs (by decide)
  | slashes count c rest escaped hc hnone hrest ih =>
      rw [hasTag_slashes count hnone] at hcs
      rw [ih hcs]

/-- Escaping does nothing to a text without tags. -/
theorem escape_of_not_hasTag {s : String} (hs : s.toList.getLast? ≠ some '\\')
    (htag : hasTag s.toList = false) : escape s = s :=
  String.toList_inj.mp (eq_of_escapedAs (escapedAs_escape hs) htag)

/-! ### What pieces show -/

/-- What pieces show. Tags show nothing. -/
def shownOf : List Piece → List Char
  | [] => []
  | .text cs :: rest => shownText cs ++ shownOf rest
  | .tag _ _ :: rest => shownOf rest

theorem shownOf_append (xs ys : List Piece) : shownOf (xs ++ ys) = shownOf xs ++ shownOf ys := by
  induction xs with
  | nil => rfl
  | cons piece xs ih =>
      cases piece with
      | text cs => rw [List.cons_append, shownOf, shownOf, ih, List.append_assoc]
      | tag inside position => rw [List.cons_append, shownOf, shownOf, ih]

/-- What a text shows, if it can be shown, is what its pieces show. -/
theorem shownOf_of_plainFrom {openTags : List OpenTag} {parts : List Piece} {shown : List Char}
    (h : plainFrom openTags parts = .ok shown) : shown = shownOf parts := by
  induction parts generalizing openTags shown with
  | nil => exact (Except.ok.inj h).symm
  | cons piece parts ih =>
      cases piece with
      | text cs =>
          rcases exists_of_map_eq_ok h with ⟨rest, hrest, hshown⟩
          rw [← hshown, ih hrest]
          rfl
      | tag inside position =>
          rcases exists_of_bind_eq_ok h with ⟨tags, _, hrest⟩
          exact ih hrest

theorem unescapeBrackets_of_no_open {cs : List Char} (hcs : ∀ c ∈ cs, c ≠ '[') :
    unescapeBrackets cs = cs := by
  induction cs with
  | nil => rfl
  | cons c cs ih =>
      rw [unescapeBrackets, ih fun d hd => hcs d (List.mem_cons_of_mem c hd)]
      rintro rest rfl rfl
      exact hcs '[' (List.mem_cons_of_mem _ List.mem_cons_self) rfl

theorem replaceCodes_nil : Emoji.replaceCodes [] = [] := by
  rw [Emoji.replaceCodes]
  rfl

theorem replaceCodes_of_no_colon {cs : List Char} (hcs : ∀ c ∈ cs, c ≠ ':') :
    Emoji.replaceCodes cs = cs := by
  induction cs with
  | nil => exact replaceCodes_nil
  | cons c cs ih =>
      rw [replaceCodes_cons (hcs c List.mem_cons_self),
        ih fun d hd => hcs d (List.mem_cons_of_mem c hd)]

theorem shownText_slashes (count : Nat) :
    shownText (List.replicate count '\\') = List.replicate count '\\' := by
  rw [shownText, unescapeBrackets_of_no_open, replaceCodes_of_no_colon]
  · exact fun c hc => List.eq_of_mem_replicate hc ▸ by decide
  · exact fun c hc => List.eq_of_mem_replicate hc ▸ by decide

theorem shownOf_pending (held : List Char) : shownOf (pending held) = shownText held.reverse := by
  cases held with
  | nil => exact replaceCodes_nil.symm
  | cons c held => exact List.append_nil _

theorem shownOf_pending_slashes (count : Nat) :
    shownOf (pending (List.replicate count '\\')) = List.replicate count '\\' := by
  rw [shownOf_pending, List.reverse_replicate, shownText_slashes]

/-! ### The loss of a tag -/

/-- How many visible characters pieces show. -/
def marks (parts : List Piece) : Nat :=
  (visible (shownOf parts)).length

theorem marks_append (xs ys : List Piece) : marks (xs ++ ys) = marks xs + marks ys := by
  rw [marks, shownOf_append, visible_append, List.length_append]
  rfl

theorem marks_pending_slashes (count : Nat) :
    marks (pending (List.replicate count '\\')) = count := by
  have hall : ∀ c ∈ List.replicate count '\\', isVisible c = true :=
    fun c hc => List.eq_of_mem_replicate hc ▸ by decide
  rw [marks, shownOf_pending_slashes, visible, List.filter_eq_self.mpr hall,
    List.length_replicate]

theorem marks_cons (piece : Piece) (rest : List Piece) :
    marks (piece :: rest) = marks [piece] + marks rest :=
  marks_append [piece] rest

/-- The bracket of a tag that is shown as text is visible. -/
theorem marks_closing_pos (c : Char) (inside : List Char) :
    1 ≤ marks [.text (closing c inside)] := by
  have hopen : shownText (closing c inside) =
      '[' :: Emoji.replaceCodes (unescapeBrackets (c :: (inside ++ [']']))) :=
    replaceCodes_cons (by decide) _
  rw [marks, shownOf, hopen, List.cons_append, visible_cons, if_pos (by decide), List.length_cons]
  omega

/-- Where no tag starts in a text, none starts if a tag follows. -/
theorem tag?_append_of_none {c : Char} {rest : List Char} (hnone : tag? (c :: rest) = none)
    (d : Char) (inside : List Char) : tag? (c :: (rest ++ closing d inside)) = none := by
  by_cases hc : c = '['
  · rw [hc] at hnone ⊢
    cases rest with
    | nil => exact tag?_of_not_start (by decide) _
    | cons b rest =>
        by_cases hstart : isTagStart b = true
        · rw [tag?_cons_cons b _ hstart] at hnone
          rw [List.cons_append, tag?_cons_cons b _ hstart, List.dropWhile_append]
          cases hdrop : rest.dropWhile isInside with
          | nil => rfl
          | cons x after =>
              rw [hdrop] at hnone
              have hx : x ≠ ']' := by
                rintro rfl
                exact absurd hnone (by simp only [reduceCtorEq, not_false_eq_true])
              rw [if_neg (by simp only [List.isEmpty_cons, Bool.false_eq_true,
                not_false_eq_true]), List.cons_append]
              split
              · rename_i heq
                exact absurd (List.cons.inj heq).1 hx
              · rfl
        · rw [Bool.not_eq_true] at hstart
          exact tag?_of_not_start hstart _
  · exact tag?_of_ne_open hc _

/-- A tag that is not escaped is a loss: before a tag at the end, a text shows no more than
    when it is escaped, and less if there is a tag in it. -/
theorem marks_add_le {cs escaped : List Char} (h : EscapedAs cs escaped)
    (hlast : cs.getLast? ≠ some '\\') {c : Char} {inside : List Char} (hc : isTagStart c = true)
    (hinside : ∀ d ∈ inside, isInside d = true) (fuel fuel' pos pos' : Nat) (held : List Char)
    (hfuel : (cs ++ closing c inside).length ≤ fuel)
    (hfuel' : (escaped ++ closing c inside).length ≤ fuel') :
    marks (piecesFrom fuel pos held (cs ++ closing c inside)) + (hasTag cs).toNat ≤
      marks (piecesFrom fuel' pos' held (escaped ++ closing c inside)) := by
  -- The two readings hold the same text until a tag comes.
  induction h, hlast using EscapedAs.induction_of_getLast?
      generalizing fuel fuel' pos pos' held with
  | nil =>
      rw [List.replicate_zero, List.nil_append] at hfuel hfuel' ⊢
      rcases fuel with _ | fuel
      · exact absurd hfuel (by simp only [closing, List.length_cons]; omega)
      rcases fuel' with _ | fuel'
      · exact absurd hfuel' (by simp only [closing, List.length_cons]; omega)
      rw [piecesFrom_closing hc hinside, piecesFrom_closing hc hinside, marks_append, marks_append]
      exact Nat.le_refl _
  | tag count d inside' after escaped hd hinside' hafter _ _ ih =>
      rcases fuel with _ | fuel
      · exact absurd hfuel (by simp only [closing, List.length_append, List.length_cons]; omega)
      rcases fuel' with _ | fuel'
      · exact absurd hfuel' (by simp only [closing, List.length_append, List.length_cons]; omega)
      have hslashes : backslashes (List.replicate count '\\' ++
          (closing d inside' ++ (after ++ closing c inside))) = (count, _) :=
        backslashes_replicate count fun heq => absurd (Option.some.inj heq) (by decide)
      have htag := tag?_closing hd hinside' (after ++ closing c inside)
      simp only [closing, List.length_append, List.length_cons, List.length_replicate]
        at hfuel hfuel'
      have hrest := ih fuel fuel'
        (pos + count + (d :: inside').length + 2)
        (pos' + (2 * count + 1) + (d :: inside').length + 2) []
        (by simp only [closing, List.length_append, List.length_cons]; omega)
        (by simp only [closing, List.length_append, List.length_cons]; omega)
      have hshown := marks_closing_pos d inside'
      have hone : (hasTag (List.replicate count '\\' ++ (closing d inside' ++ after))).toNat ≤ 1 :=
        Bool.toNat_le _
      rw [List.append_assoc, List.append_assoc, List.append_assoc, List.append_assoc,
        piecesFrom_odd hd hinside', piecesFrom_tag fuel pos hslashes htag]
      split
      · -- Half of the backslashes are lost.
        rename_i hodd
        change marks (_ ++ .text (closing d inside') :: _) + _ ≤ _
        simp only [marks_append, marks_cons _ (piecesFrom _ _ _ _), marks_pending_slashes]
        omega
      · -- The tag is lost, too.
        have hnothing : marks [.tag (d :: inside') (pos + count)] = 0 := rfl
        simp only [marks_append, marks_cons _ (piecesFrom _ _ _ _), marks_pending_slashes, hnothing]
        omega
  | slashes count d rest escaped hd hnone hrest _ _ ih =>
      have hstop := tag?_append_of_none hnone c inside
      have hstop' := tag?_append_closing hrest hnone c inside
      simp only [List.length_append, List.length_cons, List.length_replicate] at hfuel hfuel'
      rcases exists_piecesFrom_slashes_char held fuel pos count hd hstop
        (by rw [List.length_append]; omega) with ⟨left, hleft, hread⟩
      rcases exists_piecesFrom_slashes_char held fuel' pos' count hd hstop'
        (by rw [List.length_append]; omega) with ⟨left', hleft', hread'⟩
      rw [List.append_assoc, List.cons_append, List.append_assoc, List.cons_append, hread, hread',
        hasTag_slashes count hnone]
      exact ih left left' _ _ _ hleft hleft'

/-! ### Texts that are shown as they are -/

/-- There is no code of an emoji in a text. -/
def HasNoCode (cs : List Char) : Prop :=
  ∀ before rest inside after : List Char, cs = before ++ rest →
    Emoji.code? rest = some (inside, after) → Emoji.meant? inside = none

/-- A text with nothing in it that the console replaces: no code of an emoji, and no
    backslash before a bracket that starts no tag. -/
structure IsLiteral (cs : List Char) : Prop where
  codes : HasNoCode cs
  slashes : ∀ before rest : List Char, cs = before ++ '\\' :: '[' :: rest →
    (tag? ('[' :: rest)).isSome = true

/-- What a code is and what is left are the whole text. -/
theorem eq_of_code? {cs inside after : List Char} (h : Emoji.code? cs = some (inside, after)) :
    (∀ c ∈ inside, (c != ':' && !Text.isBlank c) = true) ∧
      cs = ':' :: (inside ++ ':' :: after) := by
  unfold Emoji.code? at h
  split at h
  · rename_i rest
    have hrest := List.takeWhile_append_dropWhile (p := fun c => c != ':' && !Text.isBlank c)
      (l := rest)
    simp only at h
    split at h
    · rename_i tail hdrop
      rw [Option.some.injEq, Prod.mk.injEq] at h
      rw [← h.1, ← h.2, ← hdrop, hrest]
      exact ⟨fun c hc => List.mem_takeWhile_imp (p := fun c => c != ':' && !Text.isBlank c) hc, rfl⟩
    · exact absurd h (by simp only [reduceCtorEq, not_false_eq_true])
  · exact absurd h (by simp only [reduceCtorEq, not_false_eq_true])

theorem code?_of_inside {inside : List Char}
    (hinside : ∀ c ∈ inside, (c != ':' && !Text.isBlank c) = true) (after : List Char) :
    Emoji.code? (':' :: (inside ++ ':' :: after)) = some (inside, after) := by
  have hcolon : (':' != ':' && !Text.isBlank ':') = false := by decide
  rw [Emoji.code?]
  simp only [List.takeWhile_append_of_pos hinside, List.dropWhile_append_of_pos hinside,
    List.takeWhile_cons, List.dropWhile_cons, hcolon, Bool.false_eq_true, if_false,
    List.append_nil]

theorem code?_append {cs inside after : List Char} (h : Emoji.code? cs = some (inside, after))
    (more : List Char) : Emoji.code? (cs ++ more) = some (inside, after ++ more) := by
  rcases eq_of_code? h with ⟨hinside, hcs⟩
  rw [hcs, List.cons_append, List.append_assoc, List.cons_append]
  exact code?_of_inside hinside (after ++ more)

theorem hasNoCode_of_append (front : List Char) {cs : List Char} (more : List Char)
    (h : HasNoCode (front ++ (cs ++ more))) : HasNoCode cs := by
  intro before rest inside after hcs hcode
  refine h (front ++ before) (rest ++ more) inside (after ++ more) ?_ (code?_append hcode more)
  rw [hcs, List.append_assoc, List.append_assoc]

theorem hasNoCode_cons {c : Char} {cs : List Char} (hc : Emoji.code? (c :: cs) = none)
    (hcs : HasNoCode cs) : HasNoCode (c :: cs) := by
  intro before rest inside after hsplit hcode
  cases before with
  | nil =>
      rw [← show c :: cs = rest from hsplit, hc] at hcode
      exact absurd hcode (by simp only [reduceCtorEq, not_false_eq_true])
  | cons d before => exact hcs before rest inside after (List.cons.inj hsplit).2 hcode

theorem hasNoCode_append_of_no_colon {front cs : List Char} (hfront : ∀ c ∈ front, c ≠ ':')
    (hcs : HasNoCode cs) : HasNoCode (front ++ cs) := by
  induction front with
  | nil => exact hcs
  | cons c front ih =>
      refine hasNoCode_cons ?_ (ih fun d hd => hfront d (List.mem_cons_of_mem c hd))
      cases hcode : Emoji.code? (c :: (front ++ cs)) with
      | none => rfl
      | some found =>
          exact absurd (List.cons.inj (eq_of_code? hcode).2).1 (hfront c List.mem_cons_self)

theorem hasNoCode_nil : HasNoCode [] := by
  intro before rest inside after hsplit hcode
  rw [(List.append_eq_nil_iff.mp hsplit.symm).2] at hcode
  exact absurd (eq_of_code? hcode).2 (List.cons_ne_nil _ _).symm

/-- A colon with a blank behind it starts no code. -/
theorem hasNoCode_append_colon {front cs : List Char} (hfront : ∀ c ∈ front, c ≠ ':')
    (hcs : HasNoCode cs) : HasNoCode (front ++ ':' :: ' ' :: cs) :=
  hasNoCode_append_of_no_colon hfront (hasNoCode_cons rfl (hasNoCode_cons rfl hcs))

theorem replaceCodes_of_hasNoCode {cs : List Char} (h : HasNoCode cs) :
    Emoji.replaceCodes cs = cs := by
  fun_induction Emoji.replaceCodes cs with
  | case1 cs inside after hcode _ ih =>
      have hcs := (eq_of_code? hcode).2
      have hafter : HasNoCode after := by
        refine hasNoCode_of_append (':' :: (inside ++ [':'])) [] ?_
        rw [List.append_nil, List.cons_append, List.append_assoc]
        exact hcs ▸ h
      rw [h [] cs inside after rfl hcode, ih hafter, hcs, Option.getD_none, List.cons_append,
        List.cons_append, List.append_assoc]
      rfl
  | case2 c rest hnone ih =>
      rw [ih (hasNoCode_of_append [c] [] (by rwa [List.append_nil]))]
  | case3 => rfl

/-- Two texts show their brackets apart from each other, unless a backslash at the end of
    the first acts on the second. -/
theorem unescapeBrackets_append {xs : List Char} (hxs : xs.getLast? ≠ some '\\')
    (ys : List Char) :
    unescapeBrackets (xs ++ ys) = unescapeBrackets xs ++ unescapeBrackets ys := by
  fun_induction unescapeBrackets xs with
  | case1 rest ih =>
      rw [List.cons_append, List.cons_append, unescapeBrackets,
        ih (getLast?_ne_of_cons (getLast?_ne_of_cons hxs)),
        List.cons_append]
  | case2 c rest hne ih =>
      rw [List.cons_append, unescapeBrackets, ih (getLast?_ne_of_cons hxs), List.cons_append]
      rintro tail rfl hrest
      cases rest with
      | nil => exact hxs rfl
      | cons d rest => exact hne rest rfl (by rw [(List.cons.inj hrest).1])
  | case3 => rfl

theorem shownText_of_hasNoCode {cs : List Char} (hcs : unescapeBrackets cs = cs)
    (hcodes : HasNoCode cs) : shownText cs = cs := by
  rw [shownText, hcs, replaceCodes_of_hasNoCode hcodes]

/-- In a tag, no bracket stands behind a backslash. -/
theorem unescapeBrackets_closing {c : Char} {inside : List Char} (hc : isTagStart c = true)
    (hinside : ∀ d ∈ inside, isInside d = true) :
    unescapeBrackets (closing c inside) = closing c inside := by
  have hrest : ∀ d ∈ c :: (inside ++ [']']), d ≠ '[' := by
    rintro d hd rfl
    rcases List.mem_cons.mp hd with rfl | hd
    · exact absurd hc (by decide)
    · rcases List.mem_append.mp hd with hd | hd
      · exact absurd (hinside '[' hd) (by decide)
      · exact absurd (List.mem_singleton.mp hd) (by decide)
  rw [closing, unescapeBrackets, unescapeBrackets_of_no_open hrest]
  exact fun _ h => absurd h (by decide)

/-- An escaped text before a tag is shown as it is, and so is what was held of the text
    before it, if there is nothing to replace. -/
theorem shownOf_escaped {cs escaped : List Char} (h : EscapedAs cs escaped)
    (hlast : cs.getLast? ≠ some '\\') {c : Char} {inside : List Char} (hc : isTagStart c = true)
    (hinside : ∀ d ∈ inside, isInside d = true) (fuel pos : Nat) (held : List Char)
    (hfuel : (escaped ++ closing c inside).length ≤ fuel) (hhead : held.head? ≠ some '\\')
    (hheld : unescapeBrackets held.reverse = held.reverse)
    (hcodes : HasNoCode (held.reverse ++ cs))
    (hslashes : ∀ before rest : List Char, cs = before ++ '\\' :: '[' :: rest →
      (tag? ('[' :: rest)).isSome = true) :
    shownOf (piecesFrom fuel pos held (escaped ++ closing c inside)) = held.reverse ++ cs := by
  -- What is held has no bracket behind a backslash, and does not end in one.
  induction h, hlast using EscapedAs.induction_of_getLast? generalizing fuel pos held with
  | nil =>
      rw [List.replicate_zero, List.nil_append] at hfuel ⊢
      rw [List.replicate_zero] at hcodes
      rw [List.append_nil] at hcodes ⊢
      rcases fuel with _ | fuel
      · exact absurd hfuel (by simp only [closing, List.length_cons]; omega)
      rw [piecesFrom_closing hc hinside, shownOf_append, shownOf_pending,
        shownText_of_hasNoCode hheld hcodes]
      exact List.append_nil _
  | tag count d inside' after escaped hd hinside' hafter _ _ ih =>
      rcases fuel with _ | fuel
      · exact absurd hfuel (by simp only [closing, List.length_append, List.length_cons]; omega)
      have hshorter : (escaped ++ closing c inside).length ≤ fuel := by
        simp only [List.length_append, List.length_replicate] at hfuel ⊢
        omega
      have hfront : HasNoCode held.reverse := hasNoCode_of_append [] _ hcodes
      have htag : HasNoCode (closing d inside') := by
        refine hasNoCode_of_append (held.reverse ++ List.replicate count '\\') after ?_
        rw [List.append_assoc]
        exact hcodes
      have hbehind : HasNoCode after := by
        refine hasNoCode_of_append
          (held.reverse ++ (List.replicate count '\\' ++ closing d inside')) [] ?_
        rw [List.append_nil, List.append_assoc, List.append_assoc]
        exact hcodes
      have hrest := ih fuel (pos + (2 * count + 1) + (d :: inside').length + 2) []
        hshorter (by decide) rfl hbehind fun before rest hsplit =>
          hslashes (List.replicate count '\\' ++ (closing d inside' ++ before)) rest
            (by rw [hsplit, List.append_assoc, List.append_assoc])
      rw [List.append_assoc, List.append_assoc, piecesFrom_odd hd hinside', shownOf_append,
        shownOf_append, shownOf, hrest, shownOf_pending, shownOf_pending_slashes,
        shownText_of_hasNoCode hheld hfront,
        shownText_of_hasNoCode (unescapeBrackets_closing hd hinside') htag, List.append_assoc]
      rfl
  | slashes count d rest escaped hd hnone hrest _ _ ih =>
      have hstop := tag?_append_closing hrest hnone c inside
      have hlength : count + 1 + (escaped ++ closing c inside).length ≤ fuel := by
        simp only [List.length_append, List.length_cons, List.length_replicate] at hfuel ⊢
        omega
      have hreverse : (d :: (List.replicate count '\\' ++ held)).reverse =
          held.reverse ++ (List.replicate count '\\' ++ [d]) := by
        rw [List.reverse_cons, List.reverse_append, List.reverse_replicate, List.append_assoc]
      -- A bracket that starts no tag has no backslash in front of it.
      have hbracket : unescapeBrackets (List.replicate count '\\' ++ [d]) =
          List.replicate count '\\' ++ [d] := by
        by_cases hopen : d = '['
        · cases count with
          | zero =>
              rw [hopen]
              rfl
          | succ count =>
              have htag := hslashes (List.replicate count '\\') rest (by
                rw [hopen, List.replicate_succ', List.append_assoc]
                rfl)
              rw [← hopen, hnone] at htag
              exact absurd htag (by decide)
        · refine unescapeBrackets_of_no_open fun b hb => ?_
          rcases List.mem_append.mp hb with hb | hb
          · rw [List.eq_of_mem_replicate hb]
            decide
          · rw [List.mem_singleton.mp hb]
            exact hopen
      rcases exists_piecesFrom_slashes_char held fuel pos count hd hstop hlength with
        ⟨left, hleft, hread⟩
      rw [List.append_assoc, List.cons_append, hread,
        ih left (pos + count + 1) (d :: (List.replicate count '\\' ++ held)) hleft
          (fun heq => hd (Option.some.inj heq)), hreverse, List.append_assoc, List.append_assoc]
      · rfl
      · rw [hreverse, unescapeBrackets_append (by rwa [List.getLast?_reverse]), hheld, hbracket]
      · rw [hreverse, List.append_assoc, List.append_assoc]
        exact hcodes
      · exact fun before tail hsplit => hslashes (List.replicate count '\\' ++ d :: before) tail
          (by rw [hsplit, List.append_assoc]; rfl)

end Console

namespace Cli

open Console

/-! ### Complaints -/

/-- A complaint with nothing unhandled shows a text. -/
theorem exists_plain_of_complain {markup : String} (h : (complain markup).failure = none) :
    ∃ shown, plain markup = .ok shown ∧ complain markup = ⟨1, layOutText shown, none⟩ := by
  rw [complain, printMarkup] at h ⊢
  cases hplain : plain markup with
  | ok shown => exact ⟨shown, rfl, rfl⟩
  | error f =>
      rw [hplain] at h
      exact absurd h (by simp only [Except.map, Outcome.failed, reduceCtorEq, not_false_eq_true])

/-- What a markup text shows is what its pieces show. -/
theorem toList_of_plain {markup shown : String} (h : plain markup = .ok shown) :
    shown.toList = shownOf (pieces markup.toList) := by
  rcases exists_of_bind_eq_ok h with ⟨cs, hcs, hrest⟩
  rcases exists_of_bind_eq_ok hrest with ⟨_, _, hshown⟩
  rw [← Except.ok.inj hshown, String.toList_ofList]
  exact shownOf_of_plainFrom hcs

/-- A complaint shows less if there is a tag in its wording that is not escaped. -/
theorem marks_errorMarkup (wording : String) (hwording : wording.toList.getLast? ≠ some '\\') :
    marks (pieces (errorMarkup wording).toList) + (hasTag wording.toList).toNat ≤
      marks (pieces (errorMarkup (escape wording)).toList) := by
  have htag : ∀ rest, marks (.tag ['r', 'e', 'd'] 0 :: rest) = marks rest := fun _ => rfl
  rw [pieces_errorMarkup, pieces_errorMarkup, htag, htag]
  exact marks_add_le (escapedAs_escape hwording) hwording (by decide)
    (List.all_iff_forall_prop.mp (by decide)) _ _ _ _ _ (Nat.le_add_left _ _)
    (Nat.le_add_left _ _)

/-- Escaping the wording of a complaint makes no difference exactly if there is no tag in
    it. -/
theorem complain_eq_iff (wording : String) (hwording : wording.toList.getLast? ≠ some '\\') :
    complain (errorMarkup wording) = complain (errorMarkup (escape wording)) ↔
      hasTag wording.toList = false := by
  refine ⟨fun hsame => ?_, fun htag => by rw [escape_of_not_hasTag hwording htag]⟩
  have hhandled' := (isComplaint_of_escape wording hwording).handled
  have hhandled : (complain (errorMarkup wording)).failure = none := by
    rw [hsame]
    exact hhandled'
  rcases exists_plain_of_complain hhandled' with ⟨shown', hplain', hcomplain'⟩
  rcases exists_plain_of_complain hhandled with ⟨shown, hplain, hcomplain⟩
  rw [hcomplain, hcomplain', Outcome.mk.injEq] at hsame
  have hvisible : visible shown.toList = visible shown'.toList := by
    rw [← visible_layOutText, hsame.2.1, visible_layOutText]
  rw [toList_of_plain hplain, toList_of_plain hplain'] at hvisible
  have hloss := marks_errorMarkup wording hwording
  rw [marks, marks, hvisible] at hloss
  cases htag : hasTag wording.toList with
  | false => rfl
  | true =>
      rw [htag] at hloss
      exact absurd hloss (Nat.not_succ_le_self _)

/-- A complaint with an escaped wording shows the wording as it is, if there is nothing in
    it that the console replaces. -/
theorem complain_of_isLiteral (wording : String) (hwording : wording.toList.getLast? ≠ some '\\')
    (hliteral : IsLiteral wording.toList) :
    complain (errorMarkup (escape wording)) = ⟨1, layOutText ("Error: " ++ wording), none⟩ := by
  have hhandled := (isComplaint_of_escape wording hwording).handled
  rcases exists_plain_of_complain hhandled with ⟨shown, hplain, hcomplain⟩
  have hshown : shown.toList = ("Error: " ++ wording).toList := by
    rw [toList_of_plain hplain, pieces_errorMarkup, shownOf, String.toList_append]
    refine shownOf_escaped (escapedAs_escape hwording) hwording (by decide)
      (List.all_iff_forall_prop.mp (by decide)) _ _ _ (Nat.le_add_left _ _) (by decide) (by decide)
      ?_ hliteral.slashes
    have hfront : ∀ c ∈ "Error".toList, c ≠ ':' := List.all_iff_forall_prop.mp (by decide)
    exact hasNoCode_append_colon hfront hliteral.codes
  rw [hcomplain, String.toList_inj.mp hshown]

end Cli

end TextLog
