import TextLog.Proofs.Template.Occurrence

/-!
# Round Trips of Templates

Which templates are the template of their own text.

A template can be put together by hand, from any segments. Its text may then say
something else than its segments do: a literal may spell a placeholder, also one
that came about when literals were run together. Nothing else can go wrong. A
placeholder in the text of a normal form is a field of it or lies within one
literal, because what follows a literal is a field, and the bracket that its
placeholder starts with cannot be inside another placeholder
(`standsAt_append_iff`, `startsAt_or_spelledAt`).

## Main definitions

* `Text.HasPlaceholder`: A text contains the placeholder of some field.
* `Template.IsCanonical`: A normal form whose literals contain no placeholder.
* `Template.SpellsAt`: A literal of a template contains a placeholder.
* `Field.SpelledAt`: The same for a sequence of segments, by characters.

## Theorems

* `standsAt_append_iff`: No placeholder reaches over an opening bracket.
* `exists_spelledAt_iff`: When literals spell placeholders.
* `startsAt_or_spelledAt`: A placeholder in a text is a field or in a literal.
* `scan_flatMap_text`: A scan gives atoms back whose fields are all there is.
* `ofText_text_eq_iff`: A template is that of its text if it is canonical.
* `ofText_text_roundTrip`: The same with the image of `Template.ofText`, and for
  templates put together from segments.
-/

namespace TextLog

/-- A text contains the placeholder of some field. -/
def Text.HasPlaceholder (s : String) : Prop :=
  ∃ (f : Field) (i : Nat), Text.OccursAt f.placeholder s i

/-- A template in normal form whose literals contain no placeholder. -/
structure Template.IsCanonical (t : Template) : Prop where
  normal : Template.IsNormal t.segments
  plain : ∀ s, .literal s ∈ t.segments → ¬Text.HasPlaceholder s

/-- A placeholder lies within a literal of a template, at an offset of the text
    of the template. -/
def Template.SpellsAt (t : Template) (i : Nat) (f : Field) : Prop :=
  ∃ before s after j, t.segments = before ++ .literal s :: after ∧
    i = (Template.mk before).text.length + j ∧ Text.OccursAt f.placeholder s j

theorem startsAt_cons_add {α : Type} (text : α → List Char) (a x : α) (xs : List α) (i : Nat)
    (hx : 0 < (text x).length) :
    StartsAt text a (x :: xs) ((text x).length + i) ↔ StartsAt text a xs i := by
  rw [startsAt_cons]
  constructor
  · rintro (⟨hzero, _⟩ | ⟨j, hj, h⟩)
    · omega
    · rwa [Nat.add_left_cancel hj]
  · exact fun h => Or.inr ⟨i, rfl, h⟩

/-- Nothing begins where another element extends. -/
theorem not_startsAt_within {α : Type} (text : α → List Char) (a x : α) (before after : List α)
    (j : Nat) (ha : 0 < (text a).length) (hne : x ≠ a) (hj : j < (text x).length) :
    ¬StartsAt text a (before ++ x :: after) ((before.flatMap text).length + j) := by
  induction before with
  | nil =>
      rw [List.nil_append, startsAt_cons, List.flatMap_nil, List.length_nil]
      rintro (⟨_, heq⟩ | ⟨k, hk, _⟩)
      · exact hne heq
      · omega
  | cons b before ih =>
      rw [List.cons_append, startsAt_cons, List.flatMap_cons, List.length_append]
      rintro (⟨hzero, rfl⟩ | ⟨k, hk, h⟩)
      · omega
      · rw [Nat.add_assoc] at hk
        exact ih (Nat.add_left_cancel hk ▸ h)

namespace Field

/-- Text behind a placeholder leaves it where it is. -/
theorem standsAt_append_left (f : Field) (pre cs : List Char) (i : Nat) (h : f.StandsAt pre i) :
    f.StandsAt (pre ++ cs) i := by
  have hle := f.standsAt_le_length _ _ h
  rw [StandsAt, List.drop_append_of_le_length (by omega)]
  exact h.trans (List.prefix_append _ _)

/-- A placeholder that ends where a text does, or before, is found in the text. -/
theorem standsAt_of_append (f : Field) (pre cs : List Char) (i : Nat)
    (h : f.StandsAt (pre ++ cs) i) (hi : i + f.placeholder.length ≤ pre.length) :
    f.StandsAt pre i := by
  rw [StandsAt, List.drop_append_of_le_length (by omega)] at h
  refine List.prefix_of_prefix_length_le h (List.prefix_append _ _) ?_
  rw [String.length_toList, List.length_drop]
  omega

/-- No placeholder reaches over an opening bracket: it stands in what comes
    before the bracket or in what comes from there on. -/
theorem standsAt_append_iff (f : Field) (pre cs : List Char) (i : Nat)
    (hcs : ∀ c, cs.head? = some c → c = '(') :
    f.StandsAt (pre ++ cs) i ↔
      f.StandsAt pre i ∨ ∃ j, i = pre.length + j ∧ f.StandsAt cs j := by
  constructor
  · intro h
    -- The placeholder begins behind the bracket, or ends before it.
    by_cases hafter : pre.length ≤ i
    · refine Or.inr ⟨i - pre.length, by omega, ?_⟩
      rwa [← Nat.add_sub_cancel' hafter, standsAt_append_add] at h
    by_cases hbefore : i + f.placeholder.length ≤ pre.length
    · exact Or.inl (f.standsAt_of_append pre cs i h hbefore)
    -- Otherwise the bracket is a further character of the placeholder.
    · exfalso
      have hlen := f.standsAt_le_length _ _ h
      rw [List.length_append] at hlen
      have hget := f.standsAt_getElem? _ _ (pre.length - i) h (by omega)
      rw [Nat.add_sub_cancel' (by omega), List.getElem?_append_right (Nat.le_refl _),
        Nat.sub_self, ← List.head?_eq_getElem?] at hget
      cases cs with
      | nil =>
          rw [List.length_nil] at hlen
          omega
      | cons c cs =>
          rw [hcs c rfl, List.head?_cons, show pre.length - i = (pre.length - i - 1) + 1 by omega,
            ← List.getElem?_tail] at hget
          exact f.open_not_mem_tail (List.mem_of_getElem? hget.symm)
  · rintro (h | ⟨j, rfl, h⟩)
    · exact f.standsAt_append_left pre cs i h
    · exact (f.standsAt_append_add pre cs j).mpr h

/-- A placeholder lies within a literal of a sequence. -/
def SpelledAt (f : Field) (xs : List Segment) (i : Nat) : Prop :=
  ∃ before s after j, xs = before ++ .literal s :: after ∧
    i = (before.flatMap fun x => x.text.toList).length + j ∧ f.StandsAt s.toList j

theorem spelledAt_cons (f : Field) (x : Segment) (xs : List Segment) (i : Nat)
    (h : f.SpelledAt xs i) : f.SpelledAt (x :: xs) (x.text.toList.length + i) := by
  rcases h with ⟨before, s, after, j, rfl, rfl, hs⟩
  refine ⟨x :: before, s, after, j, rfl, ?_, hs⟩
  rw [List.flatMap_cons, List.length_append, Nat.add_assoc]

/-- What lies within a literal stands in the text. -/
theorem standsAt_of_spelledAt (f : Field) (xs : List Segment) (i : Nat) (h : f.SpelledAt xs i) :
    f.StandsAt (xs.flatMap fun x => x.text.toList) i := by
  rcases h with ⟨before, s, after, j, rfl, rfl, hs⟩
  rw [List.flatMap_append, List.flatMap_cons, standsAt_append_add]
  exact f.standsAt_append_left _ _ j hs

/-- What lies within a literal is no field. -/
theorem not_startsAt_of_spelledAt (f : Field) (xs : List Segment) (i : Nat)
    (h : f.SpelledAt xs i) : ¬StartsAt (fun x : Segment => x.text.toList) (.token f) xs i := by
  rcases h with ⟨before, s, after, j, rfl, rfl, hs⟩
  have hle := f.standsAt_le_length _ _ hs
  have hpos := f.placeholder_length_pos
  refine not_startsAt_within _ _ _ before after j ?_ (by simp only [ne_eq, reduceCtorEq,
    not_false_eq_true]) ?_
  · rw [Segment.text, String.length_toList]
    exact hpos
  · rw [Segment.text]
    omega

/-- Literals spell placeholders exactly if one of them contains one. -/
theorem exists_spelledAt_iff (xs : List Segment) :
    (∃ f i, SpelledAt f xs i) ↔ ∃ s, .literal s ∈ xs ∧ Text.HasPlaceholder s := by
  constructor
  · rintro ⟨f, _, before, s, after, j, rfl, _, hs⟩
    refine ⟨s, List.mem_append_right before List.mem_cons_self, f, j, ?_⟩
    exact (f.occursAt_iff_standsAt s j).mpr hs
  · rintro ⟨s, hmem, f, j, hs⟩
    rcases List.append_of_mem hmem with ⟨before, after, rfl⟩
    exact ⟨f, _, before, s, after, j, rfl, rfl, (f.occursAt_iff_standsAt s j).mp hs⟩

end Field

namespace Template

/-- What follows a literal in a normal form starts with an opening bracket. -/
theorem eq_open_of_head?_text (xs : List Segment) (h : ∀ t, xs.head? ≠ some (.literal t)) (c : Char)
    (hc : (xs.flatMap fun x => x.text.toList).head? = some c) : c = '(' := by
  cases xs with
  | nil => exact absurd hc (by simp only [List.flatMap_nil, List.head?_nil, reduceCtorEq,
      not_false_eq_true])
  | cons x xs =>
      cases x with
      | literal t => exact absurd rfl (h t)
      | token f =>
          rw [List.flatMap_cons, Segment.text, f.toList_placeholder, List.cons_append,
            List.head?_cons, Option.some.injEq] at hc
          exact hc.symm

/-- A placeholder in the text of a normal form is a field of it or lies within
    one of its literals. -/
theorem startsAt_or_spelledAt (f : Field) (xs : List Segment) (i : Nat) (hn : IsNormal xs)
    (h : f.StandsAt (xs.flatMap fun x => x.text.toList) i) :
    StartsAt (fun x : Segment => x.text.toList) (.token f) xs i ∨ f.SpelledAt xs i := by
  induction xs generalizing i with
  | nil => exact absurd h (f.standsAt_nil i)
  | cons x xs ih =>
      rw [List.flatMap_cons] at h
      -- The rest of the text is known, so it is enough to see where it starts.
      have hrest : IsNormal xs → ∀ j, f.StandsAt (xs.flatMap fun x => x.text.toList) j →
          StartsAt (fun x : Segment => x.text.toList) (.token f) (x :: xs)
              (x.text.toList.length + j) ∨
            f.SpelledAt (x :: xs) (x.text.toList.length + j) := by
        intro hxs j hj
        rcases ih j hxs hj with hstart | hspell
        · exact Or.inl ((startsAt_cons _ _ _ _ _).mpr (Or.inr ⟨j, rfl, hstart⟩))
        · exact Or.inr (f.spelledAt_cons x xs j hspell)
      cases x with
      | token g =>
          rcases (f.standsAt_placeholder_append g _ i).mp h with ⟨rfl, rfl⟩ | ⟨j, rfl, hj⟩
          · exact Or.inl ((startsAt_cons _ _ _ _ _).mpr (Or.inl ⟨rfl, rfl⟩))
          · rw [← String.length_toList]
            exact hrest ((isNormal_token_cons g xs).mp hn) j hj
      | literal s =>
          rcases (isNormal_literal_cons s xs).mp hn with ⟨_, hhead, hxs⟩
          rcases (f.standsAt_append_iff s.toList _ i (eq_open_of_head?_text xs hhead)).mp h with
            hs | ⟨j, rfl, hj⟩
          · exact Or.inr ⟨[], s, xs, i, rfl, (Nat.zero_add i).symm, hs⟩
          · exact hrest hxs j hj

theorem atom_text_length_pos (x : Atom) : 0 < x.text.length := by
  cases x with
  | char c => exact Nat.one_pos
  | field f =>
      rw [Atom.text, String.length_toList]
      exact f.placeholder_length_pos

/-- A scan gives atoms back if no placeholder stands in their text but for the
    fields among them. -/
theorem scan_flatMap_text (xs : List Atom)
    (h : ∀ (f : Field) (i : Nat), f.StandsAt (xs.flatMap Atom.text) i →
      StartsAt Atom.text (.field f) xs i) :
    scan (xs.flatMap Atom.text) = xs := by
  induction xs with
  | nil => exact scan_nil
  | cons x xs ih =>
      rw [List.flatMap_cons] at h ⊢
      -- What stands in the rest stands in the whole, further on.
      have hrest : scan (xs.flatMap Atom.text) = xs := by
        refine ih fun f i hf => ?_
        have hx := h f (x.text.length + i) ((f.standsAt_append_add _ _ i).mpr hf)
        exact (startsAt_cons_add _ _ _ _ _ (atom_text_length_pos x)).mp hx
      cases x with
      | field g => rw [Atom.text, scan_placeholder, hrest]
      | char c =>
          -- A placeholder that starts here would have to be the first atom.
          have hstart : Field.startOf? (c :: xs.flatMap Atom.text) = none := by
            refine (Field.startOf?_eq_none_iff _).mpr fun f hf => ?_
            rcases (startsAt_cons _ _ _ _ _).mp (h f 0 hf) with ⟨_, heq⟩ | ⟨j, hj, _⟩
            · exact absurd heq (by simp only [reduceCtorEq, not_false_eq_true])
            · exact absurd hj (by simp only [Atom.text, List.length_singleton]; omega)
          rw [Atom.text, List.singleton_append, scan_cons c _ hstart, hrest]

theorem spellsAt_of_spelledAt (t : Template) (i : Nat) (f : Field) (h : f.SpelledAt t.segments i) :
    t.SpellsAt i f := by
  rcases h with ⟨before, s, after, j, hxs, hi, hs⟩
  refine ⟨before, s, after, j, hxs, ?_, (f.occursAt_iff_standsAt s j).mpr hs⟩
  rw [hi, ← toList_text, String.length_toList]

/-- A template is the template of its text exactly if it is in normal form and
    none of its literals contains a placeholder. -/
theorem ofText_text_eq_iff (t : Template) : ofText t.text = t ↔ t.IsCanonical := by
  constructor
  · intro h
    refine ⟨h ▸ isNormal_ofText t.text, ?_⟩
    intro s hmem hs
    rcases (Field.exists_spelledAt_iff t.segments).mpr ⟨s, hmem, hs⟩ with ⟨f, i, hspell⟩
    -- The placeholder in the literal stands in the text as well, so it has
    -- become a field, and a field cannot begin inside a literal.
    have hstands : f.StandsAt t.text.toList i := by
      rw [show t = ⟨t.segments⟩ from rfl, toList_text]
      exact f.standsAt_of_spelledAt t.segments i hspell
    have htoken := (hasTokenAt_ofText_iff t.text i f).mpr hstands
    rw [h, hasTokenAt_iff_startsAt] at htoken
    exact f.not_startsAt_of_spelledAt t.segments i hspell htoken
  · intro h
    -- In normal form it is enough to compare the atoms.
    have hatoms : scan t.text.toList = atoms t.segments := by
      rw [show t = ⟨t.segments⟩ from rfl, toList_text_eq_atoms]
      refine scan_flatMap_text _ fun f i hf => ?_
      rw [← toList_text_eq_atoms, toList_text] at hf
      rw [startsAt_atoms]
      refine (startsAt_or_spelledAt f t.segments i h.normal hf).resolve_right ?_
      intro hspell
      rcases (Field.exists_spelledAt_iff t.segments).mp ⟨f, i, hspell⟩ with ⟨s, hmem, hs⟩
      exact h.plain s hmem hs
    have hseg : (ofText t.text).segments = t.segments := by
      refine eq_of_atoms_eq _ _ (isNormal_ofText t.text) h.normal ?_
      rw [atoms_ofText, hatoms]
    exact congrArg Template.mk hseg

/-- The templates that compiling gives are those that are the template of their
    text, the canonical ones. A template put together from segments is one
    unless running its literals together has spelled a placeholder in one of
    them: whatever placeholder its text contains is a field of it or lies within
    one literal. -/
theorem ofText_text_roundTrip :
    (∀ t : Template, ofText t.text = t ↔ t.IsCanonical) ∧
      (∀ t : Template, (∃ s, ofText s = t) ↔ t.IsCanonical) ∧
      (∀ xs : List Segment, ofText (ofSegments xs).text = ofSegments xs ↔
        ∀ s, .literal s ∈ (ofSegments xs).segments → ¬Text.HasPlaceholder s) ∧
      ∀ (xs : List Segment) (i : Nat) (f : Field),
        Text.OccursAt f.placeholder (ofSegments xs).text i →
        (ofSegments xs).HasTokenAt i f ∨ (ofSegments xs).SpellsAt i f := by
  refine ⟨ofText_text_eq_iff, fun t => ?_, fun xs => ?_, fun xs i f hf => ?_⟩
  · constructor
    · rintro ⟨s, rfl⟩
      rw [← ofText_text_eq_iff, text_ofText]
    · exact fun h => ⟨t.text, (ofText_text_eq_iff t).mpr h⟩
  · rw [ofText_text_eq_iff]
    exact ⟨fun h => h.plain, fun h => ⟨isNormal_normalize xs, h⟩⟩
  · rw [f.occursAt_iff_standsAt, show ofSegments xs = ⟨(ofSegments xs).segments⟩ from rfl,
      toList_text] at hf
    rcases startsAt_or_spelledAt f _ i (isNormal_normalize xs) hf with hstart | hspell
    · exact Or.inl ((hasTokenAt_iff_startsAt _ i f).mpr hstart)
    · exact Or.inr (spellsAt_of_spelledAt _ i f hspell)

/-- Two literals that spell a placeholder between them do so in the literal that
    they are run together to, and the template does not come back. -/
theorem ofText_text_roundTrip_merged :
    Text.OccursAt Field.message.placeholder
        (ofSegments [.literal "(%ms", .literal "g)", .token .line]).text 0 ∧
      (ofSegments [.literal "(%ms", .literal "g)", .token .line]).SpellsAt 0 .message ∧
      ofText (ofSegments [.literal "(%ms", .literal "g)", .token .line]).text ≠
        ofSegments [.literal "(%ms", .literal "g)", .token .line] := by
  rcases ofText_text_roundTrip with ⟨_, _, hround, hplace⟩
  have hoccurs : Text.OccursAt Field.message.placeholder
      (ofSegments [.literal "(%ms", .literal "g)", .token .line]).text 0 :=
    ⟨"", "(%line)", rfl, rfl⟩
  refine ⟨hoccurs, (hplace _ 0 .message hoccurs).resolve_left ?_, fun h => ?_⟩
  · rintro ⟨before, after, hseg, _⟩
    have hmem : Segment.token .message ∈
        (ofSegments [.literal "(%ms", .literal "g)", .token .line]).segments := by
      rw [hseg]
      exact List.mem_append_right before List.mem_cons_self
    exact absurd hmem (by decide)
  · exact (hround _).mp h "(%msg)" List.mem_cons_self ⟨.message, 0, "", "", rfl, rfl⟩

end Template

end TextLog
