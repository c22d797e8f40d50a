import TextLog.Proofs.Template.RoundTrip

/-!
# Templates of Joined Texts

When the template of two texts, one behind the other, is made of theirs.

Compiling reads a text from left to right and goes on behind what it has found, so
where a text is cut it would read on differently than it starts anew. The cut can
fall into the placeholder of a field, into a word that names none, or behind an
opening that was never closed. Only the first matters (`scan_append_iff`): what the
parts say for themselves is what the whole says, unless the whole says more, and the
one thing more that it can say is a placeholder that begins in the first part and
ends in the second. Literals that meet at the cut are run together.

No placeholder reaches over an opening bracket, so texts can always be cut in front
of a placeholder, and behind it (`scan_append_placeholder`).

## Main definitions

* `Text.Straddles`: A text occurs across the place where two texts meet.

## Theorems

* `startsAt_append_iff`: What begins in a sequence begins in one of its two parts.
* `scan_append_iff`: When the atoms of joined texts are those of the parts.
* `scan_append_of_open`: They are in front of an opening bracket.
* `scan_append_placeholder`: They are around a placeholder.
* `ofText_append_eq_iff`: The same for templates.
-/

namespace TextLog

/-- A text occurs where two others meet, beginning in the first of them and ending in
    the second. -/
def Text.Straddles (part a b : String) : Prop :=
  ∃ i, Text.OccursAt part (a ++ b) i ∧ i < a.length ∧ a.length < i + part.length

/-- What begins in a sequence begins in its first part or further on. -/
theorem startsAt_append_iff {α : Type} (text : α → List Char) (a : α) (xs ys : List α) (i : Nat) :
    StartsAt text a (xs ++ ys) i ↔
      StartsAt text a xs i ∨ ∃ j, i = (xs.flatMap text).length + j ∧ StartsAt text a ys j := by
  induction xs generalizing i with
  | nil =>
      constructor
      · exact fun h => Or.inr ⟨i, (Nat.zero_add i).symm, h⟩
      · rintro (h | ⟨j, rfl, h⟩)
        · exact absurd h (startsAt_nil text a i)
        · rwa [List.flatMap_nil, List.length_nil, Nat.zero_add]
  | cons x xs ih =>
      rw [List.cons_append, startsAt_cons, startsAt_cons, List.flatMap_cons, List.length_append]
      constructor
      · rintro (hhere | ⟨j, rfl, h⟩)
        · exact Or.inl (Or.inl hhere)
        · rcases (ih j).mp h with hfirst | ⟨k, rfl, hsecond⟩
          · exact Or.inl (Or.inr ⟨j, rfl, hfirst⟩)
          · exact Or.inr ⟨k, (Nat.add_assoc _ _ _).symm, hsecond⟩
      · rintro ((hhere | ⟨j, rfl, h⟩) | ⟨k, rfl, h⟩)
        · exact Or.inl hhere
        · exact Or.inr ⟨j, rfl, (ih j).mpr (Or.inl h)⟩
        · exact Or.inr ⟨_, Nat.add_assoc _ _ _, (ih _).mpr (Or.inr ⟨k, rfl, h⟩)⟩

namespace Field

theorem straddles_iff (f : Field) (a b : String) :
    Text.Straddles f.placeholder a b ↔
      ∃ i, f.StandsAt (a.toList ++ b.toList) i ∧ i < a.toList.length ∧
        a.toList.length < i + f.placeholder.length := by
  simp only [Text.Straddles, f.occursAt_iff_standsAt, String.toList_append, String.length_toList]

end Field

namespace Template

/-- The atoms of two texts, one behind the other, are those of the first and those of
    the second, unless a placeholder stands across the place where they meet. -/
theorem scan_append_iff (cs ds : List Char) :
    scan (cs ++ ds) = scan cs ++ scan ds ↔
      ∀ (f : Field) (i : Nat), f.StandsAt (cs ++ ds) i →
        i + f.placeholder.length ≤ cs.length ∨ cs.length ≤ i := by
  have hlength : ((scan cs).flatMap Atom.text).length = cs.length := by
    rw [flatMap_text_scan]
  constructor
  · intro h f i hf
    rw [← startsAt_scan, h, startsAt_append_iff, hlength] at hf
    rcases hf with hfirst | ⟨j, rfl, _⟩
    · exact Or.inl (f.standsAt_le_length cs i ((startsAt_scan f cs i).mp hfirst))
    · exact Or.inr (Nat.le_add_right _ j)
  · intro h
    have htext : (scan cs ++ scan ds).flatMap Atom.text = cs ++ ds := by
      rw [List.flatMap_append, flatMap_text_scan, flatMap_text_scan]
    -- A scan finds what stands in the text, so it is enough that the parts have it.
    refine htext ▸ scan_flatMap_text _ fun f i hf => ?_
    rw [htext] at hf
    rw [startsAt_append_iff, hlength]
    rcases h f i hf with hbefore | hafter
    · exact Or.inl ((startsAt_scan f cs i).mpr (f.standsAt_of_append cs ds i hf hbefore))
    · refine Or.inr ⟨i - cs.length, by omega, (startsAt_scan f ds _).mpr ?_⟩
      rwa [← Nat.add_sub_cancel' hafter, f.standsAt_append_add] at hf

/-- In front of an opening bracket texts can be cut. -/
theorem scan_append_of_open (cs ds : List Char) (hds : ∀ c, ds.head? = some c → c = '(') :
    scan (cs ++ ds) = scan cs ++ scan ds := by
  refine (scan_append_iff cs ds).mpr fun f i hf => ?_
  rcases (f.standsAt_append_iff cs ds i hds).mp hf with hbefore | ⟨j, rfl, _⟩
  · exact Or.inl (f.standsAt_le_length cs i hbefore)
  · exact Or.inr (Nat.le_add_right _ j)

/-- Around a placeholder texts can be cut. -/
theorem scan_append_placeholder (f : Field) (cs ds : List Char) :
    scan (cs ++ (f.placeholder.toList ++ ds)) = scan cs ++ .field f :: scan ds := by
  rw [scan_append_of_open, scan_placeholder]
  intro c hc
  rw [f.toList_placeholder, List.cons_append, List.head?_cons, Option.some.injEq] at hc
  exact hc.symm

/-- The template of a text is that of segments if they have the atoms of the text. -/
theorem ofText_eq_ofSegments_iff (s : String) (xs : List Segment) :
    ofText s = ofSegments xs ↔ scan s.toList = atoms xs := by
  rw [ofText, ofSegments_eq_iff, atoms_split]

/-- The template of two texts, one behind the other, is made of the segments of their
    templates, literals that meet being run together, if and only if no placeholder
    stands across the place where the texts meet. Hence the template of a text with a
    placeholder in it always has the segments in front of it, its field, and the
    segments behind it. -/
theorem ofText_append_eq_iff (a b : String) :
    (ofText (a ++ b) = ofSegments ((ofText a).segments ++ (ofText b).segments) ↔
        ¬∃ f : Field, Text.Straddles f.placeholder a b) ∧
      ∀ f : Field, ofText (a ++ f.placeholder ++ b) =
        ofSegments ((ofText a).segments ++ .token f :: (ofText b).segments) := by
  refine ⟨?_, fun f => ?_⟩
  · rw [ofText_eq_ofSegments_iff, atoms_append, atoms_ofText, atoms_ofText, String.toList_append,
      scan_append_iff]
    constructor
    · rintro h ⟨f, hf⟩
      rcases (f.straddles_iff a b).mp hf with ⟨i, hstands, hbegin, hend⟩
      rcases h f i hstands with hbefore | hafter <;> omega
    · intro h f i hstands
      by_contra hacross
      rw [not_or, Nat.not_le, Nat.not_le] at hacross
      exact h ⟨f, (f.straddles_iff a b).mpr ⟨i, hstands, hacross.2, hacross.1⟩⟩
  · rw [ofText_eq_ofSegments_iff, atoms_append, atoms_token_cons, atoms_ofText, atoms_ofText,
      String.toList_append, String.toList_append, List.append_assoc, scan_append_placeholder]

end Template

end TextLog
