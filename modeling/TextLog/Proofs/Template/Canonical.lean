import TextLog.Proofs.Logger.Rendering
import TextLog.Proofs.Template.Flow

/-!
# Canonical Templates

Of all sequences of segments that say the same, normalizing picks one.

What a sequence says are its atoms, and it can say them in many ways: a literal can be
cut up at any place, and empty literals can stand anywhere. Exactly one of these ways is
a normal form, and normalizing finds it, so sequences have the same template exactly if
they are spelled out alike. Everything that is taken from a template can be taken from
its atoms: its text, its fields, and the line that it makes of an entry. None of these
can tell a sequence from its template.

## Main definitions

* `Atom.field?`: The field of an atom, if it is one.

## Theorems

* `fields_eq_atoms`: The fields of a template are those among its atoms.
* `text_ofSegments`, `fields_ofSegments`, `fill_ofSegments`: What is taken from a template
  is that of the segments it was made of.
* `isNormal_iff_normalize_eq`: Normal forms are the sequences that are left alone.
* `ofSegments_append`: Sequences can be normalized before they are joined.
* `ofSegments_canonical`: The template of segments is canonical.
-/

namespace TextLog

/-- The field of an atom, if it is one. -/
def Atom.field? : Atom → Option Field
  | .char _ => none
  | .field f => some f

namespace Template

/-- The fields of a template are those among its atoms, in the same order. -/
theorem fields_eq_atoms (xs : List Segment) :
    (mk xs).fields = (atoms xs).filterMap Atom.field? := by
  induction xs with
  | nil => rfl
  | cons x xs ih =>
      cases x with
      | literal s =>
          -- The characters of a literal are no fields.
          have hnone : (s.toList.map Atom.char).filterMap Atom.field? = [] :=
            List.filterMap_eq_nil_iff.mpr fun a ha => by
              rcases List.mem_map.mp ha with ⟨c, _, rfl⟩
              rfl
          rw [fields_literal_cons, ih, atoms_literal_cons, List.filterMap_append, hnone,
            List.nil_append]
      | token f =>
          rw [fields_token_cons, ih, atoms_token_cons]
          rfl

theorem text_ofSegments (xs : List Segment) : (ofSegments xs).text = (mk xs).text := by
  rw [← String.toList_inj, toList_text_eq_atoms, ofSegments, toList_text_eq_atoms, atoms_normalize]

theorem fields_ofSegments (xs : List Segment) : (ofSegments xs).fields = (mk xs).fields := by
  rw [fields_eq_atoms xs, ofSegments, fields_eq_atoms, atoms_normalize]

/-- A line cannot tell how the literals of its template were cut up. -/
theorem fill_ofSegments (e : Entry) (xs : List Segment) :
    e.fill (ofSegments xs) = e.fill ⟨xs⟩ := by
  rw [← String.toList_inj, Entry.toList_fill, Entry.toList_fill, atoms_ofSegments]

/-- Normal forms are the sequences that normalizing leaves alone. -/
theorem isNormal_iff_normalize_eq (xs : List Segment) : IsNormal xs ↔ normalize xs = xs := by
  constructor
  · exact normalize_of_isNormal xs
  · intro h
    rw [← h]
    exact isNormal_normalize xs

/-- Sequences can be normalized before they are joined. -/
theorem ofSegments_append (xs ys : List Segment) :
    ofSegments (xs ++ ys) =
      ofSegments ((ofSegments xs).segments ++ (ofSegments ys).segments) := by
  rw [ofSegments_eq_iff, atoms_append, atoms_append, atoms_ofSegments, atoms_ofSegments]

/-- The template of segments is canonical. It is in normal form, and segments in normal
    form are left alone; it is the same for two sequences exactly if they are equal once
    every literal falls apart into its characters; parts can be normalized before they
    are joined; and its text, its fields and the line that it makes of any entry are
    those of the segments as they were given. -/
theorem ofSegments_canonical (xs ys : List Segment) :
    IsNormal (ofSegments xs).segments ∧
      (IsNormal xs ↔ (ofSegments xs).segments = xs) ∧
      (ofSegments xs = ofSegments ys ↔ atoms xs = atoms ys) ∧
      ofSegments (xs ++ ys) =
        ofSegments ((ofSegments xs).segments ++ (ofSegments ys).segments) ∧
      (ofSegments xs).text = (mk xs).text ∧
      (ofSegments xs).fields = (mk xs).fields ∧
      ∀ e : Entry, e.fill (ofSegments xs) = e.fill ⟨xs⟩ := by
  refine ⟨isNormal_normalize xs, isNormal_iff_normalize_eq xs, ofSegments_eq_iff xs ys,
    ofSegments_append xs ys, text_ofSegments xs, fields_ofSegments xs, ?_⟩
  intro e
  exact fill_ofSegments e xs

end Template

end TextLog
