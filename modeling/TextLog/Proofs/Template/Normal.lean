import Mathlib.Data.List.Basic
import Mathlib.Data.List.Chain
import TextLog.Template

/-!
# Normal Forms of Templates

What a sequence of segments says, however its literal text is cut up.

`atoms` spells a sequence out: every literal falls apart into its characters
and the fields stay whole. Running literals together does not change the atoms,
and a sequence in normal form can be told from its atoms, so two sequences have
the same normal form exactly when they are spelled out alike. Statements about
compiled templates are therefore proved about atoms, where there is nothing to
merge, and carried over.

## Main definitions

* `Atom`: A character that is copied, or a field.
* `Template.atoms`: A sequence of segments spelled out.
* `Template.IsNormal`: No empty literal and no two literals in a row.

## Theorems

* `isNormal_normalize`: Normalizing gives a normal form.
* `normalize_of_isNormal`: A normal form is left alone.
* `atoms_normalize`: Normalizing keeps the atoms.
* `normalize_eq_iff`: The atoms decide the normal form.
* `eq_of_atoms_eq`: Normal forms with the same atoms are equal.
* `ofSegments_eq_iff`: The atoms decide the template of segments.
* `toList_text`, `toList_text_eq_atoms`: The text of a template, by segments and
  by atoms.
-/

namespace TextLog

/-- The smallest parts of a template: a character that is copied, or a field
    that is filled in. -/
inductive Atom where
  | char (c : Char)
  | field (f : Field)
  deriving DecidableEq, Repr

namespace Atom

/-- The characters that an atom stands for. -/
def text : Atom → List Char
  | .char c => [c]
  | .field f => f.placeholder.toList

/-- The segment that holds an atom and nothing else. -/
def segment : Atom → Segment
  | .char c => .literal (String.singleton c)
  | .field f => .token f

end Atom

namespace Segment

/-- A segment spelled out. -/
def atoms : Segment → List Atom
  | .literal s => s.toList.map Atom.char
  | .token f => [.field f]

/-- The segment is literal text. -/
def isLiteral : Segment → Bool
  | .literal _ => true
  | .token _ => false

end Segment

namespace Template

/-- A sequence of segments spelled out. -/
def atoms (segments : List Segment) : List Atom :=
  segments.flatMap Segment.atoms

/-- Segments in normal form: no literal is empty, and of two segments in a row
    at least one is a field. -/
structure IsNormal (segments : List Segment) : Prop where
  ne_empty : ∀ s, .literal s ∈ segments → s ≠ ""
  no_adjacent : segments.IsChain fun a b => ¬(a.isLiteral ∧ b.isLiteral)

theorem atoms_literal_cons (s : String) (xs : List Segment) :
    atoms (.literal s :: xs) = s.toList.map Atom.char ++ atoms xs := rfl

theorem atoms_token_cons (f : Field) (xs : List Segment) :
    atoms (.token f :: xs) = .field f :: atoms xs := rfl

theorem atoms_append (xs ys : List Segment) : atoms (xs ++ ys) = atoms xs ++ atoms ys :=
  List.flatMap_append

theorem isNormal_nil : IsNormal [] :=
  ⟨fun _ hs => absurd hs List.not_mem_nil, .nil⟩

theorem isNormal_token_cons (f : Field) (xs : List Segment) :
    IsNormal (.token f :: xs) ↔ IsNormal xs := by
  constructor
  · intro h
    refine ⟨fun s hs => h.ne_empty s (List.mem_cons_of_mem _ hs), ?_⟩
    exact (List.isChain_cons.mp h.no_adjacent).2
  · intro h
    refine ⟨fun s hs => ?_, List.isChain_cons.mpr ⟨fun y _ hy => ?_, h.no_adjacent⟩⟩
    · rcases List.mem_cons.mp hs with heq | hmem
      · exact absurd heq (by simp only [reduceCtorEq, not_false_eq_true])
      · exact h.ne_empty s hmem
    · exact absurd hy.1 (by simp only [Segment.isLiteral, Bool.false_eq_true, not_false_eq_true])

/-- A literal may stand in front of a normal form if it is not empty and the
    form does not start with a literal itself. -/
theorem isNormal_literal_cons (s : String) (xs : List Segment) :
    IsNormal (.literal s :: xs) ↔
      s ≠ "" ∧ (∀ t, xs.head? ≠ some (.literal t)) ∧ IsNormal xs := by
  constructor
  · intro h
    have hchain := List.isChain_cons.mp h.no_adjacent
    refine ⟨h.ne_empty s List.mem_cons_self, fun t ht => ?_,
      fun t ht => h.ne_empty t (List.mem_cons_of_mem _ ht), hchain.2⟩
    exact hchain.1 (.literal t) (Option.mem_def.mpr ht) ⟨rfl, rfl⟩
  · rintro ⟨hs, hhead, h⟩
    refine ⟨fun t ht => ?_, List.isChain_cons.mpr ⟨fun y hy hlit => ?_, h.no_adjacent⟩⟩
    · rcases List.mem_cons.mp ht with heq | hmem
      · rw [Segment.literal.inj heq]
        exact hs
      · exact h.ne_empty t hmem
    · cases y with
      | literal t => exact hhead t (Option.mem_def.mp hy)
      | token f => exact absurd hlit.2 Bool.false_ne_true

theorem consLiteral_literal (s t : String) (xs : List Segment) :
    consLiteral s (.literal t :: xs) = .literal (s ++ t) :: xs := rfl

theorem consLiteral_empty (xs : List Segment) : consLiteral "" xs = xs := by
  unfold consLiteral
  split
  · rw [String.empty_append]
  · rw [if_pos rfl]

/-- In front of anything but a literal, a literal is kept as it is. -/
theorem consLiteral_of_head (s : String) (xs : List Segment) (hs : s ≠ "")
    (hhead : ∀ t, xs.head? ≠ some (.literal t)) : consLiteral s xs = .literal s :: xs := by
  unfold consLiteral
  split
  · rename_i t rest
    exact absurd rfl (hhead t)
  · rw [if_neg hs]

/-- Literals can be put in front one after the other. -/
theorem consLiteral_append (s t : String) (xs : List Segment) :
    consLiteral (s ++ t) xs = consLiteral s (consLiteral t xs) := by
  by_cases ht : t = ""
  · rw [ht, String.append_empty, consLiteral_empty]
  by_cases hlit : ∃ u rest, xs = .literal u :: rest
  · rcases hlit with ⟨u, rest, rfl⟩
    rw [consLiteral_literal, consLiteral_literal, consLiteral_literal, String.append_assoc]
  · have hhead : ∀ u, xs.head? ≠ some (.literal u) := by
      intro u hu
      rcases List.head?_eq_some_iff.mp hu with ⟨rest, hrest⟩
      exact hlit ⟨u, rest, hrest⟩
    have hst : s ++ t ≠ "" := fun h => ht (String.append_eq_empty_iff.mp h).2
    rw [consLiteral_of_head t xs ht hhead, consLiteral_literal,
      consLiteral_of_head (s ++ t) xs hst hhead]

theorem atoms_consLiteral (s : String) (xs : List Segment) :
    atoms (consLiteral s xs) = s.toList.map Atom.char ++ atoms xs := by
  unfold consLiteral
  split
  · rename_i t rest
    rw [atoms_literal_cons, atoms_literal_cons, String.toList_append, List.map_append,
      List.append_assoc]
  · by_cases hs : s = ""
    · rw [if_pos hs, hs, String.toList_empty, List.map_nil, List.nil_append]
    · rw [if_neg hs, atoms_literal_cons]

theorem isNormal_consLiteral (s : String) (xs : List Segment) (h : IsNormal xs) :
    IsNormal (consLiteral s xs) := by
  unfold consLiteral
  split
  · rename_i t rest
    rcases (isNormal_literal_cons t rest).mp h with ⟨ht, hrest⟩
    refine (isNormal_literal_cons (s ++ t) rest).mpr ⟨fun hst => ht ?_, hrest⟩
    exact (String.append_eq_empty_iff.mp hst).2
  · rename_i hno
    by_cases hs : s = ""
    · rw [if_pos hs]
      exact h
    · rw [if_neg hs]
      refine (isNormal_literal_cons s xs).mpr ⟨hs, fun t ht => ?_, h⟩
      rcases List.head?_eq_some_iff.mp ht with ⟨rest, hrest⟩
      exact hno t rest hrest

/-- Normalizing gives a normal form. -/
theorem isNormal_normalize (xs : List Segment) : IsNormal (normalize xs) := by
  induction xs with
  | nil => exact isNormal_nil
  | cons x xs ih =>
      cases x with
      | literal s => exact isNormal_consLiteral s _ ih
      | token f => exact (isNormal_token_cons f _).mpr ih

/-- A normal form is left alone. -/
theorem normalize_of_isNormal (xs : List Segment) (h : IsNormal xs) : normalize xs = xs := by
  induction xs with
  | nil => rfl
  | cons x xs ih =>
      cases x with
      | literal s =>
          rcases (isNormal_literal_cons s xs).mp h with ⟨hs, hhead, hxs⟩
          rw [normalize, ih hxs, consLiteral_of_head s xs hs hhead]
      | token f => rw [normalize, ih ((isNormal_token_cons f xs).mp h)]

/-- Normalizing keeps the atoms. -/
theorem atoms_normalize (xs : List Segment) : atoms (normalize xs) = atoms xs := by
  induction xs with
  | nil => rfl
  | cons x xs ih =>
      cases x with
      | literal s => rw [normalize, atoms_consLiteral, ih, atoms_literal_cons]
      | token f => rw [normalize, atoms_token_cons, ih, atoms_token_cons]

/-- Characters one by one normalize like the literal that holds them all. -/
theorem normalize_map_char_append (cs : List Char) (ys : List Segment) :
    normalize ((cs.map Atom.char).map Atom.segment ++ ys)
      = consLiteral (String.ofList cs) (normalize ys) := by
  induction cs with
  | nil => exact (consLiteral_empty _).symm
  | cons c cs ih =>
      rw [String.ofList_cons, consLiteral_append, ← ih]
      rfl

/-- The normal form can be rebuilt from the atoms. -/
theorem normalize_atoms (xs : List Segment) :
    normalize ((atoms xs).map Atom.segment) = normalize xs := by
  induction xs with
  | nil => rfl
  | cons x xs ih =>
      cases x with
      | literal s =>
          rw [atoms_literal_cons, List.map_append, normalize_map_char_append, ih,
            String.ofList_toList, normalize]
      | token f =>
          rw [atoms_token_cons, List.map_cons, Atom.segment, normalize, ih, normalize]

/-- The atoms decide the normal form. -/
theorem normalize_eq_iff (xs ys : List Segment) :
    normalize xs = normalize ys ↔ atoms xs = atoms ys := by
  constructor
  · intro h
    rw [← atoms_normalize xs, h, atoms_normalize]
  · intro h
    rw [← normalize_atoms xs, h, normalize_atoms]

/-- Normal forms with the same atoms are equal. -/
theorem eq_of_atoms_eq (xs ys : List Segment) (hx : IsNormal xs) (hy : IsNormal ys)
    (h : atoms xs = atoms ys) : xs = ys := by
  rw [← normalize_of_isNormal xs hx, ← normalize_of_isNormal ys hy]
  exact (normalize_eq_iff xs ys).mpr h

theorem atoms_ofSegments (xs : List Segment) : atoms (ofSegments xs).segments = atoms xs :=
  atoms_normalize xs

/-- Segments have the same template if they are spelled out alike. -/
theorem ofSegments_eq_iff (xs ys : List Segment) :
    ofSegments xs = ofSegments ys ↔ atoms xs = atoms ys := by
  rw [ofSegments, ofSegments, mk.injEq, normalize_eq_iff]

theorem flatMap_text_char (cs : List Char) : (cs.map Atom.char).flatMap Atom.text = cs := by
  rw [List.flatMap_map]
  exact List.flatMap_singleton' cs

theorem flatMap_text_atoms (x : Segment) : x.atoms.flatMap Atom.text = x.text.toList := by
  cases x with
  | literal s => exact flatMap_text_char s.toList
  | token f => exact List.append_nil _

/-- The text of a template, segment by segment. -/
theorem toList_text (xs : List Segment) :
    (Template.mk xs).text.toList = xs.flatMap fun x => x.text.toList := by
  rw [text, String.toList_join, List.flatMap_map]

/-- The text of a template, atom by atom. -/
theorem toList_text_eq_atoms (xs : List Segment) :
    (Template.mk xs).text.toList = (atoms xs).flatMap Atom.text := by
  rw [toList_text, atoms, List.flatMap_assoc]
  exact List.flatMap_congr fun x _ => (flatMap_text_atoms x).symm

end Template

end TextLog
