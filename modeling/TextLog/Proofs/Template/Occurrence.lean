import TextLog.Proofs.Template.Scan

/-!
# Occurrences of Placeholders

A compiled template has its fields exactly where the placeholders occur in its
text.

Both sides are put in terms of offsets. `StartsAt` says where an element of a
sequence begins when every element stands for some characters; it serves for
segments and for atoms, so `startsAt_atoms` carries a place from one to the
other. `Field.StandsAt` says that a placeholder is found at a place of a text.
They meet at the scan (`startsAt_scan`). The only way to go wrong would be a
placeholder that starts within another one, and `standsAt_placeholder_append`
rules it out.

## Main definitions

* `Text.OccursAt`: A text occurs in another one at an offset.
* `Template.HasTokenAt`: A template has a field at an offset of its text.
* `StartsAt`: An element begins at an offset of a sequence.
* `Field.StandsAt`: The placeholder of a field is found at an offset.

## Theorems

* `standsAt_placeholder_append`: Where placeholders can stand behind one.
* `standsAt_disjoint`: Placeholders do not overlap.
* `startsAt_scan`: The fields of a scan are where the placeholders stand.
* `text_ofText`: Compiling loses nothing.
* `ofText_recognizes_placeholders`: Compiling finds the placeholders and only
  those.
-/

namespace TextLog

/-- A text occurs in another one behind its first `i` characters. -/
def Text.OccursAt (part whole : String) (i : Nat) : Prop :=
  ∃ before after, whole = before ++ part ++ after ∧ before.length = i

/-- A template has a field behind segments whose text has `i` characters. -/
def Template.HasTokenAt (t : Template) (i : Nat) (f : Field) : Prop :=
  ∃ before after, t.segments = before ++ .token f :: after ∧ (Template.mk before).text.length = i

/-- An element begins at an offset of a sequence, every element standing for
    some characters. -/
def StartsAt {α : Type} (text : α → List Char) (a : α) (xs : List α) (i : Nat) : Prop :=
  ∃ before after, xs = before ++ a :: after ∧ (before.flatMap text).length = i

theorem startsAt_nil {α : Type} (text : α → List Char) (a : α) (i : Nat) :
    ¬StartsAt text a [] i := by
  rintro ⟨before, after, h, _⟩
  exact List.append_ne_nil_of_right_ne_nil before (List.cons_ne_nil a after) h.symm

theorem startsAt_cons {α : Type} (text : α → List Char) (a x : α) (xs : List α) (i : Nat) :
    StartsAt text a (x :: xs) i ↔
      (i = 0 ∧ x = a) ∨ ∃ j, i = (text x).length + j ∧ StartsAt text a xs j := by
  constructor
  · rintro ⟨before, after, h, hi⟩
    cases before with
    | nil => exact Or.inl ⟨hi.symm, (List.cons.inj h).1⟩
    | cons b before =>
        rcases List.cons.inj h with ⟨rfl, hxs⟩
        rw [List.flatMap_cons, List.length_append] at hi
        exact Or.inr ⟨_, hi.symm, before, after, hxs, rfl⟩
  · rintro (⟨rfl, rfl⟩ | ⟨j, rfl, before, after, rfl, rfl⟩)
    · exact ⟨[], xs, rfl, rfl⟩
    · refine ⟨x :: before, after, rfl, ?_⟩
      rw [List.flatMap_cons, List.length_append]

/-- An element begins behind all that is not it. -/
theorem startsAt_append_of_not_mem {α : Type} (text : α → List Char) (a : α) (pre xs : List α)
    (i : Nat) (h : a ∉ pre) :
    StartsAt text a (pre ++ xs) i ↔
      ∃ j, i = (pre.flatMap text).length + j ∧ StartsAt text a xs j := by
  induction pre generalizing i with
  | nil =>
      constructor
      · intro hx
        exact ⟨i, (Nat.zero_add i).symm, hx⟩
      · rintro ⟨j, rfl, hx⟩
        rw [List.flatMap_nil, List.length_nil, Nat.zero_add]
        exact hx
  | cons x pre ih =>
      have hxa : ¬x = a := fun heq => h (heq ▸ List.mem_cons_self)
      have hpre : a ∉ pre := fun hmem => h (List.mem_cons_of_mem _ hmem)
      rw [List.cons_append, startsAt_cons, List.flatMap_cons, List.length_append]
      constructor
      · rintro (⟨_, heq⟩ | ⟨j, rfl, hx⟩)
        · exact absurd heq hxa
        · rcases (ih j hpre).mp hx with ⟨k, rfl, hk⟩
          exact ⟨k, (Nat.add_assoc _ _ _).symm, hk⟩
      · rintro ⟨k, rfl, hk⟩
        exact Or.inr ⟨_, Nat.add_assoc _ _ _, (ih _ hpre).mpr ⟨k, rfl, hk⟩⟩

/-- A field has the same place among the atoms as among the segments. -/
theorem startsAt_atoms (f : Field) (xs : List Segment) (i : Nat) :
    StartsAt Atom.text (.field f) (Template.atoms xs) i ↔
      StartsAt (fun x : Segment => x.text.toList) (.token f) xs i := by
  induction xs generalizing i with
  | nil => exact iff_of_false (startsAt_nil _ _ i) (startsAt_nil _ _ i)
  | cons x xs ih =>
      rw [startsAt_cons]
      cases x with
      | literal s =>
          have hnot : Atom.field f ∉ s.toList.map Atom.char := by
            intro hmem
            rcases List.mem_map.mp hmem with ⟨c, _, hc⟩
            exact absurd hc (by simp only [reduceCtorEq, not_false_eq_true])
          rw [Template.atoms_literal_cons, startsAt_append_of_not_mem _ _ _ _ _ hnot,
            Template.flatMap_text_char]
          simp only [ih, reduceCtorEq, and_false, false_or, Segment.text]
      | token g =>
          rw [Template.atoms_token_cons, startsAt_cons]
          simp only [ih, Atom.field.injEq, Segment.token.injEq, Atom.text, Segment.text]

namespace Field

/-- The placeholder of a field is found behind the first `i` characters. -/
def StandsAt (f : Field) (cs : List Char) (i : Nat) : Prop :=
  f.placeholder.toList <+: cs.drop i

theorem standsAt_nil (f : Field) (i : Nat) : ¬f.StandsAt [] i := by
  intro h
  rw [StandsAt, List.drop_nil, List.prefix_nil, toList_placeholder] at h
  exact List.cons_ne_nil _ _ h

theorem standsAt_cons_zero (f : Field) (c : Char) (cs : List Char) (h : startOf? (c :: cs) = none) :
    ¬f.StandsAt (c :: cs) 0 :=
  (startOf?_eq_none_iff _).mp h f

theorem standsAt_cons_succ (f : Field) (c : Char) (cs : List Char) (i : Nat) :
    f.StandsAt (c :: cs) (i + 1) ↔ f.StandsAt cs i := Iff.rfl

/-- A placeholder that is found has room for itself. -/
theorem standsAt_le_length (f : Field) (cs : List Char) (i : Nat) (h : f.StandsAt cs i) :
    i + f.placeholder.length ≤ cs.length := by
  have hlen := h.length_le
  have hpos := f.placeholder_length_pos
  rw [String.length_toList, List.length_drop] at hlen
  omega

/-- A placeholder that is found is there character by character. -/
theorem standsAt_getElem? (f : Field) (cs : List Char) (i k : Nat) (h : f.StandsAt cs i)
    (hk : k < f.placeholder.length) : cs[i + k]? = f.placeholder.toList[k]? := by
  rcases h with ⟨rest, hrest⟩
  rw [← String.length_toList] at hk
  rw [← List.getElem?_drop, ← hrest, List.getElem?_append_left hk]

/-- Text in front moves a placeholder. -/
theorem standsAt_append_add (f : Field) (pre cs : List Char) (i : Nat) :
    f.StandsAt (pre ++ cs) (pre.length + i) ↔ f.StandsAt cs i := by
  rw [StandsAt, List.drop_length_add_append, StandsAt]

/-- Behind text that has no opening bracket but at its very start, placeholders
    stand at the start or further on. -/
theorem standsAt_append_tail (f : Field) (pre cs : List Char) (i : Nat) (h : '(' ∉ pre.tail) :
    f.StandsAt (pre ++ cs) i ↔
      (i = 0 ∧ f.StandsAt (pre ++ cs) 0 ∧ pre ≠ []) ∨
        ∃ j, i = pre.length + j ∧ f.StandsAt cs j := by
  constructor
  · intro hf
    by_cases hi : pre.length ≤ i
    · refine Or.inr ⟨i - pre.length, by omega, ?_⟩
      rwa [← Nat.add_sub_cancel' hi, standsAt_append_add] at hf
    · cases i with
      | zero => exact Or.inl ⟨rfl, hf, fun hnil => hi (hnil ▸ Nat.le_refl 0)⟩
      | succ k =>
          -- Within the text there is no bracket to start with.
          have hget := f.standsAt_getElem? _ _ 0 hf f.placeholder_length_pos
          rw [Nat.add_zero, List.getElem?_append_left (by omega), ← List.getElem?_tail,
            toList_placeholder] at hget
          exact absurd (List.mem_of_getElem? hget) h
  · rintro (⟨rfl, hf, _⟩ | ⟨j, rfl, hf⟩)
    · exact hf
    · exact (f.standsAt_append_add pre cs j).mpr hf

/-- Behind a placeholder the next one stands where it ends or further on. -/
theorem standsAt_placeholder_append (f g : Field) (cs : List Char) (i : Nat) :
    f.StandsAt (g.placeholder.toList ++ cs) i ↔
      (i = 0 ∧ g = f) ∨ ∃ j, i = g.placeholder.length + j ∧ f.StandsAt cs j := by
  rw [standsAt_append_tail f _ cs i g.open_not_mem_tail, String.length_toList]
  refine or_congr_left (and_congr_right fun _ => ⟨fun h => ?_, fun h => ?_⟩)
  · exact eq_of_placeholder_prefix g f _ (List.prefix_append _ _) h.1
  · refine ⟨h ▸ List.prefix_append _ _, ?_⟩
    rw [toList_placeholder]
    exact List.cons_ne_nil _ _

/-- Placeholders do not overlap. -/
theorem standsAt_disjoint (f g : Field) (cs : List Char) (i j : Nat) (hf : f.StandsAt cs i)
    (hg : g.StandsAt cs j) (hij : i ≤ j) : (i = j ∧ f = g) ∨ i + f.placeholder.length ≤ j := by
  rcases hf with ⟨rest, hrest⟩
  have hdrop : cs.drop j = (cs.drop i).drop (j - i) := by
    rw [List.drop_drop, Nat.add_sub_cancel' hij]
  rw [StandsAt, hdrop, ← hrest] at hg
  rcases (standsAt_placeholder_append g f rest (j - i)).mp hg with ⟨hzero, heq⟩ | ⟨k, hk, _⟩
  · exact Or.inl ⟨by omega, heq⟩
  · exact Or.inr (by omega)

theorem occursAt_iff_standsAt (f : Field) (s : String) (i : Nat) :
    Text.OccursAt f.placeholder s i ↔ f.StandsAt s.toList i := by
  constructor
  · rintro ⟨before, after, rfl, rfl⟩
    refine ⟨after.toList, ?_⟩
    rw [String.toList_append, String.toList_append, List.append_assoc, ← String.length_toList,
      List.drop_left]
  · intro h
    rcases h with ⟨rest, hrest⟩
    have hle := f.standsAt_le_length _ _ ⟨rest, hrest⟩
    refine ⟨String.ofList (s.toList.take i), String.ofList rest, ?_, ?_⟩
    · rw [← String.toList_inj, String.toList_append, String.toList_append, String.toList_ofList,
        String.toList_ofList, List.append_assoc, hrest, List.take_append_drop]
    · rw [← String.length_toList, String.toList_ofList, List.length_take]
      omega

end Field

namespace Template

/-- The fields of a scan are where the placeholders stand. -/
theorem startsAt_scan (f : Field) (cs : List Char) (i : Nat) :
    StartsAt Atom.text (.field f) (scan cs) i ↔ f.StandsAt cs i := by
  induction cs using scan_induction generalizing i with
  | nil =>
      rw [scan_nil]
      exact iff_of_false (startsAt_nil _ _ i) (f.standsAt_nil i)
  | placeholder g cs ih =>
      rw [scan_placeholder, startsAt_cons, f.standsAt_placeholder_append]
      simp only [ih, Atom.field.injEq, Atom.text, String.length_toList]
  | char c cs hstart ih =>
      rw [scan_cons c cs hstart, startsAt_cons]
      simp only [ih, reduceCtorEq, and_false, false_or, Atom.text, List.length_singleton]
      -- No placeholder starts at the character, so only the places behind it
      -- are left, and there both sides move by one.
      cases i with
      | zero =>
          refine iff_of_false ?_ (f.standsAt_cons_zero c cs hstart)
          rintro ⟨j, hj, _⟩
          omega
      | succ k =>
          rw [f.standsAt_cons_succ]
          constructor
          · rintro ⟨j, hj, h⟩
            rwa [show k = j by omega]
          · exact fun h => ⟨k, Nat.add_comm k 1, h⟩

theorem hasTokenAt_iff_startsAt (t : Template) (i : Nat) (f : Field) :
    t.HasTokenAt i f ↔ StartsAt (fun x : Segment => x.text.toList) (.token f) t.segments i := by
  unfold HasTokenAt StartsAt
  simp only [← toList_text, String.length_toList]

/-- Compiling loses nothing. -/
theorem text_ofText (s : String) : (ofText s).text = s := by
  rw [← String.toList_inj, toList_text_eq_atoms, atoms_ofText, flatMap_text_scan]

theorem hasTokenAt_ofText_iff (s : String) (i : Nat) (f : Field) :
    (ofText s).HasTokenAt i f ↔ f.StandsAt s.toList i := by
  rw [hasTokenAt_iff_startsAt, ← startsAt_atoms, atoms_ofText, startsAt_scan]

/-- Compiling keeps the text, gives a normal form, and finds the placeholders of
    the text and only those, wherever they stand: no text around one hides it
    and none creates one. So placeholders never overlap. -/
theorem ofText_recognizes_placeholders (s : String) :
    (ofText s).text = s ∧ IsNormal (ofText s).segments ∧
      (∀ i f, (ofText s).HasTokenAt i f ↔ Text.OccursAt f.placeholder s i) ∧
      ∀ (i j : Nat) (f g : Field), Text.OccursAt f.placeholder s i →
        Text.OccursAt g.placeholder s j → i ≤ j →
        (i = j ∧ f = g) ∨ i + f.placeholder.length ≤ j := by
  refine ⟨text_ofText s, isNormal_ofText s, fun i f => ?_, fun i j f g hf hg hij => ?_⟩
  · rw [hasTokenAt_ofText_iff, f.occursAt_iff_standsAt]
  · rw [Field.occursAt_iff_standsAt] at hf hg
    exact Field.standsAt_disjoint f g s.toList i j hf hg hij

/-- Neither a word that is not closed nor an opening that is doubled hides the
    placeholder behind it. -/
theorem ofText_recognizes_placeholders_unclosed :
    Text.OccursAt Field.message.placeholder "(%abc(%msg)(%(%line)" 5 ∧
      Text.OccursAt Field.line.placeholder "(%abc(%msg)(%(%line)" 13 ∧
      (ofText "(%abc(%msg)(%(%line)").HasTokenAt 5 .message ∧
      (ofText "(%abc(%msg)(%(%line)").HasTokenAt 13 .line ∧
      5 + Field.message.placeholder.length ≤ 13 := by
  rcases ofText_recognizes_placeholders "(%abc(%msg)(%(%line)" with ⟨_, _, htoken, hdisjoint⟩
  have hmessage : Text.OccursAt Field.message.placeholder "(%abc(%msg)(%(%line)" 5 :=
    ⟨"(%abc", "(%(%line)", rfl, rfl⟩
  have hline : Text.OccursAt Field.line.placeholder "(%abc(%msg)(%(%line)" 13 :=
    ⟨"(%abc(%msg)(%", "", rfl, rfl⟩
  refine ⟨hmessage, hline, (htoken 5 .message).mpr hmessage, (htoken 13 .line).mpr hline, ?_⟩
  rcases hdisjoint 5 13 .message .line hmessage hline (by decide) with ⟨heq, _⟩ | hle
  · exact absurd heq (by decide)
  · exact hle

end Template

end TextLog
