import Mathlib.Data.List.TakeWhile
import TextLog.Template.Compile
import TextLog.Proofs.Template.Normal

/-!
# Scanning for Placeholders

The plain way to read the text of a template, and why compiling agrees with it.

`scan` looks for the placeholder of a field at every place from left to right,
goes on behind it where there is one, and copies a character where there is
none. It knows nothing of words that name no field. `Template.split` does: it
takes a bracketed word as a whole before it asks what the word means, so a word
that names no field could swallow the start of a placeholder. It never does,
because a placeholder starts with a bracket and no word has one in it; that is
`scan_bracketed` for unknown words and `bracketed?_placeholder` for the fields.

## Main definitions

* `Field.startOf?`: The field whose placeholder a text starts with.
* `scan`: The atoms of a text.

## Theorems

* `eq_of_placeholder_prefix`: A text starts with one placeholder at most.
* `startOf?_eq_some_iff`: What `startOf?` finds.
* `flatMap_text_scan`: A scan loses nothing.
* `scan_append_of_not_mem`: Text without an opening bracket is copied.
* `atoms_split`: Splitting a text gives the atoms of its scan.
* `atoms_ofText`: So does compiling it.
-/

namespace TextLog

namespace Field

theorem toList_placeholder (f : Field) :
    f.placeholder.toList = '(' :: '%' :: (f.word.toList ++ [')']) := by
  rw [placeholder, String.toList_append, String.toList_append]
  rfl

theorem word_ne_nil (f : Field) : f.word.toList ≠ [] := by
  cases f <;> decide

theorem isWordChar_of_mem_word (f : Field) : ∀ c ∈ f.word.toList, Text.isWordChar c := by
  have hall : f.word.toList.all Text.isWordChar := by
    cases f <;> decide
  exact List.all_eq_true.mp hall

theorem placeholder_length_pos (f : Field) : 0 < f.placeholder.length := by
  rw [← String.length_toList, toList_placeholder]
  exact Nat.succ_pos _

/-- Behind its first character a placeholder has no opening bracket. -/
theorem open_not_mem_tail (f : Field) : '(' ∉ f.placeholder.toList.tail := by
  cases f <;> decide

/-- No placeholder is the start of another one. -/
theorem eq_of_prefix_placeholder (f g : Field)
    (h : f.placeholder.toList <+: g.placeholder.toList) : f = g := by
  revert h
  cases f <;> cases g <;> decide

/-- A text starts with one placeholder at most. -/
theorem eq_of_placeholder_prefix (f g : Field) (cs : List Char)
    (hf : f.placeholder.toList <+: cs) (hg : g.placeholder.toList <+: cs) : f = g := by
  rcases List.prefix_or_prefix_of_prefix hf hg with h | h
  · exact eq_of_prefix_placeholder f g h
  · exact (eq_of_prefix_placeholder g f h).symm

theorem mem_all (f : Field) : f ∈ all := by
  cases f <;> decide

theorem word_injective (f g : Field) (h : f.word = g.word) : f = g := by
  revert h
  cases f <;> cases g <;> decide

/-- Looking for a field that is the only one of its kind finds it. -/
theorem find?_all_eq_some_iff (p : Field → Bool) (hp : ∀ f g, p f → p g → f = g) (f : Field) :
    all.find? p = some f ↔ p f := by
  constructor
  · intro h
    exact List.find?_some h
  · intro h
    cases hfind : all.find? p with
    | none => exact absurd h (List.find?_eq_none.mp hfind f (mem_all f))
    | some g => rw [hp g f (List.find?_some hfind) h]

theorem ofWord?_eq_some_iff (s : String) (f : Field) : ofWord? s = some f ↔ f.word = s := by
  refine (find?_all_eq_some_iff _ (fun f g hf hg => ?_) f).trans beq_iff_eq
  exact word_injective f g ((beq_iff_eq.mp hf).trans (beq_iff_eq.mp hg).symm)

/-- The field whose placeholder a text starts with. -/
def startOf? (cs : List Char) : Option Field :=
  all.find? fun f => f.placeholder.toList.isPrefixOf cs

theorem startOf?_eq_some_iff (cs : List Char) (f : Field) :
    startOf? cs = some f ↔ f.placeholder.toList <+: cs := by
  refine (find?_all_eq_some_iff _ (fun f g hf hg => ?_) f).trans List.isPrefixOf_iff_prefix
  exact eq_of_placeholder_prefix f g cs (List.isPrefixOf_iff_prefix.mp hf)
    (List.isPrefixOf_iff_prefix.mp hg)

theorem startOf?_eq_none_iff (cs : List Char) :
    startOf? cs = none ↔ ∀ f : Field, ¬f.placeholder.toList <+: cs := by
  constructor
  · intro h f hf
    rw [(startOf?_eq_some_iff cs f).mpr hf] at h
    exact absurd h (by simp only [reduceCtorEq, not_false_eq_true])
  · intro h
    cases hfind : startOf? cs with
    | none => rfl
    | some f => exact absurd ((startOf?_eq_some_iff cs f).mp hfind) (h f)

/-- A placeholder starts with an opening bracket. -/
theorem startOf?_of_ne_open (c : Char) (cs : List Char) (hc : c ≠ '(') :
    startOf? (c :: cs) = none := by
  refine (startOf?_eq_none_iff _).mpr fun f hf => ?_
  rw [toList_placeholder] at hf
  exact hc (List.cons_prefix_cons.mp hf).1.symm

end Field

namespace Template

/-- The atoms of a text: where a placeholder starts its field, and the scan goes
    on behind it; elsewhere the character. -/
def scan : List Char → List Atom
  | [] => []
  | c :: cs =>
    match Field.startOf? (c :: cs) with
    | some f => .field f :: scan ((c :: cs).drop f.placeholder.length)
    | none => .char c :: scan cs
  termination_by cs => cs.length
  decreasing_by
  · have hpos := f.placeholder_length_pos
    rw [List.length_drop, List.length_cons]
    omega
  · exact Nat.lt_succ_self _

theorem scan_nil : scan [] = [] := by
  rw [scan]

theorem scan_placeholder (f : Field) (cs : List Char) :
    scan (f.placeholder.toList ++ cs) = .field f :: scan cs := by
  have hstart := (Field.startOf?_eq_some_iff (f.placeholder.toList ++ cs) f).mpr
    (List.prefix_append _ _)
  have hdrop : (f.placeholder.toList ++ cs).drop f.placeholder.length = cs := by
    rw [← String.length_toList, List.drop_left]
  rw [f.toList_placeholder, List.cons_append] at hstart hdrop ⊢
  rw [scan, hstart]
  simp only [hdrop]

theorem scan_cons (c : Char) (cs : List Char) (h : Field.startOf? (c :: cs) = none) :
    scan (c :: cs) = .char c :: scan cs := by
  rw [scan, h]

/-- A way to prove something of every text: it is empty, or it starts with a
    placeholder, or it starts with a character that is copied. -/
theorem scan_induction {P : List Char → Prop} (nil : P [])
    (placeholder : ∀ (f : Field) (cs : List Char), P cs → P (f.placeholder.toList ++ cs))
    (char : ∀ (c : Char) (cs : List Char), Field.startOf? (c :: cs) = none → P cs → P (c :: cs))
    (cs : List Char) : P cs := by
  induction cs using scan.induct with
  | case1 => exact nil
  | case2 c cs f hstart ih =>
      rcases (Field.startOf?_eq_some_iff _ f).mp hstart with ⟨rest, hrest⟩
      rw [← hrest, ← String.length_toList, List.drop_left] at ih
      rw [← hrest]
      exact placeholder f rest ih
  | case3 c cs hstart ih => exact char c cs hstart ih

/-- A scan loses nothing. -/
theorem flatMap_text_scan (cs : List Char) : (scan cs).flatMap Atom.text = cs := by
  induction cs using scan_induction with
  | nil =>
      rw [scan_nil]
      rfl
  | placeholder f cs ih =>
      rw [scan_placeholder, List.flatMap_cons, ih]
      rfl
  | char c cs hstart ih =>
      rw [scan_cons c cs hstart, List.flatMap_cons, ih]
      rfl

/-- Text without an opening bracket is copied, whatever follows it. -/
theorem scan_append_of_not_mem (pre cs : List Char) (h : '(' ∉ pre) :
    scan (pre ++ cs) = pre.map Atom.char ++ scan cs := by
  induction pre with
  | nil => rfl
  | cons c pre ih =>
      have hc : c ≠ '(' := fun heq => h (heq ▸ List.mem_cons_self)
      have hpre : '(' ∉ pre := fun hmem => h (List.mem_cons_of_mem _ hmem)
      rw [List.cons_append, scan_cons c _ (Field.startOf?_of_ne_open c _ hc), ih hpre]
      rfl

/-- What a text with a bracketed word at its start looks like. -/
theorem eq_of_bracketed?_eq_some {cs word after : List Char}
    (h : bracketed? cs = some (word, after)) :
    cs = '(' :: '%' :: (word ++ ')' :: after) ∧ word ≠ [] ∧ ∀ c ∈ word, Text.isWordChar c := by
  unfold bracketed? at h
  split at h
  · rename_i rest
    simp only at h
    split at h
    · rename_i c word' after' hword hafter
      simp only [Option.some.injEq, Prod.mk.injEq] at h
      have hrest := List.takeWhile_append_dropWhile (p := Text.isWordChar) (l := rest)
      rw [h.1, hafter, h.2] at hrest
      refine ⟨by rw [hrest], ?_, fun d hd => ?_⟩
      · rw [← h.1, hword]
        exact List.cons_ne_nil c word'
      · rw [← h.1] at hd
        exact List.mem_takeWhile_imp hd
    · exact absurd h (by simp only [reduceCtorEq, not_false_eq_true])
  · exact absurd h (by simp only [reduceCtorEq, not_false_eq_true])

/-- A word in brackets is taken as a whole, since brackets are not characters of
    words. -/
theorem bracketed?_word (word after : List Char) (hne : word ≠ [])
    (hword : ∀ c ∈ word, Text.isWordChar c) :
    bracketed? ('(' :: '%' :: (word ++ ')' :: after)) = some (word, after) := by
  have hclose : Text.isWordChar ')' = false := by decide
  have htake : (word ++ ')' :: after).takeWhile Text.isWordChar = word := by
    rw [List.takeWhile_append_of_pos hword, List.takeWhile_cons, hclose]
    exact List.append_nil word
  have hdrop : (word ++ ')' :: after).dropWhile Text.isWordChar = ')' :: after := by
    rw [List.dropWhile_append_of_pos hword, List.dropWhile_cons, hclose]
    rfl
  cases word with
  | nil => exact absurd rfl hne
  | cons c word => simp only [bracketed?, htake, hdrop]

/-- The word of a field is among the bracketed words. -/
theorem bracketed?_placeholder (f : Field) (cs : List Char) :
    bracketed? (f.placeholder.toList ++ cs) = some (f.word.toList, cs) := by
  rw [f.toList_placeholder, List.cons_append, List.cons_append, List.append_assoc]
  exact bracketed?_word f.word.toList cs f.word_ne_nil f.isWordChar_of_mem_word

/-- The atoms of a bracketed word are those that a scan finds: its field, or its
    characters if it names none. -/
theorem scan_bracketed (word after : List Char) (hne : word ≠ [])
    (hword : ∀ c ∈ word, Text.isWordChar c) :
    scan ('(' :: '%' :: (word ++ ')' :: after)) = (wordSegment word).atoms ++ scan after := by
  cases hof : Field.ofWord? (String.ofList word) with
  | some f =>
      have hf : f.word.toList = word := by
        rw [(Field.ofWord?_eq_some_iff _ f).mp hof, String.toList_ofList]
      have hph : '(' :: '%' :: (word ++ ')' :: after) = f.placeholder.toList ++ after := by
        rw [f.toList_placeholder, hf, List.cons_append, List.cons_append, List.append_assoc]
        rfl
      rw [hph, scan_placeholder, wordSegment, hof]
      rfl
  | none =>
      -- No placeholder starts here: its word would be this one.
      have hstart : Field.startOf? ('(' :: '%' :: (word ++ ')' :: after)) = none := by
        refine (Field.startOf?_eq_none_iff _).mpr fun f hf => ?_
        rcases hf with ⟨rest, hrest⟩
        have hbr := bracketed?_placeholder f rest
        rw [hrest, bracketed?_word word after hne hword, Option.some.injEq, Prod.mk.injEq] at hbr
        rw [hbr.1, String.ofList_toList, (Field.ofWord?_eq_some_iff _ f).mpr rfl] at hof
        exact absurd hof (by simp only [reduceCtorEq, not_false_eq_true])
      -- Nor does one start further on, where there is no opening bracket.
      have htail : '(' ∉ '%' :: (word ++ [')']) := by
        intro hmem
        rcases List.mem_cons.mp hmem with heq | hmem
        · exact absurd heq (by decide)
        rcases List.mem_append.mp hmem with hmem | hmem
        · exact absurd (hword '(' hmem) (by decide)
        · exact absurd (List.mem_singleton.mp hmem) (by decide)
      have hsplit : '%' :: (word ++ ')' :: after) = ('%' :: (word ++ [')'])) ++ after := by
        rw [List.cons_append, List.append_assoc]
        rfl
      rw [scan_cons _ _ hstart, hsplit, scan_append_of_not_mem _ after htail, wordSegment, hof]
      simp only [Segment.atoms, String.toList_append, String.toList_ofList]
      rfl

/-- Splitting a text gives the atoms of its scan. -/
theorem atoms_split (cs : List Char) : atoms (split cs) = scan cs := by
  induction cs using split.induct with
  | case1 =>
      rw [split, scan_nil]
      rfl
  | case2 c cs word after hbr ih =>
      rcases eq_of_bracketed?_eq_some hbr with ⟨hcs, hne, hword⟩
      rw [split, hbr]
      simp only [atoms, List.flatMap_cons] at ih ⊢
      rw [ih, hcs, scan_bracketed word after hne hword]
  | case3 c cs hbr ih =>
      have hstart : Field.startOf? (c :: cs) = none := by
        refine (Field.startOf?_eq_none_iff _).mpr fun f hf => ?_
        rcases hf with ⟨rest, hrest⟩
        rw [← hrest, bracketed?_placeholder] at hbr
        exact absurd hbr (by simp only [reduceCtorEq, not_false_eq_true])
      rw [split, hbr, scan_cons c cs hstart]
      simp only [atoms_literal_cons, String.toList_singleton, ih]
      rfl

/-- Compiling a text gives the atoms of its scan. -/
theorem atoms_ofText (s : String) : atoms (ofText s).segments = scan s.toList := by
  rw [ofText, atoms_ofSegments, atoms_split]

theorem isNormal_ofText (s : String) : IsNormal (ofText s).segments :=
  isNormal_normalize _

end Template

end TextLog
