import Mathlib.Data.List.Flatten
import TextLog.Entry

/-!
# What a Line Shows

The fields that a template uses are exactly those that its lines tell apart.

Two entries that differ in one field alone have the same line under a template that
does not use the field. Under one that does, their lines differ: a line is shorter or
longer by what the values differ in length, as often as the field occurs
(`length_fill_add`), so equal lines have values of equal length. Then nothing can be
shifted: every segment shows as many characters in one line as in the other, and so
the lines agree segment by segment (`segmentText_eq_of_fill_eq`).

## Main definitions

* `Entry.AgreeBut`: Two entries show the same in all fields but one.

## Theorems

* `segmentText_of_agreeBut`: What segments show that are not the field.
* `length_fill_add`: How the lengths of two lines differ.
* `segmentText_eq_of_fill_eq`: Equal lines agree segment by segment.
* `fill_eq_iff_of_agreeBut`: The lines are equal if the field is not used, and
  otherwise exactly if the values are.
-/

namespace TextLog

namespace Template

theorem uses_iff_mem (t : Template) (f : Field) : t.uses f = true ↔ .token f ∈ t.segments := by
  rw [uses, List.contains_iff_mem, fields, List.mem_filterMap]
  constructor
  · rintro ⟨x, hx, hfield⟩
    cases x with
    | literal s => exact absurd hfield (by simp only [Segment.field?, reduceCtorEq,
        not_false_eq_true])
    | token g => exact Option.some.inj hfield ▸ hx
  · exact fun h => ⟨.token f, h, rfl⟩

theorem fields_literal_cons (s : String) (xs : List Segment) :
    (mk (.literal s :: xs)).fields = (mk xs).fields := rfl

theorem fields_token_cons (f : Field) (xs : List Segment) :
    (mk (.token f :: xs)).fields = f :: (mk xs).fields := rfl

/-- A segment that is not the field does not count as an occurrence of it. -/
theorem count_fields_cons_of_ne (f : Field) (x : Segment) (xs : List Segment)
    (hx : x ≠ .token f) : (mk (x :: xs)).fields.count f = (mk xs).fields.count f := by
  cases x with
  | literal s => rw [fields_literal_cons]
  | token g =>
      have hg : g ≠ f := fun heq => hx (congrArg Segment.token heq)
      rw [fields_token_cons, List.count_cons_of_ne hg]

end Template

namespace Entry

/-- Two entries show the same in every field but one. -/
def AgreeBut (f : Field) (e₁ e₂ : Entry) : Prop :=
  ∀ g, g ≠ f → e₁.valueOf g = e₂.valueOf g

/-- A segment that is not the field shows the same of both entries. -/
theorem segmentText_of_agreeBut {f : Field} {e₁ e₂ : Entry} (h : AgreeBut f e₁ e₂) (x : Segment)
    (hx : x ≠ .token f) : e₁.segmentText x = e₂.segmentText x := by
  cases x with
  | literal s => rfl
  | token g => exact h g fun heq => hx (congrArg Segment.token heq)

/-- A line is the texts of its segments one behind the other. -/
theorem toList_fill_segments (e : Entry) (xs : List Segment) :
    (e.fill ⟨xs⟩).toList = xs.flatMap fun x => (e.segmentText x).toList := by
  rw [fill, String.toList_join, List.flatMap_map]

/-- The lines of two entries differ in length by as much as their values of the field,
    each time that it occurs. -/
theorem length_fill_add {f : Field} {e₁ e₂ : Entry} (h : AgreeBut f e₁ e₂) (t : Template) :
    (e₁.fill t).length + t.fields.count f * (e₂.valueOf f).length =
      (e₂.fill t).length + t.fields.count f * (e₁.valueOf f).length := by
  rcases t with ⟨xs⟩
  simp only [← String.length_toList, toList_fill_segments]
  induction xs with
  | nil => simp only [Template.fields, List.filterMap_nil, List.count_nil, Nat.zero_mul,
      List.flatMap_nil]
  | cons x xs ih =>
      rw [List.flatMap_cons, List.flatMap_cons, List.length_append, List.length_append]
      by_cases hx : x = .token f
      · rw [hx, Template.fields_token_cons, List.count_cons_self, Nat.succ_mul, Nat.succ_mul,
          segmentText, segmentText]
        omega
      · rw [Template.count_fields_cons_of_ne f x xs hx, segmentText_of_agreeBut h x hx]
        omega

/-- Equal lines agree segment by segment if each segment shows as many characters in one
    as in the other. -/
theorem segmentText_eq_of_fill_eq {e₁ e₂ : Entry} {t : Template}
    (hlength : ∀ x ∈ t.segments, (e₁.segmentText x).length = (e₂.segmentText x).length)
    (h : e₁.fill t = e₂.fill t) (x : Segment) (hx : x ∈ t.segments) :
    e₁.segmentText x = e₂.segmentText x := by
  rcases t with ⟨xs⟩
  have htexts : xs.map (fun x => (e₁.segmentText x).toList) =
      xs.map fun x => (e₂.segmentText x).toList := by
    -- Equal texts that are cut at the same places are equal piece by piece.
    refine List.eq_iff_flatten_eq.mpr ⟨?_, ?_⟩
    · rw [← List.flatMap_def, ← List.flatMap_def, ← toList_fill_segments, h, toList_fill_segments]
    · rw [List.map_map, List.map_map]
      refine List.map_inj_left.mpr fun y hy => ?_
      rw [Function.comp_apply, Function.comp_apply, String.length_toList, String.length_toList]
      exact hlength y hy
  exact String.toList_inj.mp (List.map_inj_left.mp htexts x hx)

/-- Lines that use a field give the length of its value away. -/
theorem length_valueOf_of_fill_eq {f : Field} {e₁ e₂ : Entry} (h : AgreeBut f e₁ e₂)
    {t : Template} (huses : t.uses f = true) (hline : e₁.fill t = e₂.fill t) :
    (e₁.valueOf f).length = (e₂.valueOf f).length := by
  have hcount : 0 < t.fields.count f :=
    List.count_pos_iff.mpr (List.contains_iff_mem.mp huses)
  have hlength := length_fill_add h t
  rw [hline] at hlength
  exact (Nat.eq_of_mul_eq_mul_left hcount (Nat.add_left_cancel hlength)).symm

/-- What a line tells of a field. For two entries that show the same in all other
    fields, the lines of a template that uses the field are equal exactly if the values
    are, however often it occurs and whatever stands in between; those of a template
    that does not use it are always equal. -/
theorem fill_eq_iff_of_agreeBut (t : Template) (f : Field) (e₁ e₂ : Entry)
    (h : AgreeBut f e₁ e₂) :
    (t.uses f = true → (e₁.fill t = e₂.fill t ↔ e₁.valueOf f = e₂.valueOf f)) ∧
      (t.uses f = false → e₁.fill t = e₂.fill t) := by
  -- If the values agree wherever the field occurs, all segments show the same.
  have hsame : (t.uses f = true → e₁.valueOf f = e₂.valueOf f) → e₁.fill t = e₂.fill t := by
    intro hvalue
    refine congrArg String.join (List.map_inj_left.mpr fun x hx => ?_)
    by_cases hfield : x = .token f
    · rw [hfield] at hx ⊢
      exact hvalue ((t.uses_iff_mem f).mpr hx)
    · exact segmentText_of_agreeBut h x hfield
  refine ⟨fun huses => ⟨fun hline => ?_, fun hvalue => hsame fun _ => hvalue⟩, fun hunused => ?_⟩
  · have hlength := length_valueOf_of_fill_eq h huses hline
    refine segmentText_eq_of_fill_eq (fun x _ => ?_) hline (.token f) ((t.uses_iff_mem f).mp huses)
    by_cases hfield : x = .token f
    · rw [hfield]
      exact hlength
    · rw [segmentText_of_agreeBut h x hfield]
  · exact hsame fun huses => absurd huses (hunused ▸ Bool.false_ne_true)

/-- A message that repeats the literal beside it is told from an empty one. -/
theorem fill_eq_iff_of_agreeBut_repeated :
    AgreeBut .message ⟨"now", .info, "app.py", .int 7, "main", "ab", none, none⟩
        ⟨"now", .info, "app.py", .int 7, "main", "", some "", none⟩ ∧
      Template.uses ⟨[.literal "ab", .token .message, .literal "ab", .token .message]⟩ .message =
        true ∧
      Template.uses ⟨[.literal "ab", .token .message, .literal "ab", .token .message]⟩ .label =
        false ∧
      fill ⟨"now", .info, "app.py", .int 7, "main", "ab", none, none⟩
          ⟨[.literal "ab", .token .message, .literal "ab", .token .message]⟩ ≠
        fill ⟨"now", .info, "app.py", .int 7, "main", "", some "", none⟩
          ⟨[.literal "ab", .token .message, .literal "ab", .token .message]⟩ := by
  have hagree : AgreeBut .message ⟨"now", .info, "app.py", .int 7, "main", "ab", none, none⟩
      ⟨"now", .info, "app.py", .int 7, "main", "", some "", none⟩ := by
    intro g hg
    cases g with
    | message => exact absurd rfl hg
    | _ => rfl
  refine ⟨hagree, rfl, rfl, fun hline => ?_⟩
  have hvalue := ((fill_eq_iff_of_agreeBut
    ⟨[.literal "ab", .token .message, .literal "ab", .token .message]⟩ .message _ _ hagree).1
    rfl).mp hline
  exact absurd hvalue (by decide)

end Entry

end TextLog
