import TextLog.Template
import TextLog.Text.Word

/-!
# Compiling Templates

From the text of a template to its segments.

The text is read once from left to right. Wherever a bracketed word `(%word)`
starts, it is taken as a whole: as a field if the word is that of a field, and
as literal text if it is not, so a template may mention words that are not
known. A word may be written in any script. Everything else is literal text,
character by character, and the literals are run together at the end.

## Main definitions

* `bracketed?`: The word of a placeholder at the start of a text.
* `Template.ofText`: The template of a text.
-/

namespace TextLog

namespace Template

/-- The word of the placeholder that a text starts with, and the text behind
    it. -/
def bracketed? : List Char → Option (List Char × List Char)
  | '(' :: '%' :: rest =>
    let word := rest.takeWhile Text.isWordChar
    match word, rest.dropWhile Text.isWordChar with
    | _ :: _, ')' :: after => some (word, after)
    | _, _ => none
  | _ => none

/-- What is left behind a placeholder is shorter. -/
theorem bracketed?_length_lt {cs word after : List Char}
    (h : bracketed? cs = some (word, after)) : after.length < cs.length := by
  unfold bracketed? at h
  split at h
  · rename_i rest
    simp only at h
    split at h
    · rename_i hword hafter
      have hlen : (rest.dropWhile Text.isWordChar).length ≤ rest.length :=
        (List.dropWhile_sublist _).length_le
      rw [hafter] at hlen
      simp only [Option.some.injEq, Prod.mk.injEq] at h
      rw [← h.2]
      simp only [List.length_cons] at hlen ⊢
      omega
    · simp at h
  · simp at h

/-- The segment of a bracketed word. -/
def wordSegment (word : List Char) : Segment :=
  match Field.ofWord? (String.ofList word) with
  | some f => .token f
  | none => .literal ("(%" ++ String.ofList word ++ ")")

/-- The segments of a text before literals are run together. -/
def split (cs : List Char) : List Segment :=
  match cs with
  | [] => []
  | c :: rest =>
    match _h : bracketed? (c :: rest) with
    | some (word, after) => wordSegment word :: split after
    | none => .literal (String.singleton c) :: split rest
  termination_by cs.length
  decreasing_by
  · exact bracketed?_length_lt _h
  · exact Nat.lt_succ_self _

/-- The template of a text. -/
def ofText (s : String) : Template :=
  ofSegments (split s.toList)

end Template

end TextLog
