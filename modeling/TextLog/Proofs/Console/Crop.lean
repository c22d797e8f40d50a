import TextLog.Console.Wrap

/-!
# Cropped Lines

What the console cuts off a line that has too many cells.

Blanks are taken off the end one by one, so the words stay where they are
(`cropLine_append`), and this goes on until the line fits or a word is reached
(`width_cropLine`). Half of a wide blank is shown as a narrow one in the last cell. The
blank behind a joiner has no cell of its own, so the cells of blanks behind a text are
only bounded by their number.

## Theorems

* `dropBlanks_append`, `cropLine_append`: Words are kept.
* `width_append_spaces_le`: The cells of blanks behind a text.
* `dropBlanks_of_fits`: A line that fits is left alone.
* `width_cropLine`: A cropped line fits, or ends with a word.
-/

namespace TextLog

namespace Console

/-! ### Words -/

/-- Blanks are taken off a line, given in reverse, up to the last word at most. -/
theorem dropBlanks_append (limit : Nat) (tail word : List Char)
    (hword : ∀ c ∈ word, Text.isBlank c = false) :
    ∃ kept, dropBlanks limit (tail ++ word) = kept ++ word := by
  -- What is behind the word is taken off from its end, which comes first here.
  induction tail with
  | nil =>
      refine ⟨[], ?_⟩
      cases word with
      | nil => rfl
      | cons c rest =>
          rw [List.nil_append, dropBlanks, hword c List.mem_cons_self, Bool.false_and,
            if_neg Bool.false_ne_true]
  | cons c tail ih =>
      rcases ih with ⟨kept, hkept⟩
      rw [List.cons_append, dropBlanks]
      split
      · rw [hkept, ← List.append_assoc]
        exact ⟨_, rfl⟩
      · exact ⟨c :: tail, rfl⟩

/-- Cropping a line leaves the word at its start. -/
theorem cropLine_append (limit : Nat) (word tail : List Char)
    (hword : ∀ c ∈ word, Text.isBlank c = false) :
    ∃ kept, cropLine limit (word ++ tail) = word ++ kept := by
  rcases dropBlanks_append limit tail.reverse word.reverse
    (fun c hc => hword c (List.mem_reverse.mp hc)) with ⟨kept, hkept⟩
  refine ⟨kept.reverse, ?_⟩
  rw [cropLine, List.reverse_append, hkept, List.reverse_append, List.reverse_reverse]

/-! ### Cells -/

theorem widthFrom_space (last : Option Char) : widthFrom last [' '] = 1 := by
  have hjoiner : ' ' ≠ joiner := by decide
  have hselector : ' ' ≠ selector := by decide
  rw [widthFrom.eq_def]
  simp only [if_neg hjoiner, if_neg hselector]
  rfl

/-- A blank behind a text takes one cell, or none if it is joined to the text. -/
theorem widthFrom_append_space_le (last : Option Char) (cs : List Char) :
    widthFrom last (cs ++ [' ']) ≤ widthFrom last cs + 1 := by
  fun_induction widthFrom last cs with
  | case1 last => exact Nat.le_of_eq (widthFrom_space last)
  | case2 last d after ih =>
      have hsame : widthFrom last (joiner :: d :: after ++ [' ']) =
          widthFrom last (after ++ [' ']) := by
        rw [List.cons_append, List.cons_append, widthFrom.eq_def]
        simp only [if_true]
      rw [hsame]
      exact ih
  | case3 last =>
      have hjoined : widthFrom last ([joiner] ++ [' ']) = 0 := by
        rw [List.singleton_append, widthFrom.eq_def]
        rfl
      rw [hjoined]
      exact Nat.zero_le _
  | case4 last rest hjoiner ih =>
      rw [List.cons_append, widthFrom.eq_def]
      simp only [if_neg hjoiner, if_true]
      omega
  | case5 last c rest hjoiner hselector ih =>
      rw [List.cons_append, widthFrom.eq_def]
      simp only [if_neg hjoiner, if_neg hselector]
      omega

/-- Blanks behind a text take as many cells as there are of them at most. -/
theorem width_append_spaces_le (cs : List Char) (n : Nat) :
    width (cs ++ List.replicate n ' ') ≤ width cs + n := by
  induction n with
  | zero =>
      rw [List.replicate_zero, List.append_nil]
      exact Nat.le_refl _
  | succ n ih =>
      have hlast : width (cs ++ List.replicate n ' ' ++ [' ']) ≤
          width (cs ++ List.replicate n ' ') + 1 :=
        widthFrom_append_space_le none (cs ++ List.replicate n ' ')
      rw [List.replicate_succ', ← List.append_assoc]
      omega

/-- A line that fits is left alone. -/
theorem dropBlanks_of_fits {limit : Nat} {cs : List Char} (hcs : width cs.reverse ≤ limit) :
    dropBlanks limit cs = cs := by
  cases cs with
  | nil => rfl
  | cons c rest =>
      rw [dropBlanks, decide_eq_false (Nat.not_lt.mpr hcs), Bool.and_false,
        if_neg Bool.false_ne_true]

/-- Blanks are taken off until the line fits or there are no more of them. -/
theorem width_dropBlanks (limit : Nat) (cs : List Char) :
    width (dropBlanks limit cs).reverse ≤ limit ∨
      ∃ c rest, dropBlanks limit cs = c :: rest ∧ Text.isBlank c = false := by
  induction cs with
  | nil => exact Or.inl (Nat.zero_le limit)
  | cons c rest ih =>
      rw [dropBlanks]
      by_cases hcut : (Text.isBlank c && limit < width (c :: rest).reverse) = true
      · rw [if_pos hcut]
        rcases Nat.lt_or_ge (width rest.reverse) limit with hshort | hlong
        · -- The blank was a wide one, and half of it takes the last cell.
          have hspaces := width_append_spaces_le rest.reverse (limit - width rest.reverse)
          rw [dropBlanks_of_fits (Nat.le_of_lt hshort), List.reverse_append, List.reverse_replicate]
          exact Or.inl (by omega)
        · rw [Nat.sub_eq_zero_of_le hlong, List.replicate_zero, List.nil_append]
          exact ih
      · rw [if_neg hcut]
        rw [Bool.and_eq_true, decide_eq_true_eq, not_and, Nat.not_lt] at hcut
        cases hblank : Text.isBlank c with
        | true => exact Or.inl (hcut hblank)
        | false => exact Or.inr ⟨c, rest, rfl, hblank⟩

/-- A cropped line fits, or ends with a word. -/
theorem width_cropLine (limit : Nat) (line : List Char) :
    width (cropLine limit line) ≤ limit ∨
      ∃ kept c, cropLine limit line = kept ++ [c] ∧ Text.isBlank c = false := by
  rcases width_dropBlanks limit line.reverse with hfits | ⟨c, rest, hkept, hc⟩
  · exact Or.inl hfits
  · refine Or.inr ⟨rest.reverse, c, ?_, hc⟩
    rw [cropLine, hkept, List.reverse_cons]

example : cropLine 5 "日本\u3000".toList = "日本 ".toList := by decide +kernel

end Console

end TextLog
