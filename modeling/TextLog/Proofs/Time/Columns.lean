import TextLog.Time.Pattern
import Mathlib.Algebra.Ring.Nat
import Mathlib.Data.List.Basic

/-!
# Columns of Digits

Numbers written one behind the other, each filled up with zeros to a width of its own.

As long as every number fits its width, nothing is lost and nothing moves: the numbers
are read back by their widths alone, whatever follows them, and two rows of the same
columns compare like the lists of their numbers, digit by digit from the left.

## Main definitions

* `column`: The last digits of a number, as many as a width.
* `Columns`: The widths of a row, each with the marks behind it.
* `Columns.write`, `Columns.read?`: A row of numbers, and the numbers of a row.
* `Columns.Fits`: Each number fits its width.

## Theorems

* `number_zeros_eq_column`: A number filled up with zeros.
* `readNumber_column`, `column_eq_iff`, `column_lt_iff`: Reading and comparing a column.
* `append_lt_append_iff`: Comparing what has the same length in front.
* `Columns.read?_write`, `Columns.write_append_lt_iff`: The same for a row.
-/

namespace TextLog

namespace Time

/-! ### One column -/

/-- The last digits of a number, as many as a width. -/
def column : Nat → Nat → List Char
  | 0, _ => []
  | width + 1, n => column width (n / 10) ++ [Char.ofNat (48 + n % 10)]

@[simp]
theorem length_column (width n : Nat) : (column width n).length = width := by
  induction width generalizing n with
  | zero => rfl
  | succ width ih => rw [column, List.length_append, ih, List.length_singleton]

/-- A digit is one, and it stands for itself. -/
theorem digit_of_lt_ten : ∀ d < 10,
    (Char.ofNat (48 + d)).isDigit = true ∧ (Char.ofNat (48 + d)).toNat - 48 = d ∧
      Nat.digitChar d = Char.ofNat (48 + d) := by
  decide

theorem digit_lt_iff : ∀ d < 10, ∀ e < 10, Char.ofNat (48 + d) < Char.ofNat (48 + e) ↔ d < e := by
  decide

theorem isDigit_of_mem_column {width n : Nat} {c : Char} (h : c ∈ column width n) :
    c.isDigit = true := by
  induction width generalizing n with
  | zero => exact absurd h List.not_mem_nil
  | succ width ih =>
      rw [column, List.mem_append, List.mem_singleton] at h
      rcases h with h | h
      · exact ih h
      · rw [h]
        exact (digit_of_lt_ten _ (Nat.mod_lt n (by decide))).1

/-- A number that fits its width is read back. -/
theorem readNumber_column {width n : Nat} (h : n < 10 ^ width) :
    Pattern.readNumber (column width n) = n := by
  induction width generalizing n with
  | zero => exact (Nat.lt_one_iff.mp h).symm
  | succ width ih =>
      have hread := ih (Nat.div_lt_of_lt_mul (Nat.pow_succ' ▸ h))
      rw [Pattern.readNumber] at hread ⊢
      rw [column, List.foldl_append, hread, List.foldl_cons, List.foldl_nil,
        (digit_of_lt_ten _ (Nat.mod_lt n (by decide))).2.1]
      exact Nat.div_add_mod n 10

theorem column_eq_iff {width n m : Nat} (hn : n < 10 ^ width) (hm : m < 10 ^ width) :
    column width n = column width m ↔ n = m := by
  refine ⟨fun h => ?_, fun h => h ▸ rfl⟩
  rw [← readNumber_column hn, h, readNumber_column hm]

/-- A number that fits its width is filled up to a column. -/
theorem number_zeros_eq_column {width n : Nat} (h : n < 10 ^ (width + 1)) :
    Pattern.number .zeros (width + 1) n = column (width + 1) n := by
  induction width generalizing n with
  | zero =>
      have hdigit : n < 10 := by simpa using h
      rw [Pattern.number, Decimal.digits, Nat.toDigits_of_lt_base hdigit,
        (digit_of_lt_ten n hdigit).2.2, column, column, Nat.mod_eq_of_lt hdigit]
      rfl
  | succ width ih =>
      have hlast := (digit_of_lt_ten _ (Nat.mod_lt n (show 0 < 10 by decide))).2.2
      rw [column, ← ih (Nat.div_lt_of_lt_mul (Nat.pow_succ' ▸ h)), ← hlast]
      simp only [Pattern.number, Decimal.digits, Pattern.filled]
      rw [Nat.toDigits_eq_if (by decide : 1 < 10)]
      by_cases hten : n < 10
      · -- A single digit: the rest of the width is all zeros, also what is left of the number.
        rw [if_pos hten, Nat.div_eq_of_lt hten, Nat.mod_eq_of_lt hten,
          Nat.toDigits_of_lt_base (show 0 < 10 by decide), List.length_singleton,
          Nat.add_sub_cancel, List.length_singleton, Nat.add_sub_cancel, List.replicate_succ']
        rfl
      · rw [if_neg hten, List.length_append, List.length_singleton, Nat.add_sub_add_right,
          List.append_assoc]

/-! ### Comparing -/

/-- What has the same length in front is compared by what is in front, and by what is
    behind only where that is equal. -/
theorem append_lt_append_iff {a b : List Char} (h : a.length = b.length) (r s : List Char) :
    a ++ r < b ++ s ↔ a < b ∨ a = b ∧ r < s := by
  induction a generalizing b with
  | nil =>
      rw [List.length_eq_zero_iff.mp h.symm]
      simp only [List.nil_append, List.not_lt_nil, true_and, false_or]
  | cons x a ih =>
      cases b with
      | nil => exact absurd h (Nat.succ_ne_zero _)
      | cons y b =>
          rw [List.cons_append, List.cons_append, List.cons_lt_cons_iff, List.cons_lt_cons_iff,
            ih (Nat.succ.inj h), List.cons.injEq]
          tauto

/-- Columns of one width compare like their numbers. -/
theorem column_lt_iff {width n m : Nat} (hn : n < 10 ^ width) (hm : m < 10 ^ width) :
    column width n < column width m ↔ n < m := by
  induction width generalizing n m with
  | zero =>
      rw [Nat.lt_one_iff.mp hn, Nat.lt_one_iff.mp hm]
      simp only [column, List.not_lt_nil, Nat.lt_irrefl]
  | succ width ih =>
      have hn' : n / 10 < 10 ^ width := Nat.div_lt_of_lt_mul (Nat.pow_succ' ▸ hn)
      have hm' : m / 10 < 10 ^ width := Nat.div_lt_of_lt_mul (Nat.pow_succ' ▸ hm)
      rw [column, column, append_lt_append_iff (by rw [length_column, length_column]), ih hn' hm',
        column_eq_iff hn' hm', List.cons_lt_cons_iff,
        digit_lt_iff _ (Nat.mod_lt n (by decide)) _ (Nat.mod_lt m (by decide))]
      simp only [List.not_lt_nil, and_false, or_false]
      omega

/-! ### A row of columns -/

/-- The widths of a row of columns, each with the marks behind it. -/
abbrev Columns := List (Nat × List Char)

namespace Columns

/-- Each number fits its width. -/
def Fits : Columns → List Nat → Prop
  | [], [] => True
  | (width, _) :: columns, n :: ns => n < 10 ^ width ∧ Fits columns ns
  | _, _ => False

/-- A row of numbers, each in its column. -/
def write : Columns → List Nat → List Char
  | (width, marks) :: columns, n :: ns => column width n ++ (marks ++ write columns ns)
  | _, _ => []

/-- The number that the digits at the start of a text write, as many as a width, and what
    is left behind them. -/
def readColumn? (width : Nat) (cs : List Char) : Option (Nat × List Char) :=
  if (cs.take width).length = width ∧ (cs.take width).all Char.isDigit then
    some (Pattern.readNumber (cs.take width), cs.drop width)
  else none

/-- The numbers of the row that a text starts with, and what is left behind it. -/
def read? : Columns → List Char → Option (List Nat × List Char)
  | [], cs => some ([], cs)
  | (width, marks) :: columns, cs =>
    (readColumn? width cs).bind fun (n, rest) =>
      (rest.dropPrefix? marks).bind fun rest =>
        (read? columns rest).map fun (ns, rest) => (n :: ns, rest)

theorem readColumn?_column {width n : Nat} (h : n < 10 ^ width) (rest : List Char) :
    readColumn? width (column width n ++ rest) = some (n, rest) := by
  have hlength := length_column width n
  have hdigits : (column width n).all Char.isDigit = true :=
    List.all_eq_true.mpr fun _ hc => isDigit_of_mem_column hc
  rw [readColumn?, List.take_left' hlength, List.drop_left' hlength, if_pos ⟨hlength, hdigits⟩,
    readNumber_column h]

/-- The numbers of a row are read back, whatever follows it. -/
theorem read?_write {columns : Columns} {ns : List Nat} (h : columns.Fits ns)
    (rest : List Char) : columns.read? (columns.write ns ++ rest) = some (ns, rest) := by
  induction columns generalizing ns with
  | nil =>
      cases ns with
      | nil => rfl
      | cons n ns => exact h.elim
  | cons first columns ih =>
      cases ns with
      | nil => exact h.elim
      | cons n ns =>
          rcases h with ⟨hn, hns⟩
          rw [write, read?, List.append_assoc, readColumn?_column hn, Option.bind_some]
          dsimp only
          rw [List.append_assoc, List.dropPrefix?_append_of_beq _ BEq.rfl, Option.bind_some, ih hns]
          rfl

/-- Rows of the same columns compare like the lists of their numbers, and by what follows
    only where these are equal. -/
theorem write_append_lt_iff {columns : Columns} {ns ms : List Nat} (hns : columns.Fits ns)
    (hms : columns.Fits ms) (r s : List Char) :
    columns.write ns ++ r < columns.write ms ++ s ↔ ns < ms ∨ ns = ms ∧ r < s := by
  induction columns generalizing ns ms with
  | nil =>
      cases ns with
      | cons n ns => exact hns.elim
      | nil =>
          cases ms with
          | cons m ms => exact hms.elim
          | nil => simp only [write, List.nil_append, List.not_lt_nil, true_and, false_or]
  | cons first columns ih =>
      cases ns with
      | nil => exact hns.elim
      | cons n ns =>
          cases ms with
          | nil => exact hms.elim
          | cons m ms =>
              rcases hns with ⟨hn, hns⟩
              rcases hms with ⟨hm, hms⟩
              rw [write, write, List.append_assoc, List.append_assoc, List.append_assoc,
                List.append_assoc,
                append_lt_append_iff (by rw [length_column, length_column]), column_lt_iff hn hm,
                column_eq_iff hn hm, append_lt_append_iff rfl, ih hns hms, List.cons_lt_cons_iff,
                List.cons.injEq]
              simp only [List.lt_irrefl, false_or, true_and]
              tauto

end Columns

end Time

end TextLog
