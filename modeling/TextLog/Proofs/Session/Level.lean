import Mathlib.Algebra.Order.Field.Power
import Mathlib.Algebra.Order.Field.Rat
import Mathlib.Data.Rat.Cast.Order
import Mathlib.Order.WithBot
import TextLog.Session.Record

/-!
# The Order of Numeric Levels

A record with a higher level passes whatever one with a lower level passes.

Levels are whole numbers or numbers with a fraction, and are only ever compared with
whole numbers. Such a comparison is exact (`atLeast_iff`): it is that of the values,
which are rational or infinite, whatever kind of number holds them. A level that is no
number has no value, is at least nothing, and no other level is higher than it.

The severity of a level is that of the highest step it reaches. Higher steps have
higher severities, so a severity is passed exactly by the levels that reach a step of
at least this severity (`passes_severityOfLevel_iff`), and these are closed upward.

## Main definitions

* `Binary64.value?`, `LevelNumber.value?`: The value of a number.
* `LevelNumber.IsAtMost`: The order of levels by their values.

## Theorems

* `ratioOf_eq`: A finite number is the quotient of its parts.
* `atLeast_iff`, `enabled_iff`: What levels are compared with.
* `passes_severityOfLevel_iff`: The levels that pass a threshold.
* `rank_severityOfLevel_mono`: Higher levels have higher severities.
* `accepts_mono`: Higher levels pass the levels of sources and handlers.
-/

namespace TextLog

namespace Binary64

/-- The value of a finite number. -/
def finiteValue (negative : Bool) (mantissa : Nat) (exponent : Int) : ℚ :=
  (if negative then -1 else 1) * (mantissa * 2 ^ exponent)

/-- The value of a number, finite or not, if it is one. -/
def value? : Binary64 → Option (WithBot (WithTop ℚ))
  | .finite negative mantissa exponent => some (finiteValue negative mantissa exponent : WithTop ℚ)
  | .infinite negative => some (if negative then ⊥ else ⊤)
  | .nan => none

theorem ratioOf_snd_pos (mantissa : Nat) (exponent : Int) : 0 < (ratioOf mantissa exponent).2 := by
  rw [ratioOf, scaleTwo]
  by_cases h : 0 ≤ exponent
  · rw [if_pos h]
    exact Nat.one_pos
  · rw [if_neg h, Nat.one_mul]
    exact Nat.pow_pos Nat.two_pos

/-- The size of a finite number is the quotient of its parts. -/
theorem ratioOf_eq (mantissa : Nat) (exponent : Int) :
    ((ratioOf mantissa exponent).1 : ℚ) =
      mantissa * 2 ^ exponent * ((ratioOf mantissa exponent).2 : ℚ) := by
  rw [ratioOf, scaleTwo]
  by_cases h : 0 ≤ exponent
  · rw [if_pos h]
    rcases Int.eq_ofNat_of_zero_le h with ⟨k, rfl⟩
    simp [Decimal.powTwo]
  · rw [if_neg h]
    rcases Int.exists_eq_neg_ofNat (Int.le_of_lt (Int.not_le.mp h)) with ⟨k, rfl⟩
    simp [Decimal.powTwo]

/-- Comparing a finite number with an integer compares their values. -/
theorem atLeast_finite_iff (negative : Bool) (mantissa : Nat) (exponent bound : Int) :
    (Binary64.finite negative mantissa exponent).atLeast bound = true ↔
      (bound : ℚ) ≤ finiteValue negative mantissa exponent := by
  have hpos : (0 : ℚ) < (ratioOf mantissa exponent).2 :=
    Nat.cast_pos.mpr (ratioOf_snd_pos mantissa exponent)
  have hsigned : ((if negative then -((ratioOf mantissa exponent).1 : Int)
      else ((ratioOf mantissa exponent).1 : Int) : Int) : ℚ) =
        finiteValue negative mantissa exponent * (ratioOf mantissa exponent).2 := by
    cases negative with
    | false => simp only [Bool.false_eq_true, if_false, Int.cast_natCast, finiteValue, one_mul,
        ratioOf_eq]
    | true => simp only [if_true, Int.cast_neg, Int.cast_natCast, finiteValue, neg_mul, one_mul,
        ratioOf_eq]
  -- The comparison is made between integers, both sides times the second part.
  simp only [atLeast, decide_eq_true_eq]
  rw [← Int.cast_le (R := ℚ), Int.cast_mul, Int.cast_natCast, hsigned,
    mul_le_mul_iff_of_pos_right hpos]

/-- A finite number is positive if it has no sign and is not zero. -/
theorem finiteValue_pos_iff (negative : Bool) (mantissa : Nat) (exponent : Int) :
    0 < finiteValue negative mantissa exponent ↔ negative = false ∧ mantissa ≠ 0 := by
  have hpower : (0 : ℚ) < 2 ^ exponent := zpow_pos two_pos exponent
  cases negative with
  | false => simp only [finiteValue, Bool.false_eq_true, if_false, one_mul,
      mul_pos_iff_of_pos_right hpower, Nat.cast_pos, Nat.pos_iff_ne_zero, true_and]
  | true =>
      refine iff_of_false ?_ fun h => absurd h.1 (by decide)
      rw [finiteValue, if_pos rfl, neg_one_mul, not_lt, neg_nonpos]
      exact mul_nonneg (Nat.cast_nonneg mantissa) hpower.le

end Binary64

namespace LevelNumber

/-- The value of a level, if it is a number. -/
def value? : LevelNumber → Option (WithBot (WithTop ℚ))
  | .int n => some ((n : ℚ) : WithTop ℚ)
  | .float x => x.value?

/-- A level is at most another one. Both have to be numbers. -/
def IsAtMost (n m : LevelNumber) : Prop :=
  ∃ v w, n.value? = some v ∧ m.value? = some w ∧ v ≤ w

/-- A level is compared with an integer by its value. -/
theorem atLeast_iff (n : LevelNumber) (bound : Int) :
    n.atLeast bound = true ↔
      ∃ v, n.value? = some v ∧ (((bound : ℚ) : WithTop ℚ) : WithBot (WithTop ℚ)) ≤ v := by
  cases n with
  | int n => simp [atLeast, value?]
  | float x =>
      cases x with
      | nan => simp [atLeast, value?, Binary64.value?, Binary64.atLeast]
      | infinite negative =>
          cases negative <;> simp [atLeast, value?, Binary64.value?, Binary64.atLeast]
      | finite negative mantissa exponent =>
          simp [atLeast, value?, Binary64.value?, Binary64.atLeast_finite_iff]

/-- A level is switched on if it is positive, or is no number. -/
theorem enabled_iff (n : LevelNumber) :
    n.enabled = true ↔ ∀ v, n.value? = some v → (0 : WithBot (WithTop ℚ)) < v := by
  have hcoe : ∀ x : ℚ, (0 : WithBot (WithTop ℚ)) < (x : WithTop ℚ) ↔ 0 < x := fun x =>
    WithBot.coe_lt_coe.trans WithTop.coe_lt_coe
  cases n with
  | int n =>
      simp only [enabled, value?, decide_eq_true_eq, Option.some.injEq, forall_eq', hcoe,
        Int.cast_pos]
  | float x =>
      cases x with
      | nan => exact iff_of_true rfl fun v hv => absurd hv (Option.some_ne_none v).symm
      | infinite negative =>
          have htop : (0 : WithBot (WithTop ℚ)) < ⊤ :=
            WithBot.coe_lt_coe.mpr (WithTop.coe_lt_top 0)
          cases negative <;> simp [enabled, value?, Binary64.value?, htop]
      | finite negative mantissa exponent =>
          simp only [enabled, value?, Binary64.value?, Bool.and_eq_true, Bool.not_eq_true',
            bne_iff_ne, Option.some.injEq, forall_eq', hcoe, Binary64.finiteValue_pos_iff]

theorem atLeast_mono {n m : LevelNumber} (h : n.IsAtMost m) {bound : Int}
    (hn : n.atLeast bound = true) : m.atLeast bound = true := by
  rcases h with ⟨v, w, hv, hw, hle⟩
  rcases (n.atLeast_iff bound).mp hn with ⟨v', hv', hbound⟩
  rw [hv, Option.some.injEq] at hv'
  exact (m.atLeast_iff bound).mpr ⟨w, hw, hbound.trans (hv' ▸ hle)⟩

theorem enabled_mono {n m : LevelNumber} (h : n.IsAtMost m) (hn : n.enabled = true) :
    m.enabled = true := by
  rcases h with ⟨v, w, hv, hw, hle⟩
  refine m.enabled_iff.mpr fun w' hw' => ?_
  rw [hw, Option.some.injEq] at hw'
  exact hw' ▸ (n.enabled_iff.mp hn v hv).trans_le hle

end LevelNumber

/-- Higher levels pass the levels of sources and handlers that lower ones pass. -/
theorem RecordHandler.accepts_mono (h : RecordHandler) {n m : LevelNumber} (hle : n.IsAtMost m)
    (hn : h.accepts n = true) : h.accepts m = true := by
  simp only [RecordHandler.accepts, Bool.and_eq_true] at hn ⊢
  exact ⟨⟨LevelNumber.enabled_mono hle hn.1.1, LevelNumber.atLeast_mono hle hn.1.2⟩,
    LevelNumber.atLeast_mono hle hn.2⟩

/-- Of the steps of numeric levels, the higher ones have the higher severities. -/
theorem levelSteps_pairwise :
    levelSteps.Pairwise fun a b => b.2.rank ≤ a.2.rank := by
  decide

/-- The first member of a list that is found comes before all others that could have been
    found. -/
theorem rel_of_find?_eq_some {α : Type} {r : α → α → Prop} {p : α → Bool} {xs : List α}
    (hpair : xs.Pairwise r) (hrefl : ∀ a, r a a) {a b : α} (ha : xs.find? p = some a)
    (hb : b ∈ xs) (hp : p b = true) : r a b := by
  rcases List.find?_eq_some_iff_append.mp ha with ⟨_, before, after, rfl, hbefore⟩
  rcases List.mem_append.mp hb with hmem | hmem
  · exact absurd hp (by simpa using hbefore b hmem)
  · rcases List.mem_cons.mp hmem with rfl | hmem
    · exact hrefl b
    · exact (List.pairwise_cons.mp (List.pairwise_append.mp hpair).2.1).1 b hmem

/-- The levels whose severity passes a threshold: all, if records that reach no step pass;
    else those that reach a step whose severity passes. -/
theorem passes_severityOfLevel_iff (n : LevelNumber) (threshold : Severity) :
    (severityOfLevel n).passes threshold = true ↔
      Severity.trace.passes threshold = true ∨
        ∃ step ∈ levelSteps, step.2.passes threshold = true ∧ n.atLeast step.1 = true := by
  have hlow : ∀ step ∈ levelSteps, Severity.trace.rank ≤ step.2.rank := by decide
  simp only [Severity.passes, decide_eq_true_eq]
  cases hfind : levelSteps.find? fun step => n.atLeast step.1 with
  | none =>
      have hseverity : severityOfLevel n = .trace := by
        rw [severityOfLevel, hfind]
      rw [hseverity]
      refine ⟨Or.inl, fun h => h.resolve_right ?_⟩
      rintro ⟨step, hmem, _, hstep⟩
      exact List.find?_eq_none.mp hfind step hmem hstep
  | some found =>
      have hseverity : severityOfLevel n = found.2 := by
        rw [severityOfLevel, hfind]
      rw [hseverity]
      constructor
      · have hreached : n.atLeast found.1 = true :=
          List.find?_some (p := fun step : Int × Severity => n.atLeast step.1) hfind
        exact fun h => Or.inr ⟨found, List.mem_of_find?_eq_some hfind, h, hreached⟩
      · rintro (h | ⟨step, hmem, hpass, hstep⟩)
        · exact h.trans (hlow found (List.mem_of_find?_eq_some hfind))
        -- The step that is found is the first one reached, so it is the highest of them.
        · exact hpass.trans
            (rel_of_find?_eq_some levelSteps_pairwise (fun _ => Nat.le_refl _) hfind hmem hstep)

/-- A higher level passes a threshold that a lower one passes. -/
theorem passes_severityOfLevel_mono {n m : LevelNumber} (hle : n.IsAtMost m)
    {threshold : Severity} (hn : (severityOfLevel n).passes threshold = true) :
    (severityOfLevel m).passes threshold = true := by
  rw [passes_severityOfLevel_iff] at hn ⊢
  rcases hn with htrace | ⟨step, hmem, hpass, hstep⟩
  · exact Or.inl htrace
  · exact Or.inr ⟨step, hmem, hpass, LevelNumber.atLeast_mono hle hstep⟩

/-- A higher level has a severity that is at least as high. -/
theorem rank_severityOfLevel_mono {n m : LevelNumber} (hle : n.IsAtMost m) :
    (severityOfLevel n).rank ≤ (severityOfLevel m).rank := by
  -- Every severity passes itself as a threshold.
  have hself : (severityOfLevel n).passes (severityOfLevel n) = true :=
    decide_eq_true (Nat.le_refl _)
  exact of_decide_eq_true (passes_severityOfLevel_mono hle hself)

end TextLog
