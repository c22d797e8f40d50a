import TextLog.Time.Calendar
import Mathlib.Algebra.Ring.Nat
import Mathlib.Data.List.Basic

/-!
# Dates and Their Numbers

Turning a number into a date and counting the days of the date again gives the number.

The calendar is four cycles inside each other: a year is the so many-th of four, these
four the so many-th of a century and that the so many-th of 400 years. Both the days
before a year and the leap years are simple in these positions, and the search for the
year of a day finds nothing else than its positions. Months are looked for in the table
of their lengths.

The dates that are found are real ones: the day is a day of the month, and the time of
day one that clocks show. Within the calendar no year has more than four digits.

## Main definitions

* `yearLength`, `monthLength`: The days of a year and of a month.
* `DateTime.IsValid`: A date of the calendar with a time of day.

## Theorems

* `daysBeforeYear_cycles`, `isLeap_cycles`, `exists_cycles_of_day`: Years by their
  positions in the cycles.
* `daysBeforeYear_succ`, `daysBeforeYear_add_le`: A year begins where the last one ends.
* `daysBeforeYear_yearOfDay`, `yearOfDay_lt`: The year of a day.
* `sum_take_monthOfDay`, `monthOfDay_lt`: The month of a day.
* `DateTime.toMicros_ofMicros`: The number of the date of a number.
* `DateTime.isValid_ofMicros`: The dates of the calendar are valid.
-/

namespace TextLog

namespace Time

/-! ### Years -/

/-- The days of a year. -/
def yearLength (year : Nat) : Nat :=
  if isLeap year then 366 else 365

theorem isLeap_iff (year : Nat) :
    isLeap year = true ↔ year % 4 = 0 ∧ (year % 100 ≠ 0 ∨ year % 400 = 0) := by
  rw [isLeap, Bool.and_eq_true, Bool.or_eq_true, beq_iff_eq, bne_iff_ne, beq_iff_eq]

/-- The days before a year, by its positions in the cycles of 400, 100 and 4 years. -/
theorem daysBeforeYear_cycles (q : Nat) {c f y : Nat} (hc : c ≤ 3) (hf : f ≤ 24) (hy : y ≤ 3) :
    daysBeforeYear (400 * q + 100 * c + 4 * f + y + 1) =
      146097 * q + 36524 * c + 1461 * f + 365 * y := by
  have h4 : (400 * q + 100 * c + 4 * f + y) / 4 = 100 * q + 25 * c + f := by omega
  have h100 : (400 * q + 100 * c + 4 * f + y) / 100 = 4 * q + c := by omega
  have h400 : (400 * q + 100 * c + 4 * f + y) / 400 = q := by omega
  simp only [daysBeforeYear, Nat.add_sub_cancel, h4, h100, h400]
  omega

/-- A leap year is the last of four, but not of a century, unless of the last one. -/
theorem isLeap_cycles (q : Nat) {c f y : Nat} (hc : c ≤ 3) (hf : f ≤ 24) (hy : y ≤ 3) :
    isLeap (400 * q + 100 * c + 4 * f + y + 1) = true ↔ y = 3 ∧ (f ≠ 24 ∨ c = 3) := by
  have h4 : (400 * q + 100 * c + 4 * f + y + 1) % 4 = (y + 1) % 4 := by omega
  have h100 : (400 * q + 100 * c + 4 * f + y + 1) % 100 = (4 * f + y + 1) % 100 := by omega
  have h400 : (400 * q + 100 * c + 4 * f + y + 1) % 400 = (100 * c + 4 * f + y + 1) % 400 := by
    omega
  rw [isLeap_iff, h4, h100, h400]
  omega

theorem yearLength_cycles (q : Nat) {c f y : Nat} (hc : c ≤ 3) (hf : f ≤ 24) (hy : y ≤ 3) :
    yearLength (400 * q + 100 * c + 4 * f + y + 1) =
      if y = 3 ∧ (f ≠ 24 ∨ c = 3) then 366 else 365 := by
  rw [yearLength]
  exact if_congr (isLeap_cycles q hc hf hy) rfl rfl

theorem exists_cycles_of_year {year : Nat} (h : 1 ≤ year) :
    ∃ q c f y, c ≤ 3 ∧ f ≤ 24 ∧ y ≤ 3 ∧ year = 400 * q + 100 * c + 4 * f + y + 1 :=
  ⟨(year - 1) / 400, (year - 1) % 400 / 100, (year - 1) % 100 / 4, (year - 1) % 4,
    by omega, by omega, by omega, by omega⟩

/-- A year begins where the last one ends. -/
theorem daysBeforeYear_succ {year : Nat} (h : 1 ≤ year) :
    daysBeforeYear (year + 1) = daysBeforeYear year + yearLength year := by
  rcases exists_cycles_of_year h with ⟨q, c, f, y, hc, hf, hy, hyear⟩
  rcases exists_cycles_of_year (Nat.le_add_left 1 year) with
    ⟨q', c', f', y', hc', hf', hy', hnext⟩
  -- At most one cycle goes on and the smaller ones start over, which depends on whether
  -- the year is a leap year.
  rw [hnext, daysBeforeYear_cycles q' hc' hf' hy', hyear, daysBeforeYear_cycles q hc hf hy,
    yearLength_cycles q hc hf hy]
  by_cases hleap : y = 3 ∧ (f ≠ 24 ∨ c = 3)
  · rw [if_pos hleap]
    omega
  · rw [if_neg hleap]
    omega

/-- A year has ended when a later one begins. -/
theorem daysBeforeYear_add_le {year later : Nat} (hyear : 1 ≤ year) (h : year < later) :
    daysBeforeYear year + yearLength year ≤ daysBeforeYear later := by
  induction h with
  | refl => exact Nat.le_of_eq (daysBeforeYear_succ hyear).symm
  | step hlater ih =>
      rw [daysBeforeYear_succ (Nat.le_trans (Nat.le_add_left 1 year) hlater)]
      exact Nat.le_trans ih (Nat.le_add_right _ _)

/-- A day by its positions in the cycles, which is where the search for its year ends. -/
theorem exists_cycles_of_day (n : Nat) :
    ∃ q c f y d, c ≤ 3 ∧ f ≤ 24 ∧ y ≤ 3 ∧ n = 146097 * q + 36524 * c + 1461 * f + 365 * y + d ∧
      (d < 365 ∨ d = 365 ∧ y = 3 ∧ (f ≠ 24 ∨ c = 3)) ∧
      yearOfDay n = (400 * q + 100 * c + 4 * f + y + 1, d) := by
  have hcycle := Nat.mod_lt n (show 0 < 146097 by decide)
  have hday := Nat.div_add_mod n 146097
  -- The last century has a day more than the others, and so has the last of four years.
  rcases show ∃ c, min (n % 146097 / 36524) 3 = c from ⟨_, rfl⟩ with ⟨c, hc⟩
  rcases show ∃ y, min ((n % 146097 - c * 36524) % 1461 / 365) 3 = y from ⟨_, rfl⟩ with ⟨y, hy⟩
  refine ⟨n / 146097, c, (n % 146097 - c * 36524) / 1461, y,
    (n % 146097 - c * 36524) % 1461 - 365 * y, by omega, by omega, by omega, by omega, by omega, ?_⟩
  simp only [yearOfDay, hc, hy]

theorem one_le_yearOfDay (n : Nat) : 1 ≤ (yearOfDay n).1 := by
  rw [yearOfDay]
  exact Nat.le_add_left 1 _

/-- The year of a day begins as many days before it as have passed. -/
theorem daysBeforeYear_yearOfDay (n : Nat) :
    daysBeforeYear (yearOfDay n).1 + (yearOfDay n).2 = n := by
  rcases exists_cycles_of_day n with ⟨q, c, f, y, d, hc, hf, hy, hn, _, hyear⟩
  rw [hyear, daysBeforeYear_cycles q hc hf hy, hn]

/-- Fewer days of the year have passed than it has. -/
theorem yearOfDay_lt (n : Nat) : (yearOfDay n).2 < yearLength (yearOfDay n).1 := by
  rcases exists_cycles_of_day n with ⟨q, c, f, y, d, hc, hf, hy, _, hd, hyear⟩
  rw [hyear, yearLength_cycles q hc hf hy]
  by_cases hleap : y = 3 ∧ (f ≠ 24 ∨ c = 3)
  · rw [if_pos hleap]
    omega
  · rw [if_neg hleap]
    omega

/-- The days of the calendar lie in years of at most four digits. -/
theorem yearOfDay_le {n : Nat} (h : n < calendarDays) : (yearOfDay n).1 ≤ 9999 := by
  by_contra hyear
  have hlater := daysBeforeYear_add_le (show 1 ≤ 9999 by decide) (Nat.not_le.mp hyear)
  have hbefore := daysBeforeYear_yearOfDay n
  have hlast : daysBeforeYear 9999 + yearLength 9999 = calendarDays := by decide
  omega

/-! ### Months -/

/-- The days of a month. -/
def monthLength (leap : Bool) (month : Nat) : Nat :=
  (monthLengths leap)[month - 1]?.getD 0

theorem daysBeforeMonth_eq (leap : Bool) (month : Nat) :
    daysBeforeMonth leap month = ((monthLengths leap).take (month - 1)).sum :=
  List.sum_eq_foldl.symm

/-- A month has ended when a later one begins. The thirteenth stands for the end of the
    year. -/
theorem daysBeforeMonth_add_le : ∀ leap, ∀ later < 14, ∀ month < later, 0 < month →
    daysBeforeMonth leap month + monthLength leap month ≤ daysBeforeMonth leap later := by
  decide

theorem sum_monthLengths (year : Nat) : (monthLengths (isLeap year)).sum = yearLength year := by
  rw [yearLength]
  cases isLeap year <;> rfl

/-- The month of a day is one of the months to come, and fewer days of it have passed than
    it has. -/
theorem monthOfDay_lt (lengths : List Nat) {d : Nat} (h : d < lengths.sum) :
    (monthOfDay lengths d).1 < lengths.length ∧
      (monthOfDay lengths d).2 < lengths[(monthOfDay lengths d).1]?.getD 0 := by
  induction lengths generalizing d with
  | nil => exact absurd h (Nat.not_lt_zero d)
  | cons len rest ih =>
      rw [List.sum_cons] at h
      rw [monthOfDay]
      by_cases hd : d < len
      · rw [if_pos hd]
        exact ⟨Nat.succ_pos _, hd⟩
      · rw [if_neg hd]
        rcases ih (show d - len < rest.sum by omega) with ⟨hmonth, hday⟩
        refine ⟨Nat.succ_lt_succ hmonth, ?_⟩
        dsimp only
        rw [List.getElem?_cons_succ]
        exact hday

/-- The months passed and the days of the current one are the days there were. -/
theorem sum_take_monthOfDay (lengths : List Nat) (d : Nat) :
    (lengths.take (monthOfDay lengths d).1).sum + (monthOfDay lengths d).2 = d := by
  induction lengths generalizing d with
  | nil => exact Nat.zero_add d
  | cons len rest ih =>
      rw [monthOfDay]
      by_cases hd : d < len
      · rw [if_pos hd]
        exact Nat.zero_add d
      · rw [if_neg hd]
        dsimp only
        rw [List.take_succ_cons, List.sum_cons, Nat.add_assoc, ih]
        omega

/-! ### Dates -/

namespace DateTime

/-- A date of the calendar with a time of day that clocks show. -/
structure IsValid (d : DateTime) : Prop where
  year : 1 ≤ d.year ∧ d.year ≤ 9999
  month : 1 ≤ d.month ∧ d.month ≤ 12
  day : 1 ≤ d.day ∧ d.day ≤ monthLength (isLeap d.year) d.month
  hour : d.hour < 24
  minute : d.minute < 60
  second : d.second < 60
  micro : d.micro < 1000000

instance (d : DateTime) : Decidable d.IsValid :=
  decidable_of_iff
    ((1 ≤ d.year ∧ d.year ≤ 9999) ∧ (1 ≤ d.month ∧ d.month ≤ 12) ∧
      (1 ≤ d.day ∧ d.day ≤ monthLength (isLeap d.year) d.month) ∧
        d.hour < 24 ∧ d.minute < 60 ∧ d.second < 60 ∧ d.micro < 1000000)
    ⟨fun ⟨h₁, h₂, h₃, h₄, h₅, h₆, h₇⟩ => ⟨h₁, h₂, h₃, h₄, h₅, h₆, h₇⟩,
      fun ⟨h₁, h₂, h₃, h₄, h₅, h₆, h₇⟩ => ⟨h₁, h₂, h₃, h₄, h₅, h₆, h₇⟩⟩

/-- The parts of the date of a number. -/
theorem ofMicros_eq (n : Nat) :
    let year := yearOfDay (n / microsPerDay)
    let month := monthOfDay (monthLengths (isLeap year.1)) year.2
    let seconds := n % microsPerDay / 1000000
    ofMicros n = ⟨year.1, month.1 + 1, month.2 + 1, seconds / 3600, seconds / 60 % 60, seconds % 60,
      n % microsPerDay % 1000000⟩ := by
  unfold ofMicros
  generalize n / microsPerDay = day
  generalize n % microsPerDay = inDay
  rcases hyear : yearOfDay day with ⟨year, inYear⟩
  rcases hmonth : monthOfDay (monthLengths (isLeap year)) inYear with ⟨month, inMonth⟩
  simp only [hmonth]

/-- The day of the date of a number. -/
theorem dayOrdinal_ofMicros (n : Nat) : (ofMicros n).dayOrdinal = n / microsPerDay := by
  rw [ofMicros_eq]
  generalize n / microsPerDay = day
  simp only [dayOrdinal, dayNumber, daysBeforeMonth_eq, Nat.add_sub_cancel]
  rw [Nat.add_assoc, sum_take_monthOfDay, daysBeforeYear_yearOfDay]

theorem seconds_of_clock (s : Nat) : s / 3600 * 3600 + s / 60 % 60 * 60 + s % 60 = s := by
  omega

/-- The number of the date of a number. -/
theorem toMicros_ofMicros (n : Nat) : (ofMicros n).toMicros = n := by
  have hday := Nat.div_add_mod n microsPerDay
  have hmicros := Nat.div_add_mod (n % microsPerDay) 1000000
  rw [toMicros, dayOrdinal_ofMicros, ofMicros_eq]
  dsimp only
  rw [seconds_of_clock, Nat.add_assoc, Nat.mul_comm _ 1000000, hmicros, Nat.mul_comm, hday]

/-- The dates of the calendar are valid. -/
theorem isValid_ofMicros {n : Nat} (h : n < calendarMicros) : (ofMicros n).IsValid := by
  have hday : n / microsPerDay < calendarDays := Nat.div_lt_of_lt_mul (Nat.mul_comm _ _ ▸ h)
  have htime := Nat.mod_lt n (show 0 < microsPerDay by decide)
  have hlength := yearOfDay_lt (n / microsPerDay)
  rw [← sum_monthLengths] at hlength
  rcases monthOfDay_lt _ hlength with ⟨hmonth, hdays⟩
  have htwelve : (monthLengths (isLeap (yearOfDay (n / microsPerDay)).1)).length = 12 := rfl
  rw [ofMicros_eq]
  exact {
    year := ⟨one_le_yearOfDay _, yearOfDay_le hday⟩
    month := ⟨Nat.le_add_left 1 _, htwelve ▸ hmonth⟩
    day := ⟨Nat.le_add_left 1 _, hdays⟩
    hour := Nat.div_lt_of_lt_mul (Nat.div_lt_of_lt_mul htime)
    minute := Nat.mod_lt _ (by decide)
    second := Nat.mod_lt _ (by decide)
    micro := Nat.mod_lt _ (by decide) }

end DateTime

end Time

end TextLog
