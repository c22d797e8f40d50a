import TextLog.Proofs.Time.International
import Mathlib.Data.String.Basic

/-!
# Dates That Sort

In a zone that keeps its offset, dates in the international form sort like their instants.

Every part of the form is a column of its own, filled up with zeros, and the greater parts
come first. So texts compare like the lists of their parts, and these compare like the
numbers of the dates: a month has ended when the next one begins, and so have a year, a
day and an hour. Where the clocks never change, the number of what they show is the
instant moved by the same whole number of seconds, and what remains is the cut to the
millisecond.

## Main definitions

* `Zone.IsSteady`: A zone that keeps its offset.

## Theorems

* `dayOrdinal_lt_of_year_lt`, `dayOrdinal_lt_of_month_lt`, `dayOrdinal_lt_of_day_lt`: Later
  dates have greater numbers.
* `columns_lt_iff`: Valid dates compare like their numbers, cut to the millisecond.
* `isoText_lt_iff`: Texts with one offset compare like what stands in them.
* `isSteady_of_no_saving`: The zones that keep their offset.
* `isoText_sorts`: Dates in a steady zone sort like their instants.
-/

namespace TextLog

namespace Time

/-! ### Later dates -/

/-- A valid date lies in its year. -/
theorem dayOrdinal_lt_next_year {d : DateTime} (hd : d.IsValid) :
    d.dayOrdinal < daysBeforeYear d.year + yearLength d.year := by
  have hmonth := daysBeforeMonth_add_le (isLeap d.year) 13 (by decide) d.month
    (Nat.lt_succ_of_le hd.month.2) hd.month.1
  have hend : daysBeforeMonth (isLeap d.year) 13 = yearLength d.year := by
    rw [daysBeforeMonth_eq, ← sum_monthLengths]
    rfl
  have hday := hd.day
  rw [DateTime.dayOrdinal, dayNumber]
  omega

theorem dayOrdinal_lt_of_year_lt {d e : DateTime} (hd : d.IsValid) (h : d.year < e.year) :
    d.dayOrdinal < e.dayOrdinal := by
  have hyears := daysBeforeYear_add_le hd.year.1 h
  have hlast := dayOrdinal_lt_next_year hd
  have hfirst : daysBeforeYear e.year ≤ e.dayOrdinal :=
    Nat.le_trans (Nat.le_add_right _ _) (Nat.le_add_right _ _)
  omega

theorem dayOrdinal_lt_of_month_lt {d e : DateTime} (hd : d.IsValid) (he : e.IsValid)
    (hyear : d.year = e.year) (h : d.month < e.month) : d.dayOrdinal < e.dayOrdinal := by
  have hmonths := daysBeforeMonth_add_le (isLeap e.year) e.month
    (Nat.lt_of_le_of_lt he.month.2 (by decide)) d.month h hd.month.1
  have hday := hd.day
  rw [hyear] at hday
  rw [DateTime.dayOrdinal, DateTime.dayOrdinal, dayNumber, dayNumber, hyear]
  omega

theorem dayOrdinal_lt_of_day_lt {d e : DateTime} (hd : d.IsValid) (hyear : d.year = e.year)
    (hmonth : d.month = e.month) (h : d.day < e.day) : d.dayOrdinal < e.dayOrdinal := by
  have hday := hd.day
  rw [DateTime.dayOrdinal, DateTime.dayOrdinal, dayNumber, dayNumber, hyear, hmonth]
  omega

/-- The time of day of a valid date is less than a day. -/
theorem toMicros_lt_next_day {d : DateTime} (hd : d.IsValid) :
    d.dayOrdinal * microsPerDay ≤ d.toMicros ∧
      d.toMicros < (d.dayOrdinal + 1) * microsPerDay := by
  have hhour := hd.hour
  have hminute := hd.minute
  have hsecond := hd.second
  have hmicro := hd.micro
  rw [DateTime.toMicros]
  simp only [microsPerDay]
  exact ⟨by omega, by omega⟩

theorem toMicros_lt_of_dayOrdinal_lt {d e : DateTime} (hd : d.IsValid) (he : e.IsValid)
    (h : d.dayOrdinal < e.dayOrdinal) : d.toMicros / 1000 < e.toMicros / 1000 := by
  have hlast := (toMicros_lt_next_day hd).2
  have hfirst := (toMicros_lt_next_day he).1
  simp only [microsPerDay] at hlast hfirst
  omega

/-- What comes later in its columns has the greater number. -/
theorem toMicros_lt_of_columns_lt {d e : DateTime} (hd : d.IsValid) (he : e.IsValid)
    (h : d.columns < e.columns) : d.toMicros / 1000 < e.toMicros / 1000 := by
  have hminute := hd.minute
  have hsecond := hd.second
  have hmicro := hd.micro
  simp only [DateTime.columns, List.cons_lt_cons_iff, List.not_lt_nil, and_false, or_false] at h
  rcases h with hyear | ⟨hyear, hmonth | ⟨hmonth, hday | ⟨hday, htime⟩⟩⟩
  · exact toMicros_lt_of_dayOrdinal_lt hd he (dayOrdinal_lt_of_year_lt hd hyear)
  · exact toMicros_lt_of_dayOrdinal_lt hd he (dayOrdinal_lt_of_month_lt hd he hyear hmonth)
  · exact toMicros_lt_of_dayOrdinal_lt hd he (dayOrdinal_lt_of_day_lt hd hyear hmonth hday)
  · have hordinal : d.dayOrdinal = e.dayOrdinal := by
      rw [DateTime.dayOrdinal, DateTime.dayOrdinal, hyear, hmonth, hday]
    rw [DateTime.toMicros, DateTime.toMicros, hordinal]
    simp only [microsPerDay]
    omega

theorem toMicros_eq_of_columns_eq {d e : DateTime} (h : d.columns = e.columns) :
    d.toMicros / 1000 = e.toMicros / 1000 := by
  simp only [DateTime.columns, List.cons.injEq, and_true] at h
  rcases h with ⟨hyear, hmonth, hday, hhour, hminute, hsecond, hmilli⟩
  rw [DateTime.toMicros, DateTime.toMicros, DateTime.dayOrdinal, DateTime.dayOrdinal, hyear, hmonth,
    hday, hhour, hminute, hsecond]
  simp only [microsPerDay]
  omega

/-- Valid dates compare like their numbers, cut to the millisecond. -/
theorem columns_lt_iff {d e : DateTime} (hd : d.IsValid) (he : e.IsValid) :
    d.columns < e.columns ↔ d.toMicros / 1000 < e.toMicros / 1000 := by
  refine ⟨toMicros_lt_of_columns_lt hd he, fun h => ?_⟩
  rcases lt_trichotomy d.columns e.columns with hlt | heq | hgt
  · exact hlt
  · exact absurd (toMicros_eq_of_columns_eq heq) (Nat.ne_of_lt h)
  · exact absurd (toMicros_lt_of_columns_lt he hd hgt) (Nat.lt_asymm h)

/-! ### Texts -/

/-- Texts with one offset compare like what stands in them. -/
theorem isoText_lt_iff {s t : Shown} (hs : s.wall.IsValid) (ht : t.wall.IsValid)
    (hoffset : s.offset = t.offset) :
    isoText s < isoText t ↔ s.wall.toMicros / 1000 < t.wall.toMicros / 1000 := by
  rw [String.lt_iff_toList_lt, toList_isoText hs, toList_isoText ht, hoffset,
    Columns.write_append_lt_iff (fits_columns hs) (fits_columns ht), columns_lt_iff hs ht]
  simp only [List.lt_irrefl, and_false, or_false]

/-- A zone that keeps its offset. -/
def Zone.IsSteady (z : Zone) : Prop :=
  ∀ seconds seconds', z.offsetAt seconds = z.offsetAt seconds'

/-- The zone of the system, fixed offsets and the named zones that save no daylight keep
    their offset. -/
theorem isSteady_of_no_saving {z : Zone} (h : ∀ zone, z = .named zone → zone.saving = none) :
    z.IsSteady := by
  intro seconds seconds'
  cases z with
  | home => rfl
  | fixed offset name => rfl
  | named zone =>
      simp only [Zone.offsetAt, NamedZone.offsetAt, NamedZone.savingAt, h zone rfl,
        Option.filter_none]

/-- What is shown in a steady zone sorts like the instants, cut to the millisecond. -/
theorem isoText_shownAt_lt_iff {z : Zone} (hz : z.IsSteady) {instant instant' : Int}
    (h : inCalendar (z.clockAt instant) = true) (h' : inCalendar (z.clockAt instant') = true) :
    isoText (z.shownAt instant) < isoText (z.shownAt instant') ↔
      instant / 1000 < instant' / 1000 := by
  have hmicros := toMicros_shownAt h
  have hmicros' := toMicros_shownAt h'
  rw [isoText_lt_iff (isValid_shownAt h) (isValid_shownAt h') (hz _ _)]
  rw [Zone.clockAt, hz _ 0] at hmicros hmicros'
  omega

end Time

namespace DateFormatter

open Time

/-- Dates in the international form sort chronologically in a zone that keeps its offset,
    as the zone of the system, fixed offsets and the named zones that save no daylight do:
    a text is less than another one if and only if its instant, cut to the millisecond, is
    earlier, and the texts are equal if and only if these are. -/
theorem isoText_sorts :
    (∀ z : Zone, (∀ zone, z = .named zone → zone.saving = none) → z.IsSteady) ∧
      ∀ (z : Zone) (m m' : Moment) (text text' : String), z.IsSteady →
        (DateFormatter.mk .null z).format m = .ok text →
        (DateFormatter.mk .null z).format m' = .ok text' →
        (text < text' ↔ m.instant / 1000 < m'.instant / 1000) ∧
          (text = text' ↔ m.instant / 1000 = m'.instant / 1000) := by
  refine ⟨fun z => isSteady_of_no_saving, fun z m m' text text' hz htext htext' => ?_⟩
  rcases of_format_null htext with ⟨_, hclock, rfl⟩
  rcases of_format_null htext' with ⟨_, hclock', rfl⟩
  have hless := isoText_shownAt_lt_iff hz hclock hclock'
  have hgreater := isoText_shownAt_lt_iff hz hclock' hclock
  refine ⟨hless, fun heq => ?_, fun heq => ?_⟩
  · -- Neither text is less than the other, so neither instant is earlier.
    rw [heq] at hless hgreater
    have hnot := mt hless.mpr (lt_irrefl _)
    have hnot' := mt hgreater.mpr (lt_irrefl _)
    omega
  · have hnot := mt hless.mp (by omega)
    have hnot' := mt hgreater.mp (by omega)
    exact le_antisymm (not_lt.mp hnot') (not_lt.mp hnot)

/-- In Kathmandu the last millisecond of the year 999 sorts before the first one of the
    year 1000. -/
theorem isoText_sorts_last_millisecond :
    ∃ (z : Zone) (m n : Moment),
      ZoneSetting.resolve (.name "Asia/Kathmandu") = .ok z ∧
      (∀ zone, z = .named zone → zone.saving = none) ∧ z.IsSteady ∧
      m = ⟨⟨999, 12, 31, 18, 14, 59, 999999⟩, some 0⟩ ∧
      n = ⟨⟨1000, 1, 1, 0, 0, 0, 0⟩, none⟩ ∧
      (DateFormatter.mk .null z).format m = .ok "0999-12-31T23:59:59.999+05:45" ∧
      (DateFormatter.mk .null z).format n = .ok "1000-01-01T00:00:00.000+05:45" ∧
      ("0999-12-31T23:59:59.999+05:45" < "1000-01-01T00:00:00.000+05:45" ↔
        m.instant / 1000 < n.instant / 1000) := by
  rcases show ∃ (z : Zone) (m n : Moment), ZoneSetting.resolve (.name "Asia/Kathmandu") = .ok z ∧
      (∀ zone, z = .named zone → zone.saving = none) ∧
      m = ⟨⟨999, 12, 31, 18, 14, 59, 999999⟩, some 0⟩ ∧
      n = ⟨⟨1000, 1, 1, 0, 0, 0, 0⟩, none⟩ ∧
      (DateFormatter.mk .null z).format m = .ok "0999-12-31T23:59:59.999+05:45" ∧
      (DateFormatter.mk .null z).format n = .ok "1000-01-01T00:00:00.000+05:45" from
    ⟨_, _, _, rfl, fun _ h => Zone.named.inj h ▸ rfl, rfl, rfl, rfl, rfl⟩ with
    ⟨z, m, n, hz, hsaving, hm, hn, hmtext, hntext⟩
  have hsteady := isoText_sorts.1 z hsaving
  exact ⟨z, m, n, hz, hsaving, hsteady, hm, hn, hmtext, hntext,
    (isoText_sorts.2 z m n _ _ hsteady hmtext hntext).1⟩

end DateFormatter

end TextLog
