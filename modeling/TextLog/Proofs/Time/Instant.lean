import TextLog.Proofs.Time.Calendar
import TextLog.Proofs.Time.CalendarEnds

/-!
# Rendering by the Instant

Dates depend on the instant of a moment and on nothing else.

A moment is rendered by way of its instant, so that all moments of one instant give the
same text or fail alike, whatever clock they were read at. The present moment is read off
the clocks of the formatter's own zone, and reading them loses nothing, because the date
of a number leads back to the number. There is one exception. The clock of the system
cannot tell instants close to the ends of the calendar: a moment that it shows there
fails with the year that the clock would have to look at, also where another moment of
the same instant is shown.

## Main definitions

* `IsToldAt`: The clock of the system can tell an instant.

## Theorems

* `isTold_iff`: A moment is told by another clock, or at an instant that is told.
* `format_of_isTold`, `formatInstant_cases`: What becomes of an instant.
* `instant_of_momentAt`: Reading the clocks of a zone loses nothing.
* `formatNow_eq_iff`: The present moment is rendered like any other.
* `format_determined_by_instant`: Moments of one instant are rendered alike if and only if
  their clocks can tell it alike.
* `first_day_not_told`: A moment that fails where another one of its instant is shown.
-/

namespace TextLog

namespace Time

/-- The clock of the system can tell an instant: a day before what it shows then, and its
    offset ahead of it, the calendar has not yet ended. -/
def IsToldAt (instant : Int) : Prop :=
  (microsPerDay : Int) ≤ instant + homeOffset * 1000000 ∧
    instant + 2 * (homeOffset * 1000000) < calendarMicros

/-- A moment is told if it is told by another clock than that of the system, or happens at
    an instant that the clock of the system can tell. -/
theorem isTold_iff (m : Moment) : m.IsTold ↔ (m.offset = none → IsToldAt m.instant) := by
  refine forall_congr' fun hoffset => ?_
  have hinstant : m.instant = m.wall.toMicros - homeOffset * 1000000 := by
    rw [Moment.instant, hoffset, Option.getD_none]
  rw [IsToldAt, hinstant]
  omega

/-- The number of what the clocks of a zone show. -/
theorem toMicros_shownAt {z : Zone} {instant : Int}
    (h : inCalendar (z.clockAt instant) = true) :
    ((z.shownAt instant).wall.toMicros : Int) = z.clockAt instant := by
  rw [Zone.shownAt, DateTime.toMicros_ofMicros]
  exact Int.toNat_of_nonneg ((inCalendar_iff _).mp h).1

/-! ### Reading the clocks of a zone -/

/-- The clock of the system shows a moment of the instant, or would have to look at a year
    outside the calendar. -/
theorem momentAt_home_cases (instant : Int) :
    (∃ year, (year = 0 ∨ year = 10000) ∧
        Zone.home.momentAt instant = .error (.yearRange year) ∧ ¬ IsToldAt instant) ∨
      ∃ m : Moment, Zone.home.momentAt instant = .ok m ∧ m.offset = none ∧
        m.instant = instant := by
  rw [Zone.momentAt, IsToldAt]
  by_cases hahead : (calendarMicros : Int) ≤ instant + homeOffset * 1000000
  · refine Or.inl ⟨10000, Or.inr rfl, if_pos hahead, fun h => ?_⟩
    simp only [homeOffset] at h hahead
    omega
  · rw [if_neg hahead]
    by_cases hback : instant + homeOffset * 1000000 < (microsPerDay : Int)
    · exact Or.inl ⟨0, Or.inl rfl, if_pos hback, fun h => absurd h.1 (Int.not_le.mpr hback)⟩
    · refine Or.inr ⟨_, if_neg hback, rfl, ?_⟩
      rw [Moment.instant, DateTime.toMicros_ofMicros, Option.getD_none]
      simp only [microsPerDay] at hback
      omega

/-- The clocks of any other zone tell their offset. -/
theorem momentAt_of_ne_home {z : Zone} (hz : z ≠ .home) (instant : Int) :
    z.momentAt instant = (z.wallAt instant).map fun s => ⟨s.wall, some s.offset⟩ := by
  cases z with
  | home => exact absurd rfl hz
  | fixed offset name => rfl
  | named zone => rfl

/-- Reading the clocks of a zone loses nothing of the instant. -/
theorem instant_of_momentAt {z : Zone} {instant : Int} {m : Moment}
    (h : z.momentAt instant = .ok m) : m.instant = instant := by
  by_cases hz : z = .home
  · rw [hz] at h
    rcases momentAt_home_cases instant with ⟨year, _, hyear, _⟩ | ⟨m', hm', _, hinstant⟩
    · exact absurd (hyear.symm.trans h) (by simp only [reduceCtorEq, not_false_eq_true])
    · rw [← Except.ok.inj (hm'.symm.trans h), hinstant]
  · rw [momentAt_of_ne_home hz] at h
    rcases exists_of_map_eq_ok h with ⟨s, hs, rfl⟩
    rcases of_wallAt_eq_ok hs with ⟨_, hclock, rfl⟩
    rw [Moment.instant, toMicros_shownAt hclock]
    exact Int.add_sub_cancel _ _

end Time

namespace DateFormatter

open Time

/-- A moment that is told is rendered by its instant. -/
theorem format_of_isTold (f : DateFormatter) {m : Moment} (hm : m.IsTold) :
    f.format m = f.formatInstant m.instant := by
  rw [format, locate_of_isTold hm]
  rfl

/-- Any other moment fails with a year outside the calendar. -/
theorem format_of_not_isTold (f : DateFormatter) {m : Moment} (hm : ¬ m.IsTold) :
    ∃ year, (year = 0 ∨ year = 10000) ∧ f.format m = .error (.yearRange year) := by
  rcases locate_of_not_isTold hm with ⟨year, hyear, hlocate⟩
  refine ⟨year, hyear, ?_⟩
  rw [format, hlocate]
  rfl

/-- An instant gives a text, or it or its date is not in the calendar. -/
theorem formatInstant_cases {f : DateFormatter} (hpattern : f.pattern.IsOptionalText)
    (instant : Int) :
    (∃ text, f.formatInstant instant = .ok text) ∨ f.formatInstant instant = .error .dateRange := by
  rw [formatInstant]
  by_cases hcalendar : inCalendar instant = true ∧ inCalendar (f.zone.clockAt instant) = true
  · rw [wallAt_of_inCalendar hcalendar.1 hcalendar.2]
    exact Or.inl (exists_layOut hpattern _)
  · rw [wallAt_of_not_inCalendar hcalendar]
    exact Or.inr rfl

theorem formatInstant_ne_yearRange {f : DateFormatter} (hpattern : f.pattern.IsOptionalText)
    (instant year : Int) : f.formatInstant instant ≠ .error (.yearRange year) := by
  intro h
  rcases formatInstant_cases hpattern instant with ⟨text, htext⟩ | hrange
  · exact absurd (htext.symm.trans h) (by simp only [reduceCtorEq, not_false_eq_true])
  · exact absurd (hrange.symm.trans h)
      (by simp only [Except.error.injEq, reduceCtorEq, not_false_eq_true])

/-- A moment that is told is never rendered like one that is not. -/
theorem format_ne_of_not_isTold {f : DateFormatter} (hpattern : f.pattern.IsOptionalText)
    {m n : Moment} (hm : m.IsTold) (hn : ¬ n.IsTold) : f.format m ≠ f.format n := by
  rcases format_of_not_isTold f hn with ⟨year, _, hyear⟩
  rw [format_of_isTold f hm, hyear]
  exact formatInstant_ne_yearRange hpattern _ year

/-- Moments of one instant are rendered alike if and only if their clocks can both tell it
    or neither can. -/
theorem format_eq_iff {f : DateFormatter} (hpattern : f.pattern.IsOptionalText) {m n : Moment}
    (h : m.instant = n.instant) : f.format m = f.format n ↔ (m.IsTold ↔ n.IsTold) := by
  by_cases hm : m.IsTold
  · by_cases hn : n.IsTold
    · rw [format_of_isTold f hm, format_of_isTold f hn, h]
      exact ⟨fun _ => ⟨fun _ => hn, fun _ => hm⟩, fun _ => rfl⟩
    · exact ⟨fun heq => absurd heq (format_ne_of_not_isTold hpattern hm hn),
        fun hiff => absurd (hiff.mp hm) hn⟩
  · by_cases hn : n.IsTold
    · exact ⟨fun heq => absurd heq.symm (format_ne_of_not_isTold hpattern hn hm),
        fun hiff => absurd (hiff.mpr hn) hm⟩
    · refine ⟨fun _ => ⟨fun hm' => absurd hm' hm, fun hn' => absurd hn' hn⟩, fun _ => ?_⟩
      -- Both are told by the clock of the system, which shows the same then.
      have hmoffset := (Classical.not_imp.mp hm).1
      have hnoffset := (Classical.not_imp.mp hn).1
      have hwall : (m.wall.toMicros : Int) = n.wall.toMicros := by
        rw [Moment.instant, Moment.instant, hmoffset, hnoffset] at h
        omega
      rw [format, format, Moment.locate, Moment.locate, hmoffset, hnoffset, hwall, h]

/-! ### The present moment -/

theorem formatNow_of_isTold (f : DateFormatter) {now : Moment} (hnow : now.IsTold) :
    f.formatNow now = (f.zone.momentAt now.instant).bind f.format := by
  rw [formatNow, locate_of_isTold hnow]
  rfl

/-- The present moment is rendered by its instant, where the clocks of the formatter's zone
    can tell it. -/
theorem formatNow_of_told (f : DateFormatter) {now : Moment} (hnow : now.IsTold)
    (hzone : f.zone = .home → IsToldAt now.instant) : f.formatNow now = f.format now := by
  rw [formatNow_of_isTold f hnow, format_of_isTold f hnow]
  have hread : ∀ m, f.zone.momentAt now.instant = .ok m → m.IsTold →
      (f.zone.momentAt now.instant).bind f.format = f.formatInstant now.instant := by
    intro m hm htold
    rw [hm, Except.bind, format_of_isTold f htold, instant_of_momentAt hm]
  by_cases hz : f.zone = .home
  · rcases momentAt_home_cases now.instant with ⟨_, _, _, htold⟩ | ⟨m, hm, _, hinstant⟩
    · exact absurd (hzone hz) htold
    · rw [← hz] at hm
      refine hread m hm ((isTold_iff m).mpr fun _ => ?_)
      rw [hinstant]
      exact hzone hz
  · rw [momentAt_of_ne_home hz] at hread ⊢
    cases hwall : f.zone.wallAt now.instant with
    | error failure =>
        rw [formatInstant, hwall]
        rfl
    | ok s =>
        rw [hwall] at hread
        exact hread _ rfl fun h => absurd h (Option.some_ne_none _)

/-- Where the clock of the system cannot tell the instant, the present moment fails with a
    year outside the calendar. -/
theorem formatNow_of_not_told (f : DateFormatter) {now : Moment} (hnow : now.IsTold)
    (hzone : f.zone = .home) (htold : ¬ IsToldAt now.instant) :
    ∃ year, (year = 0 ∨ year = 10000) ∧ f.formatNow now = .error (.yearRange year) := by
  rw [formatNow_of_isTold f hnow, hzone]
  rcases momentAt_home_cases now.instant with ⟨year, hyear, hm, _⟩ | ⟨m, hm, hoffset, hinstant⟩
  · refine ⟨year, hyear, ?_⟩
    rw [hm]
    rfl
  · rw [hm]
    exact format_of_not_isTold f fun h => htold (hinstant ▸ (isTold_iff m).mp h hoffset)

/-- The present moment is rendered like any other moment of its instant, unless it is read
    off the clock of the system and this cannot tell it. -/
theorem formatNow_eq_iff {f : DateFormatter} (hpattern : f.pattern.IsOptionalText)
    (now : Moment) :
    f.formatNow now = f.format now ↔ (now.IsTold → f.zone = .home → IsToldAt now.instant) := by
  by_cases hnow : now.IsTold
  · refine ⟨fun heq _ hzone => ?_, fun h => formatNow_of_told f hnow (h hnow)⟩
    by_contra htold
    rcases formatNow_of_not_told f hnow hzone htold with ⟨year, _, hyear⟩
    rw [hyear, format_of_isTold f hnow] at heq
    exact formatInstant_ne_yearRange hpattern _ year heq.symm
  · rcases locate_of_not_isTold hnow with ⟨year, _, hlocate⟩
    refine ⟨fun _ h => absurd h hnow, fun _ => ?_⟩
    rw [formatNow, format, hlocate]
    rfl

/-- Moments of one instant are rendered alike if and only if their clocks can both tell it
    or neither can, whatever the pattern, the zone and their offsets are. What can be told
    gives a text or has no date in the calendar, and what cannot be told fails with a year
    outside of it. The present moment is rendered like any other of its instant, unless the
    clock of the system has to tell it and cannot. -/
theorem format_determined_by_instant (f : DateFormatter) (hpattern : f.pattern.IsOptionalText) :
    (∀ m n : Moment, m.instant = n.instant →
        (f.format m = f.format n ↔ (m.IsTold ↔ n.IsTold))) ∧
      (∀ m : Moment, m.IsTold →
        (∃ text, f.format m = .ok text) ∨ f.format m = .error .dateRange) ∧
      (∀ m : Moment, ¬ m.IsTold →
        ∃ year, (year = 0 ∨ year = 10000) ∧ f.format m = .error (.yearRange year)) ∧
      ∀ now : Moment, f.formatNow now = f.format now ↔
        (now.IsTold → f.zone = .home → IsToldAt now.instant) := by
  refine ⟨fun m n => format_eq_iff hpattern, fun m hm => ?_, fun m => format_of_not_isTold f,
    formatNow_eq_iff hpattern⟩
  rw [format_of_isTold f hm]
  exact formatInstant_cases hpattern m.instant

/-- A quarter past two in the afternoon by the clock of the system is half past eight in
    universal time, and both are shown in New York, also as the present moment. -/
theorem format_determined_by_instant_afternoon :
    ∃ (f : DateFormatter) (m n : Moment),
      DateFormatter.make (.text "%d/%m/%Y %H:%M %Z") (.name "America/New_York") = .ok f ∧
      m = ⟨⟨2026, 10, 19, 14, 15, 15, 123456⟩, none⟩ ∧
      n = ⟨⟨2026, 10, 19, 8, 30, 15, 123456⟩, some 0⟩ ∧
      f.pattern.IsOptionalText ∧ m.instant = n.instant ∧ m.IsTold ∧ n.IsTold ∧
      f.format m = .ok "19/10/2026 04:30 EDT" ∧ f.format n = .ok "19/10/2026 04:30 EDT" ∧
      f.formatNow n = .ok "19/10/2026 04:30 EDT" := by
  rcases show ∃ (f : DateFormatter) (m n : Moment),
      DateFormatter.make (.text "%d/%m/%Y %H:%M %Z") (.name "America/New_York") = .ok f ∧
      m = ⟨⟨2026, 10, 19, 14, 15, 15, 123456⟩, none⟩ ∧
      n = ⟨⟨2026, 10, 19, 8, 30, 15, 123456⟩, some 0⟩ ∧ f.pattern.IsOptionalText ∧
      f.zone ≠ .home ∧ f.format n = .ok "19/10/2026 04:30 EDT" from
    ⟨_, _, _, rfl, rfl, rfl, trivial, Zone.noConfusion, rfl⟩ with
    ⟨f, m, n, hf, hm, hn, hpattern, hzone, htext⟩
  have hinstant : m.instant = n.instant := by
    rw [hm, hn]
    decide
  have hmtold : m.IsTold := by
    rw [hm]
    exact fun _ => by decide
  have hntold : n.IsTold := by
    rw [hn]
    exact fun h => absurd h (Option.some_ne_none _)
  rcases format_determined_by_instant f hpattern with ⟨halike, _, _, hnow⟩
  refine ⟨f, m, n, hf, hm, hn, hpattern, hinstant, hmtold, hntold, ?_, htext, ?_⟩
  · exact ((halike m n hinstant).mpr ⟨fun _ => hntold, fun _ => hmtold⟩).trans htext
  · exact ((hnow n).mpr fun _ h => absurd h hzone).trans htext

/-- The last second of the first day of the calendar is not told by the clock of the system,
    so that it fails where the same date with its offset is shown. -/
theorem first_day_not_told :
    ∃ (f : DateFormatter) (m n : Moment),
      DateFormatter.make .null .home = .ok f ∧
      m = ⟨⟨1, 1, 1, 23, 59, 59, 0⟩, none⟩ ∧ n = ⟨⟨1, 1, 1, 23, 59, 59, 0⟩, some homeOffset⟩ ∧
      m.instant = n.instant ∧ f.format n = .ok "0001-01-01T23:59:59.000+05:45" ∧
      f.format m = .error (.yearRange 0) :=
  ⟨_, _, _, rfl, rfl, rfl, rfl, rfl, rfl⟩

end DateFormatter

end TextLog
