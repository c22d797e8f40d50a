import TextLog.Proofs.Time.ZoneName

/-!
# The Ends of the Calendar

Which moments can be shown in a zone, and what happens to the others.

A date is rendered by way of the instant that a moment denotes. The instant has to
lie in the calendar, and so does the date that the clocks of the zone show at it.
The clock of the system asks for more: it looks ahead by its offset and back by a
day. `Zone.Shows` says all of this about a moment and a zone, and rendering
succeeds exactly then, whatever the pattern.

The clocks of a zone are off by less than a day. So every zone that can be
configured shows every moment but those of the first and the last two days.

## Main definitions

* `Moment.IsTold`: A moment that the clock of the system can tell.
* `Zone.clockAt`: What the clocks of a zone show at an instant.
* `Zone.Shows`: A moment that can be shown in a zone.
* `Zone.shownAt`: What is shown in a zone at an instant.
* `Failure.IsOfDate`: The failures at the ends of the calendar.

## Theorems

* `locate_of_isTold`, `locate_of_not_isTold`: Which instants are known.
* `wallAt_of_shows`, `wallAt_of_not_inCalendar`, `of_wallAt_eq_ok`: Which dates there are.
* `exists_format_of_shows`, `format_of_not_shows`: Which moments are rendered.
* `natAbs_offsetAt_of_resolve`: The clocks of a zone are off by less than a day.
* `shows_of_isInside`: Moments away from the ends are shown everywhere.
-/

namespace TextLog

open Time

/-- The failures at the ends of the calendar: a date that is not in it, and a year
    that the clock of the system would have to look at. -/
def Failure.IsOfDate : Failure → Prop
  | .dateRange => True
  | .yearRange _ => True
  | _ => False

namespace Time

/-- The clock of the system can tell a moment that it shows: neither a look ahead by
    its offset nor a look back by a day leaves the calendar. -/
def Moment.IsTold (m : Moment) : Prop :=
  m.offset = none →
    (microsPerDay : Int) ≤ m.wall.toMicros ∧
      (m.wall.toMicros : Int) + homeOffset * 1000000 < calendarMicros

/-- What the clocks of a zone show at an instant, in microseconds from the beginning
    of the calendar. -/
def Zone.clockAt (z : Zone) (instant : Int) : Int :=
  instant + z.offsetAt (instant.toNat / 1000000) * 1000000

/-- A moment can be shown in a zone: its clock can tell it, and both its instant and
    what the clocks of the zone show then lie in the calendar. -/
structure Zone.Shows (z : Zone) (m : Moment) : Prop where
  told : m.IsTold
  instant : 0 ≤ m.instant ∧ m.instant < calendarMicros
  clock : 0 ≤ z.clockAt m.instant ∧ z.clockAt m.instant < calendarMicros

/-! ### Instants -/

theorem inCalendar_iff (instant : Int) :
    inCalendar instant = true ↔ 0 ≤ instant ∧ instant < calendarMicros := by
  rw [inCalendar, Bool.and_eq_true, decide_eq_true_eq, decide_eq_true_eq]

theorem locate_of_isTold {m : Moment} (hm : m.IsTold) : m.locate = .ok m.instant := by
  rcases m with ⟨wall, offset⟩
  cases offset with
  | some offset => rfl
  | none =>
      rcases hm rfl with ⟨hlow, hhigh⟩
      rw [Moment.locate]
      dsimp only at hlow hhigh ⊢
      rw [if_neg (Int.not_le.mpr hhigh), if_neg (Int.not_lt.mpr hlow)]

/-- Where the clock of the system cannot tell, it would have to look at the year before
    the calendar or the one behind it. -/
theorem locate_of_not_isTold {m : Moment} (hm : ¬ m.IsTold) :
    ∃ year, (year = 0 ∨ year = 10000) ∧ m.locate = .error (.yearRange year) := by
  rcases m with ⟨wall, offset⟩
  cases offset with
  | some offset => exact absurd (fun h => absurd h (Option.some_ne_none offset)) hm
  | none =>
      rw [Moment.locate]
      dsimp only
      by_cases hahead : (calendarMicros : Int) ≤ wall.toMicros + homeOffset * 1000000
      · exact ⟨10000, Or.inr rfl, if_pos hahead⟩
      · rw [if_neg hahead]
        by_cases hback : (wall.toMicros : Int) < microsPerDay
        · exact ⟨0, Or.inl rfl, if_pos hback⟩
        · exact absurd (fun _ => ⟨Int.not_lt.mp hback, Int.not_le.mp hahead⟩) hm

/-! ### Dates in a zone -/

/-- What is shown in a zone at an instant, as far as there is a date for it. -/
def Zone.shownAt (z : Zone) (instant : Int) : Shown where
  wall := DateTime.ofMicros (z.clockAt instant).toNat
  offset := z.offsetAt (instant.toNat / 1000000)
  zoneName := z.nameAt (instant.toNat / 1000000)
  saving := z.savesAt? (instant.toNat / 1000000)

theorem wallAt_of_inCalendar {z : Zone} {instant : Int} (hinstant : inCalendar instant = true)
    (hclock : inCalendar (z.clockAt instant) = true) :
    z.wallAt instant = .ok (z.shownAt instant) := by
  rw [Zone.wallAt, if_pos hinstant]
  exact if_pos hclock

theorem wallAt_of_not_inCalendar {z : Zone} {instant : Int}
    (h : ¬ (inCalendar instant = true ∧ inCalendar (z.clockAt instant) = true)) :
    z.wallAt instant = .error .dateRange := by
  rw [Zone.wallAt]
  by_cases hinstant : inCalendar instant = true
  · rw [if_pos hinstant]
    exact if_neg fun hclock => h ⟨hinstant, hclock⟩
  · rw [if_neg hinstant]

theorem wallAt_of_shows {z : Zone} {m : Moment} (h : z.Shows m) :
    z.wallAt m.instant = .ok (z.shownAt m.instant) :=
  wallAt_of_inCalendar ((inCalendar_iff _).mpr h.instant) ((inCalendar_iff _).mpr h.clock)

/-- A date that is shown lies in the calendar, and so does its instant. -/
theorem of_wallAt_eq_ok {z : Zone} {instant : Int} {s : Shown} (h : z.wallAt instant = .ok s) :
    inCalendar instant = true ∧ inCalendar (z.clockAt instant) = true ∧ s = z.shownAt instant := by
  by_cases hcalendar : inCalendar instant = true ∧ inCalendar (z.clockAt instant) = true
  · rw [wallAt_of_inCalendar hcalendar.1 hcalendar.2, Except.ok.injEq] at h
    exact ⟨hcalendar.1, hcalendar.2, h.symm⟩
  · rw [wallAt_of_not_inCalendar hcalendar] at h
    exact absurd h (by simp only [reduceCtorEq, not_false_eq_true])

/-- The clocks of a zone that can be configured are off by less than a day. -/
theorem natAbs_offsetAt_of_resolve {setting : ZoneSetting} {z : Zone}
    (hz : setting.resolve = .ok z) (seconds : Nat) : (z.offsetAt seconds).natAbs < 86400 := by
  cases setting with
  | home =>
      rw [← Except.ok.inj hz]
      exact show homeOffset.natAbs < 86400 by decide
  | name n =>
      rcases ZoneSetting.lookUp_cases n with ⟨zone, hzone, hfound, _⟩ | ⟨hunknown, _⟩ | ⟨hgroup, _⟩
      · rw [show z = .named zone from Except.ok.inj (hz.symm.trans hfound)]
        exact natAbs_offsetAt_lt hzone seconds
      · exact absurd (hz.symm.trans hunknown) (by simp only [reduceCtorEq, not_false_eq_true])
      · exact absurd (hz.symm.trans hgroup) (by simp only [reduceCtorEq, not_false_eq_true])
  | fixed offset label =>
      rw [ZoneSetting.resolve] at hz
      by_cases hday : offset.natAbs < 86400
      · rw [if_pos hday] at hz
        rw [← Except.ok.inj hz]
        exact hday
      · rw [if_neg hday] at hz
        exact absurd hz (by simp only [reduceCtorEq, not_false_eq_true])
  | other v =>
      cases v <;> exact absurd hz (by simp only [ZoneSetting.resolve, reduceCtorEq,
        not_false_eq_true])

/-- A moment two days or more inside the calendar is shown in every zone whose clocks
    are off by less than a day. -/
theorem shows_of_isInside {z : Zone} (hz : ∀ seconds, (z.offsetAt seconds).natAbs < 86400)
    {m : Moment} (hm : m.IsInside) : z.Shows m := by
  rcases hm with ⟨hlow, hhigh⟩
  -- Two days cover both a look back by a day and clocks that are off by nearly one.
  have hoffset := hz (m.instant.toNat / 1000000)
  simp only [microsPerDay] at hlow hhigh
  refine ⟨fun hhome => ?_, ⟨by omega, by omega⟩, ?_⟩
  · simp only [Moment.instant, hhome, Option.getD_none, homeOffset] at hlow hhigh
    simp only [microsPerDay, homeOffset]
    exact ⟨by omega, by omega⟩
  · rw [Zone.clockAt]
    exact ⟨by omega, by omega⟩

end Time

/-! ### Dates as texts -/

namespace DateFormatter

/-- A date that is shown has a text, whatever the pattern. -/
theorem exists_layOut {f : DateFormatter} (hpattern : f.pattern.IsOptionalText) (s : Shown) :
    ∃ date, f.layOut s = .ok date := by
  rw [layOut]
  cases hp : f.pattern with
  | null => exact ⟨_, rfl⟩
  | text p => exact ⟨_, rfl⟩
  | _ =>
      rw [hp] at hpattern
      exact hpattern.elim

/-- A moment that can be shown is rendered, whatever the pattern. -/
theorem exists_format_of_shows {f : DateFormatter} (hpattern : f.pattern.IsOptionalText)
    {m : Moment} (hm : f.zone.Shows m) : ∃ date, f.format m = .ok date := by
  rw [format, locate_of_isTold hm.told]
  simp only [Except.bind, formatInstant, wallAt_of_shows hm]
  exact exists_layOut hpattern _

/-- Any other moment fails at an end of the calendar. -/
theorem format_of_not_shows {f : DateFormatter} {m : Moment} (hm : ¬ f.zone.Shows m) :
    ∃ failure, failure.IsOfDate ∧ f.format m = .error failure := by
  by_cases htold : m.IsTold
  · have hcalendar : ¬ (inCalendar m.instant = true ∧
        inCalendar (f.zone.clockAt m.instant) = true) :=
      fun h => hm ⟨htold, (inCalendar_iff _).mp h.1, (inCalendar_iff _).mp h.2⟩
    refine ⟨.dateRange, trivial, ?_⟩
    rw [format, locate_of_isTold htold]
    simp only [Except.bind, formatInstant, wallAt_of_not_inCalendar hcalendar]
  · rcases locate_of_not_isTold htold with ⟨year, _, hyear⟩
    refine ⟨.yearRange year, trivial, ?_⟩
    rw [format, hyear]
    rfl

end DateFormatter

end TextLog
