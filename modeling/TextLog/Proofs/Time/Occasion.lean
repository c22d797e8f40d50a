import TextLog.Proofs.Time.Instant

/-!
# Occasions

When the date of an event can be rendered.

An event happens at a moment that is given with it, or now. A given moment has a date
if the zone shows it. The present moment has to be read off the clocks of the zone
before that. Only the clock of the system can fail to tell it: it looks a day back and
its offset ahead. So the present asks for more than a given moment in the zone of the
system alone, and there on the first day and in the last hours of the calendar.

## Main definitions

* `Zone.ShowsAt`: An occasion that can be shown in a zone.

## Theorems

* `showsAt_of_isInside`: Occasions away from the ends of the calendar are shown everywhere.
* `exists_formatAt_of_showsAt`, `formatAt_of_not_showsAt`: Which occasions have a date.
-/

namespace TextLog

open Time

namespace Time

/-- An occasion can be shown in a zone: its moment can be; and if the clock of the system
    is asked what time it is, it can tell. -/
def Zone.ShowsAt (z : Zone) : Occasion → Prop
  | .given m => z.Shows m
  | .present now => z.Shows now ∧ (z = .home → IsToldAt now.instant)

/-- Two days leave room for what the clock of the system looks at. -/
theorem isToldAt_of_isInside {m : Moment} (hm : m.IsInside) : IsToldAt m.instant := by
  rcases hm with ⟨hlow, hhigh⟩
  simp only [microsPerDay] at hlow hhigh
  simp only [IsToldAt, microsPerDay, homeOffset]
  exact ⟨by omega, by omega⟩

/-- An occasion two days or more inside the calendar is shown in every zone whose clocks
    are off by less than a day. -/
theorem showsAt_of_isInside {z : Zone} (hz : ∀ seconds, (z.offsetAt seconds).natAbs < 86400)
    {o : Occasion} (ho : o.moment.IsInside) : z.ShowsAt o := by
  have hshows := shows_of_isInside hz ho
  cases o with
  | given m => exact hshows
  | present now => exact ⟨hshows, fun _ => isToldAt_of_isInside ho⟩

/-- On its first day the clock of the system shows moments that it cannot tell. -/
example : Zone.home.ShowsAt (.given ⟨⟨1, 1, 1, 12, 0, 0, 0⟩, some 0⟩) ∧
    ¬ Zone.home.ShowsAt (.present ⟨⟨1, 1, 1, 12, 0, 0, 0⟩, some 0⟩) :=
  ⟨⟨fun h => absurd h (Option.some_ne_none _), by decide, by decide⟩,
    fun h => absurd (h.2 rfl).1 (by decide)⟩

end Time

namespace DateFormatter

/-- An occasion that can be shown has a date, whatever the pattern. -/
theorem exists_formatAt_of_showsAt {f : DateFormatter} (hpattern : f.pattern.IsOptionalText)
    {o : Occasion} (ho : f.zone.ShowsAt o) : ∃ date, f.formatAt o = .ok date := by
  cases o with
  | given m => exact exists_format_of_shows hpattern ho
  | present now =>
      rcases ho with ⟨hshows, htold⟩
      rw [formatAt, formatNow_of_told f hshows.told htold]
      exact exists_format_of_shows hpattern hshows

/-- Any other occasion fails at an end of the calendar. -/
theorem formatAt_of_not_showsAt {f : DateFormatter} {o : Occasion} (ho : ¬ f.zone.ShowsAt o) :
    ∃ failure, failure.IsOfDate ∧ f.formatAt o = .error failure := by
  cases o with
  | given m => exact format_of_not_shows ho
  | present now =>
      -- The clock that tells what time it is comes first, then that of the system.
      by_cases hnow : now.IsTold
      · by_cases htold : f.zone = .home → IsToldAt now.instant
        · rw [formatAt, formatNow_of_told f hnow htold]
          exact format_of_not_shows fun hshows => ho ⟨hshows, htold⟩
        · rcases Classical.not_imp.mp htold with ⟨hzone, hnot⟩
          rcases formatNow_of_not_told f hnow hzone hnot with ⟨year, _, hyear⟩
          exact ⟨.yearRange year, trivial, hyear⟩
      · rcases locate_of_not_isTold hnow with ⟨year, _, hlocate⟩
        refine ⟨.yearRange year, trivial, ?_⟩
        rw [formatAt, formatNow, hlocate]
        rfl

end DateFormatter

end TextLog
