import TextLog.Proofs.Time.Columns
import TextLog.Proofs.Time.Instant

/-!
# Reading the International Form

A date in the international form tells the instant that it was made of.

The form is a row of columns with the offset behind it. A reader that knows the widths of
the columns takes it apart again: it reads the date and the time of day, checks that they
are a date of the calendar and a time that clocks show, and reads the offset, with or
without seconds. What it gets is a moment. Its instant is that of the moment that was
rendered, cut to the millisecond, whatever the zone is and also in an hour that clocks
show twice, because then the offsets differ.

## Main definitions

* `internationalColumns`, `DateTime.columns`: The form and what stands in it.
* `readOffset?`: The offset that a text writes.
* `readInternational?`: The moment that a text writes.

## Theorems

* `toList_isoText`: The international form as a row of columns.
* `readOffset?_offsetText`: Offsets of less than a day are read back.
* `readInternational?_isoText`: A date is read back, cut to the millisecond.
* `isoText_tells_instant`: A date tells its instant.
-/

namespace TextLog

namespace Time

/-! ### The form -/

/-- The columns of the international form: year, month, day, hour, minute, second and
    millisecond. -/
def internationalColumns : Columns :=
  [(4, ['-']), (2, ['-']), (2, ['T']), (2, [':']), (2, [':']), (2, ['.']), (3, [])]

/-- What stands in the columns of the international form. -/
def DateTime.columns (d : DateTime) : List Nat :=
  [d.year, d.month, d.day, d.hour, d.minute, d.second, d.micro / 1000]

/-- No month is longer than a hundred days. -/
theorem monthLength_lt : ∀ leap, ∀ month < 13, monthLength leap month < 100 := by
  decide

theorem fits_columns {d : DateTime} (hd : d.IsValid) : internationalColumns.Fits d.columns := by
  have hday := monthLength_lt (isLeap d.year) d.month (Nat.lt_succ_of_le hd.month.2)
  have hdays := hd.day.2
  have hyear := hd.year.2
  have hmonth := hd.month.2
  have hhour := hd.hour
  have hminute := hd.minute
  have hsecond := hd.second
  have hmicro := hd.micro
  exact ⟨by omega, by omega, by omega, by omega, by omega, by omega, by omega, trivial⟩

theorem toList_padZero {width n : Nat} (h : n < 10 ^ (width + 1)) :
    (padZero (width + 1) n).toList = column (width + 1) n := by
  rw [padZero, String.toList_ofList, number_zeros_eq_column h]

/-- The international form is a row of columns with the offset behind it. -/
theorem toList_isoText {s : Shown} (hd : s.wall.IsValid) :
    (isoText s).toList =
      internationalColumns.write s.wall.columns ++ (offsetText ":" s.offset).toList := by
  rcases fits_columns hd with ⟨hyear, hmonth, hday, hhour, hminute, hsecond, hmilli, _⟩
  rw [isoText]
  simp only [String.toList_append]
  rw [toList_padZero hyear, toList_padZero hmonth, toList_padZero hday, toList_padZero hhour,
    toList_padZero hminute, toList_padZero hsecond, toList_padZero hmilli]
  simp only [internationalColumns, DateTime.columns, Columns.write, List.append_assoc,
    List.nil_append]
  rfl

/-! ### The reader -/

/-- The seconds that may stand behind an offset. -/
def readSeconds? : List Char → Option Nat
  | [] => some 0
  | ':' :: rest =>
    match Columns.read? [(2, [])] rest with
    | some ([second], []) => some second
    | _ => none
  | _ => none

/-- The size of an offset: hours and minutes, and perhaps seconds. -/
def readSpan? (cs : List Char) : Option Nat :=
  match Columns.read? [(2, [':']), (2, [])] cs with
  | some ([hour, minute], rest) =>
    (readSeconds? rest).bind fun second =>
      if hour < 24 ∧ minute < 60 ∧ second < 60 then some (hour * 3600 + minute * 60 + second)
      else none
  | _ => none

/-- The offset that a text writes, in seconds. -/
def readOffset? : List Char → Option Int
  | '+' :: cs => (readSpan? cs).map fun n : Nat => (n : Int)
  | '-' :: cs => (readSpan? cs).map fun n : Nat => -(n : Int)
  | _ => none

/-- The moment that a text writes in the international form. -/
def readInternational? (text : String) : Option Moment :=
  match internationalColumns.read? text.toList with
  | some ([year, month, day, hour, minute, second, milli], rest) =>
    let wall : DateTime := ⟨year, month, day, hour, minute, second, milli * 1000⟩
    if wall.IsValid then (readOffset? rest).map fun offset => ⟨wall, some offset⟩ else none
  | _ => none

/-! ### Reading what was written -/

theorem toList_twoDigits (n : Nat) : (twoDigits n).toList = column 2 n := by
  rw [twoDigits, String.toList_ofList]
  rfl

/-- Seconds are only written where there are some, and none are read where none are. -/
theorem readSeconds?_text {second : Nat} (h : second < 60) :
    readSeconds? (if second = 0 then "" else ":" ++ twoDigits second).toList = some second := by
  by_cases hzero : second = 0
  · rw [if_pos hzero, hzero]
    rfl
  · have hfits : Columns.Fits [(2, [])] [second] := ⟨by omega, trivial⟩
    have hread := Columns.read?_write hfits []
    rw [if_neg hzero, String.toList_append, toList_twoDigits]
    simp only [Columns.write, List.append_nil] at hread
    rw [show (":" : String).toList = [':'] from rfl, List.singleton_append, readSeconds?, hread]

theorem readSpan?_write {hour minute second : Nat} (hhour : hour < 24) (hminute : minute < 60)
    (hsecond : second < 60) {rest : List Char} (hrest : readSeconds? rest = some second) :
    readSpan? (Columns.write [(2, [':']), (2, [])] [hour, minute] ++ rest) =
      some (hour * 3600 + minute * 60 + second) := by
  have hfits : Columns.Fits [(2, [':']), (2, [])] [hour, minute] :=
    ⟨by omega, by omega, trivial⟩
  rw [readSpan?, Columns.read?_write hfits]
  dsimp only
  rw [hrest, Option.bind_some, if_pos ⟨hhour, hminute, hsecond⟩]

/-- Offsets of less than a day are read back. -/
theorem readOffset?_offsetText {offset : Int} (h : offset.natAbs < 86400) :
    readOffset? (offsetText ":" offset).toList = some offset := by
  have hsize : readSpan? (Columns.write [(2, [':']), (2, [])]
      [offset.natAbs / 3600, offset.natAbs / 60 % 60] ++
        (if offset.natAbs % 60 = 0 then "" else ":" ++ twoDigits (offset.natAbs % 60)).toList) =
      some offset.natAbs := by
    rw [readSpan?_write (by omega) (by omega) (by omega) (readSeconds?_text (by omega))]
    exact congrArg some (DateTime.seconds_of_clock offset.natAbs)
  simp only [Columns.write, List.append_assoc, List.nil_append] at hsize
  rw [offsetText]
  simp only [String.toList_append, toList_twoDigits, List.append_assoc]
  by_cases hsign : offset < 0
  · rw [if_pos hsign, show ("-" : String).toList = ['-'] from rfl, List.singleton_append]
    rw [readOffset?, show (":" : String).toList = [':'] from rfl, hsize, Option.map_some]
    exact congrArg some (by omega)
  · rw [if_neg hsign, show ("+" : String).toList = ['+'] from rfl, List.singleton_append]
    rw [readOffset?, show (":" : String).toList = [':'] from rfl, hsize, Option.map_some]
    exact congrArg some (by omega)

/-- The same date and time of day, cut to the millisecond. -/
def DateTime.cut (d : DateTime) : DateTime :=
  { d with micro := d.micro / 1000 * 1000 }

theorem isValid_cut {d : DateTime} (hd : d.IsValid) : d.cut.IsValid :=
  { year := hd.year
    month := hd.month
    day := hd.day
    hour := hd.hour
    minute := hd.minute
    second := hd.second
    micro := Nat.lt_of_le_of_lt (Nat.div_mul_le_self _ _) hd.micro }

theorem toMicros_cut (d : DateTime) : d.cut.toMicros = d.toMicros / 1000 * 1000 := by
  have hordinal : d.cut.dayOrdinal = d.dayOrdinal := rfl
  rw [DateTime.toMicros, DateTime.toMicros, hordinal]
  simp only [DateTime.cut, microsPerDay]
  omega

/-- A date in the international form is read back with its offset, cut to the
    millisecond. -/
theorem readInternational?_isoText {s : Shown} (hd : s.wall.IsValid)
    (hoffset : s.offset.natAbs < 86400) :
    readInternational? (isoText s) = some ⟨s.wall.cut, some s.offset⟩ := by
  rw [readInternational?, toList_isoText hd, Columns.read?_write (fits_columns hd)]
  refine (if_pos (isValid_cut hd)).trans ?_
  rw [readOffset?_offsetText hoffset]
  rfl

theorem isValid_shownAt {z : Zone} {instant : Int}
    (h : inCalendar (z.clockAt instant) = true) : (z.shownAt instant).wall.IsValid := by
  have hrange := (inCalendar_iff _).mp h
  exact DateTime.isValid_ofMicros (by omega)

/-- What is shown at an instant is read back as a moment of it, cut to the millisecond. -/
theorem readInternational?_shownAt {z : Zone} {instant : Int}
    (hclock : inCalendar (z.clockAt instant) = true)
    (hoffset : (z.offsetAt (instant.toNat / 1000000)).natAbs < 86400) :
    (readInternational? (isoText (z.shownAt instant))).map Moment.instant =
      some (instant / 1000 * 1000) := by
  have hmicros := toMicros_shownAt hclock
  rw [readInternational?_isoText (isValid_shownAt hclock) hoffset, Option.map_some,
    Moment.instant, toMicros_cut, Option.getD_some]
  rw [Zone.clockAt] at hmicros
  simp only [Zone.shownAt] at hmicros ⊢
  -- Offsets are whole seconds, so the cut commutes with them.
  exact congrArg some (by omega)

/-- The clocks of a zone are off by less than a day. -/
def Zone.IsBounded (z : Zone) : Prop :=
  ∀ seconds, (z.offsetAt seconds).natAbs < 86400

end Time

namespace DateFormatter

open Time

/-- A text of the international form is that of what is shown at the instant. -/
theorem of_format_null {z : Zone} {m : Moment} {text : String}
    (h : (DateFormatter.mk .null z).format m = .ok text) :
    inCalendar m.instant = true ∧ inCalendar (z.clockAt m.instant) = true ∧
      text = isoText (z.shownAt m.instant) := by
  by_cases htold : m.IsTold
  · rw [format_of_isTold _ htold] at h
    rcases exists_of_bind_eq_ok h with ⟨s, hs, htext⟩
    rcases of_wallAt_eq_ok hs with ⟨hinstant, hclock, rfl⟩
    exact ⟨hinstant, hclock, (Except.ok.inj htext).symm⟩
  · rcases format_of_not_isTold (DateFormatter.mk .null z) htold with ⟨year, _, hyear⟩
    exact absurd (hyear.symm.trans h) (by simp only [reduceCtorEq, not_false_eq_true])

theorem readInternational?_format {z : Zone} (hz : z.IsBounded) {m : Moment} {text : String}
    (h : (DateFormatter.mk .null z).format m = .ok text) :
    (readInternational? text).map Moment.instant = some (m.instant / 1000 * 1000) := by
  rcases of_format_null h with ⟨_, hclock, rfl⟩
  exact readInternational?_shownAt hclock (hz _)

/-- A date in the international form tells its instant: it is read back as a moment whose
    instant is that of the moment that was rendered, cut to the millisecond. This holds of
    every zone that can be configured and of any other whose clocks are off by less than a
    day, so that moments with one text agree to the millisecond, in whatever zones they
    are shown. -/
theorem isoText_tells_instant :
    (∀ (setting : ZoneSetting) (z : Zone), setting.resolve = .ok z → z.IsBounded) ∧
      ∀ (z : Zone) (m : Moment) (text : String), z.IsBounded →
        (DateFormatter.mk .null z).format m = .ok text →
        (readInternational? text).map Moment.instant = some (m.instant / 1000 * 1000) ∧
          ∀ (z' : Zone) (m' : Moment), z'.IsBounded →
            (DateFormatter.mk .null z').format m' = .ok text →
            m'.instant / 1000 = m.instant / 1000 := by
  refine ⟨fun setting z => natAbs_offsetAt_of_resolve, fun z m text hz htext => ?_⟩
  have hread := readInternational?_format hz htext
  refine ⟨hread, fun z' m' hz' htext' => ?_⟩
  have hread' := readInternational?_format hz' htext'
  have hcut := Option.some.inj (hread'.symm.trans hread)
  omega

/-- When daylight saving ends in Berlin, half past two comes twice, and either text tells
    which one it was. -/
theorem isoText_tells_instant_repeated_hour :
    ∃ (z : Zone) (m n : Moment),
      ZoneSetting.resolve (.name "Europe/Berlin") = .ok z ∧ z.IsBounded ∧
      m = ⟨⟨2026, 10, 25, 0, 30, 0, 123456⟩, some 0⟩ ∧
      n = ⟨⟨2026, 10, 25, 7, 15, 0, 123456⟩, none⟩ ∧
      (DateFormatter.mk .null z).format m = .ok "2026-10-25T02:30:00.123+02:00" ∧
      (readInternational? "2026-10-25T02:30:00.123+02:00").map Moment.instant =
        some (m.instant / 1000 * 1000) ∧
      (DateFormatter.mk .null z).format n = .ok "2026-10-25T02:30:00.123+01:00" ∧
      (readInternational? "2026-10-25T02:30:00.123+01:00").map Moment.instant =
        some (n.instant / 1000 * 1000) := by
  rcases show ∃ (z : Zone) (m n : Moment), ZoneSetting.resolve (.name "Europe/Berlin") = .ok z ∧
      m = ⟨⟨2026, 10, 25, 0, 30, 0, 123456⟩, some 0⟩ ∧
      n = ⟨⟨2026, 10, 25, 7, 15, 0, 123456⟩, none⟩ ∧
      (DateFormatter.mk .null z).format m = .ok "2026-10-25T02:30:00.123+02:00" ∧
      (DateFormatter.mk .null z).format n = .ok "2026-10-25T02:30:00.123+01:00" from
    ⟨_, _, _, rfl, rfl, rfl, rfl, rfl⟩ with ⟨z, m, n, hz, hm, hn, hmtext, hntext⟩
  have hbounded := isoText_tells_instant.1 _ z hz
  exact ⟨z, m, n, hz, hbounded, hm, hn, hmtext,
    (isoText_tells_instant.2 z m _ hbounded hmtext).1, hntext,
    (isoText_tells_instant.2 z n _ hbounded hntext).1⟩

end DateFormatter

end TextLog
