import TextLog.Proofs.Logger.Configuration

/-!
# Names of Zones

What becomes of a text that is taken for the name of a zone.

Looking a name up finds a zone, or fails in one of two ways: no zone has the
name, or it is that of a group of zones. Only the first of them has a report.
Dates and loggers look the name up and keep what they find, so they report a name
if and only if it is not that of a group.

The clocks of a zone that has a name are off by less than a day.

## Main definitions

* `ReportsZone`: A computation succeeds, or fails with a report about a name.
* `Time.Moment.IsInside`: A moment away from both ends of the calendar.

## Theorems

* `mem_zoneGroups`: The groups of zones.
* `lookUp_cases`: The three ways to look a name up.
* `reportsZone_bind`: Steps that cannot fail make no difference.
* `reportsZone_lookUp`: The names that looking up reports.
* `reportsZone_make`, `reportsZone_edit`: The names that loggers report.
* `natAbs_offsetAt_lt`: The clocks of zones with a name.
-/

namespace TextLog

open Time

/-- A computation succeeds, or fails with a report that no zone has the name. -/
def ReportsZone {α : Type} (n : String) (x : Except Failure α) : Prop :=
  (∃ a, x = .ok a) ∨
    ∃ failure report, x = .error failure ∧ failure.report? = some report ∧
      report.kind = .configuration ∧ report.code = "INVALID_TIME_ZONE" ∧
        report.details = [("time_zone", .text n)]

namespace Time

/-! ### Groups -/

/-- A name is in a group if it goes on from that of the group with a slash. -/
theorem mem_groupsOf {group name : String} :
    group ∈ groupsOf name ↔ ∃ rest, name.toList = group.toList ++ '/' :: rest := by
  simp only [groupsOf, List.mem_map, List.mem_filter, beq_iff_eq]
  constructor
  · rintro ⟨⟨c, n⟩, ⟨hmem, rfl⟩, rfl⟩
    have hn : name.toList[n]? = some '/' := List.mem_zipIdx_iff_getElem?.mp hmem
    rcases List.getElem?_eq_some_iff.mp hn with ⟨hless, hslash⟩
    refine ⟨name.toList.drop (n + 1), ?_⟩
    rw [String.toList_ofList, ← hslash, ← List.drop_eq_getElem_cons hless, List.take_append_drop]
  · rintro ⟨rest, hname⟩
    refine ⟨('/', group.toList.length), ⟨?_, rfl⟩, ?_⟩
    · rw [List.mem_zipIdx_iff_getElem?, hname, List.getElem?_append_right (Nat.le_refl _),
        Nat.sub_self]
      rfl
    · rw [hname, List.take_left, String.ofList_toList]

/-- A group of zones is one that a known name goes on from with a slash. -/
theorem mem_zoneGroups {group : String} :
    group ∈ zoneGroups ↔ ∃ z ∈ knownZones, ∃ rest, z.key.toList = group.toList ++ '/' :: rest := by
  simp only [zoneGroups, List.mem_flatMap, mem_groupsOf]

example : "Australia" ∈ zoneGroups ∧ "Australia/Sydney" ∉ zoneGroups := by decide

/-! ### Looking names up -/

namespace ZoneSetting

/-- A name is that of a zone, of nothing, or of a group of zones. -/
theorem lookUp_cases (n : String) :
    (∃ z ∈ knownZones, lookUp n = .ok (.named z) ∧ n ∉ zoneGroups) ∨
      (lookUp n = .error (.unknownZone n) ∧ n ∉ zoneGroups) ∨
        (lookUp n = .error (.zoneDirectory n) ∧ n ∈ zoneGroups) := by
  rw [lookUp]
  cases hfind : knownZones.find? fun z => z.key == n with
  | some z =>
      have hz := List.mem_of_find?_eq_some hfind
      have hkey := List.find?_some hfind
      -- No zone shares its name with a group.
      have hgroups : ∀ z ∈ knownZones, z.key ∉ zoneGroups := by decide
      exact Or.inl ⟨z, hz, rfl, beq_iff_eq.mp hkey ▸ hgroups z hz⟩
  | none =>
      by_cases hgroup : n ∈ zoneGroups
      · exact Or.inr (Or.inr ⟨if_pos (List.contains_iff_mem.mpr hgroup), hgroup⟩)
      · exact Or.inr (Or.inl
          ⟨if_neg (fun h => hgroup (List.contains_iff_mem.mp h)), hgroup⟩)

end ZoneSetting

end Time

/-- Steps behind a computation that cannot fail make no difference to its reports. -/
theorem reportsZone_bind {α β : Type} (n : String) (x : Except Failure α)
    {f : α → Except Failure β} (hf : ∀ a, ∃ b, f a = .ok b) :
    ReportsZone n (x.bind f) ↔ ReportsZone n x := by
  cases x with
  | error failure =>
      simp only [ReportsZone, Except.bind, reduceCtorEq, exists_false, false_or, Except.error.injEq]
  | ok a =>
      rcases hf a with ⟨b, hb⟩
      exact ⟨fun _ => Or.inl ⟨a, rfl⟩, fun _ => Or.inl ⟨b, hb⟩⟩

theorem reportsZone_map {α β : Type} (n : String) (x : Except Failure α) (f : α → β) :
    ReportsZone n (x.map f) ↔ ReportsZone n x := by
  have hmap : x.map f = x.bind fun a => .ok (f a) := by cases x <;> rfl
  rw [hmap]
  exact reportsZone_bind n x fun a => ⟨f a, rfl⟩

/-- A name is reported if it is not that of a group of zones. -/
theorem reportsZone_lookUp (n : String) :
    ReportsZone n (ZoneSetting.lookUp n) ↔ n ∉ zoneGroups := by
  rcases ZoneSetting.lookUp_cases n with ⟨z, _, hfound, hn⟩ | ⟨hunknown, hn⟩ | ⟨hgroup, hn⟩
  · exact ⟨fun _ => hn, fun _ => Or.inl ⟨_, hfound⟩⟩
  · exact ⟨fun _ => hn, fun _ => Or.inr ⟨_, _, hunknown, rfl, rfl, rfl, rfl⟩⟩
  · refine ⟨fun h => ?_, fun h => absurd hn h⟩
    rw [hgroup] at h
    rcases h with ⟨_, h⟩ | ⟨failure, report, h, hreport, _⟩
    · exact absurd h (by simp only [reduceCtorEq, not_false_eq_true])
    · rw [← Except.error.inj h] at hreport
      exact absurd hreport (by simp only [Failure.report?, reduceCtorEq, not_false_eq_true])

/-! ### Dates and loggers -/

theorem reportsZone_dateFormatter (n : String) (pattern : Value) :
    ReportsZone n (DateFormatter.make pattern (.name n)) ↔ n ∉ zoneGroups :=
  (reportsZone_map n _ _).trans (reportsZone_lookUp n)

namespace Logger

theorem reportsZone_ofOptions (n : String) (severity : Severity) (sink : Sink) {o : LoggerOptions}
    (hzone : o.timeZone = .name n) (hformat : o.format.IsOptionalText) :
    ReportsZone n (ofOptions severity sink o) ↔ n ∉ zoneGroups := by
  rcases exists_compileFormat hformat with ⟨t, ht⟩
  rw [ofOptions, ht, hzone]
  exact (reportsZone_bind n _ fun d => ⟨_, rfl⟩).trans (reportsZone_dateFormatter n o.dateFormat)

/-- A logger that is made with the name of a zone reports it if it is not that of
    a group. -/
theorem reportsZone_make (n : String) {threshold : Value} {severity : Severity} (sink : Sink)
    {o : LoggerOptions} (hthreshold : Severity.parse threshold = .ok severity)
    (hzone : o.timeZone = .name n) (hformat : o.format.IsOptionalText) :
    ReportsZone n (make threshold sink o) ↔ n ∉ zoneGroups := by
  rw [make, hthreshold]
  exact reportsZone_ofOptions n severity sink hzone hformat

/-- So does a logger that the name of a zone is assigned to. -/
theorem reportsZone_edit (n : String) (l : Logger) :
    ReportsZone n (l.edit (.timeZone (.name n))) ↔ n ∉ zoneGroups :=
  (reportsZone_map n _ _).trans (reportsZone_dateFormatter n l.dateFormat)

end Logger

/-! ### Clocks -/

namespace Time

/-- A moment that lies two days or more inside the calendar. -/
def Moment.IsInside (m : Moment) : Prop :=
  2 * (microsPerDay : Int) ≤ m.instant ∧ m.instant + 2 * (microsPerDay : Int) < calendarMicros

/-- The clocks of a zone with a name are off by less than a day. -/
theorem natAbs_offsetAt_lt {z : NamedZone} (hz : z ∈ knownZones) (seconds : Nat) :
    (z.offsetAt seconds).natAbs < 86400 := by
  have hoffset : ∀ z ∈ knownZones, z.offset.natAbs < 86400 := by decide
  have hsaving : ∀ z ∈ knownZones, ∀ s ∈ z.saving, s.offset.natAbs < 86400 := by decide
  rw [NamedZone.offsetAt]
  cases hs : z.savingAt seconds with
  | none => exact hoffset z hz
  | some s => exact hsaving z hz s (Option.filter_eq_some_iff.mp hs).1

end Time

end TextLog
