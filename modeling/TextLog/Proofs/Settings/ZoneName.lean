import TextLog.Settings
import TextLog.Proofs.Time.ZoneName

/-!
# Names of Zones in Settings

What becomes of settings that name a zone.

Each setting is checked on its own and its problems carry its name, so that the
problems of the zone can be told from those of the others. The check of the zone
alone can fail in a way that is no problem of the settings; then there are neither
settings nor problems, whatever the other values are.

## Main definitions

* `Settings.Reports`: Settings are loaded, or the problems tell whether there is a
  zone of the name.

## Theorems

* `field_of_mem_problemOf`: The problems of a setting carry its name.
* `load_of_zone`: The settings with the check of the zone apart from the others.
* `reports_load`: The names that settings report.
-/

namespace TextLog

namespace Settings

open Time

/-- The settings are loaded with the name of a zone, or there are problems, and one
    of the zone among them if and only if no zone has the name. -/
def Reports (n : String) (x : Except Failure Settings) : Prop :=
  (∃ s, x = .ok s ∧ s.timeZone = some n) ∨
    ∃ problems, x = .error (.settings problems) ∧
      ((∃ p ∈ problems, p.field = "TIME_ZONE") ↔ ∀ z, ZoneSetting.lookUp n ≠ .ok z)

/-- The problems of a setting carry its name. -/
theorem field_of_mem_problemOf {α : Type} {field : String} {c : Checked α} {p : FieldProblem}
    (hp : p ∈ problemOf field c) : p.field = field := by
  cases c with
  | ok a => exact absurd hp List.not_mem_nil
  | error problem => rw [List.mem_singleton.mp hp]

theorem forall_problemOf_ne {α : Type} {field other : String} (hfield : field ≠ other)
    (c : Checked α) : ∀ p ∈ problemOf field c, p.field ≠ other :=
  fun _ hp => field_of_mem_problemOf hp ▸ hfield

/-- The settings with the check of the zone apart from the others. The problems of
    the others carry other names. -/
theorem load_of_zone {sources : Sources} {v : Value} (hv : sources.value? "TIME_ZONE" = some v) :
    ∃ (others : List FieldProblem) (base : Settings),
      (∀ p ∈ others, p.field ≠ "TIME_ZONE") ∧
        load sources = (checkZone v).bind fun zone =>
          if (others ++ problemOf "TIME_ZONE" zone).isEmpty then
            .ok { base with timeZone := valueOr none zone }
          else .error (.settings (others ++ problemOf "TIME_ZONE" zone)) := by
  -- The equation determines the other problems, so it comes first.
  refine ⟨?_, ⟨?_, ?_, ?_, ?_, ?_, ?_, ?_, ?_, ?_, ?_, ?_, ?_, none⟩, ?others, ?load⟩
  case load =>
      rw [load, hv]
      rfl
  case others =>
      simp only [List.forall_mem_append]
      and_intros <;> exact forall_problemOf_ne (by decide) _

/-- Settings report the name of a zone if it is not that of a group of zones. -/
theorem reports_load (n : String) {sources : Sources}
    (hn : sources.value? "TIME_ZONE" = some (.text n)) :
    Reports n (load sources) ↔ n ∉ zoneGroups := by
  rcases load_of_zone hn with ⟨others, base, hothers, hload⟩
  rw [hload]
  rcases ZoneSetting.lookUp_cases n with ⟨z, _, hfound, hgroup⟩ | ⟨hunknown, hgroup⟩ |
    ⟨hdirectory, hgroup⟩
  · refine ⟨fun _ => hgroup, fun _ => ?_⟩
    simp only [checkZone, checkOptional, checkText, Except.map, hfound, Except.bind, problemOf,
      valueOr, List.append_nil]
    by_cases hempty : others.isEmpty
    · exact Or.inl ⟨_, if_pos hempty, rfl⟩
    · refine Or.inr ⟨others, if_neg hempty, ?_⟩
      rw [hfound]
      exact ⟨fun ⟨p, hp, hfield⟩ => absurd hfield (hothers p hp), fun h => absurd rfl (h _)⟩
  · refine ⟨fun _ => hgroup, fun _ => ?_⟩
    simp only [checkZone, checkOptional, checkText, Except.map, hunknown, Except.bind, problemOf]
    refine Or.inr ⟨_, if_neg ?_, ?_⟩
    · rw [List.isEmpty_iff]
      exact List.append_ne_nil_of_right_ne_nil _ (List.cons_ne_nil _ _)
    · rw [hunknown]
      exact ⟨fun _ _ => by simp only [ne_eq, reduceCtorEq, not_false_eq_true],
        fun _ => ⟨_, List.mem_append_right _ (List.mem_singleton_self _), rfl⟩⟩
  · refine ⟨fun h => ?_, fun h => absurd hgroup h⟩
    simp only [checkZone, checkOptional, checkText, Except.map, hdirectory, Except.bind] at h
    rcases h with ⟨_, h, _⟩ | ⟨_, h, _⟩
    · exact absurd h (by simp only [reduceCtorEq, not_false_eq_true])
    · exact absurd h (by simp only [Except.error.injEq, reduceCtorEq, not_false_eq_true])

end Settings

end TextLog
