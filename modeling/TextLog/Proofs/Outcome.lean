import TextLog.Session

/-!
# Outcomes

Taking apart what can fail.

A computation that has succeeded has succeeded in each of its steps. An action
run on a session gives an outcome and the session that it leaves behind, also
when it fails.

## Main definitions

* `Action.runOn`: The outcome of an action and the session it leaves.

## Theorems

* `exists_of_map_eq_ok`, `exists_of_bind_eq_ok`: The steps of a success.
* `runOn_bind`, `runOn_bind_ok`, `runOn_bind_error`: Actions one after the other.
* `runOn_bind_snd`: Actions that only read.
* `runOn_get`, `runOn_modify`, `runOn_ofExcept`: The steps that actions are made of.
-/

namespace TextLog

theorem exists_of_map_eq_ok {α β : Type} {f : α → β} {x : Except Failure α} {b : β}
    (h : x.map f = .ok b) : ∃ a, x = .ok a ∧ f a = b := by
  cases x with
  | error failure => exact absurd h (by simp only [Except.map, reduceCtorEq, not_false_eq_true])
  | ok a => exact ⟨a, rfl, Except.ok.inj h⟩

theorem exists_of_bind_eq_ok {α β : Type} {f : α → Except Failure β} {x : Except Failure α} {b : β}
    (h : x.bind f = .ok b) : ∃ a, x = .ok a ∧ f a = .ok b := by
  cases x with
  | error failure => exact absurd h (by simp only [Except.bind, reduceCtorEq, not_false_eq_true])
  | ok a => exact ⟨a, rfl, h⟩

namespace Action

/-- The outcome of an action on a session, and the session that it leaves. -/
def runOn {α : Type} (a : Action α) (s : Session) : Except Failure α × Session :=
  StateT.run (ExceptT.run a) s

/-- An action goes on where the one before it has succeeded. -/
theorem runOn_bind {α β : Type} (a : Action α) (f : α → Action β) (s : Session) :
    (a >>= f).runOn s =
      match a.runOn s with
      | (.ok x, after) => (f x).runOn after
      | (.error failure, after) => (.error failure, after) := by
  unfold runOn
  rw [ExceptT.run_bind, StateT.run_bind]
  cases hrun : StateT.run (ExceptT.run a) s with
  | mk outcome after => cases outcome <;> rfl

theorem runOn_bind_ok {α β : Type} {a : Action α} {s t : Session} {x : α}
    (h : a.runOn s = (.ok x, t)) (f : α → Action β) : (a >>= f).runOn s = (f x).runOn t := by
  rw [runOn_bind, h]

theorem runOn_bind_error {α β : Type} {a : Action α} {s t : Session} {failure : Failure}
    (h : a.runOn s = (.error failure, t)) (f : α → Action β) :
    (a >>= f).runOn s = (.error failure, t) := by
  rw [runOn_bind, h]

/-- Actions that leave the session as it is do so one after the other. -/
theorem runOn_bind_snd {α β : Type} {a : Action α} {f : α → Action β} {s : Session}
    (ha : (a.runOn s).2 = s) (hf : ∀ x, ((f x).runOn s).2 = s) : ((a >>= f).runOn s).2 = s := by
  rw [runOn_bind]
  rcases ha' : a.runOn s with ⟨outcome, t⟩
  rw [ha'] at ha
  rw [show t = s from ha]
  cases outcome with
  | ok x => exact hf x
  | error failure => rfl

@[simp]
theorem runOn_pure {α : Type} (x : α) (s : Session) : (pure x : Action α).runOn s = (.ok x, s) :=
  rfl

@[simp]
theorem runOn_throw {α : Type} (failure : Failure) (s : Session) :
    (throw failure : Action α).runOn s = (.error failure, s) := rfl

@[simp]
theorem runOn_get (s : Session) : (get : Action Session).runOn s = (.ok s, s) := rfl

@[simp]
theorem runOn_set (s t : Session) : (set t : Action Unit).runOn s = (.ok (), t) := rfl

@[simp]
theorem runOn_modify (f : Session → Session) (s : Session) :
    (modify f : Action Unit).runOn s = (.ok (), f s) := rfl

@[simp]
theorem runOn_ofExcept {α : Type} (x : Except Failure α) (s : Session) :
    (ofExcept x).runOn s = (x, s) := rfl

@[simp]
theorem runOn_require {α : Type} (x : Option α) (s : Session) :
    (require x).runOn s = (x.elim (.error .dangling) .ok, s) := by
  cases x <;> rfl

/-- A logger that is there is found, and the session stays as it is. -/
theorem runOn_logger (id : LoggerId) (l : Logger) (s : Session) (h : s.logger? id = some l) :
    (logger id).runOn s = (.ok l, s) := by
  have hget : (logger id).runOn s = ((require (s.logger? id)).runOn s) := rfl
  rw [hget, h]
  rfl

end Action

end TextLog
