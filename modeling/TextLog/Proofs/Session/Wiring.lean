import TextLog.Proofs.Metadata.Keys
import TextLog.Proofs.Session.Structured

/-!
# Wired Sessions

Pipelines and bound values are in order in every session that a program reaches.

A pipeline refers to a handler, which has to be there when an event comes. Handlers
are added and assigned to but never removed, so a handler that was there when a
pipeline was configured stays. Bound values are laid over each other and removed key
by key, and neither binds a key twice. `Session.Wired` says both, and that handlers
show their metadata as they are; it is kept by every step and therefore by every
program.

## Main definitions

* `Session.Has`: The handler of a pipeline is there.
* `BoundLogger.WiredIn`: A logger with bound values is in order.
* `Session.Wired`: All of a session is.

## Theorems

* `has_of_pipelineIn`, `wiredIn_of_boundIn`: What a wired session gives an event.
* `wired_afterOp`, `wired_configure`, `wired_derive`: Steps keep a session wired.
* `wired_of_reached`: The sessions that a program reaches are wired.
-/

namespace TextLog

open Time

namespace Session

/-- The handler of a pipeline is there. -/
def Has (s : Session) (p : Pipeline) : Prop :=
  p.handler.index < s.handlers.size

end Session

/-- No key is bound twice, and the handler of the pipeline is there. -/
structure BoundLogger.WiredIn (b : BoundLogger) (s : Session) : Prop where
  distinct : b.bound.Distinct
  has : ∀ p, b.pipeline = some p → s.Has p

namespace Session

/-- Handlers are fresh, the handler of every pipeline is there, and no key is bound
    twice. -/
structure Wired (s : Session) : Prop where
  fresh : s.Fresh
  has : ∀ p, s.pipeline = some p → s.Has p
  bounds : ∀ b ∈ s.bounds, b.WiredIn s

theorem wired_start (now : Moment) (plain : Bool) : (start now plain).Wired where
  fresh := fresh_start now plain
  has _ hp := absurd hp (Option.some_ne_none _).symm
  bounds b hb := absurd hb (Array.not_mem_empty b)

/-- What a logger uses as its pipeline is there. -/
theorem has_of_pipelineIn {s : Session} (hs : s.Wired) {b : BoundLogger} (hb : b.WiredIn s)
    {p : Pipeline} (hp : b.pipelineIn s = some p) : s.Has p := by
  rw [BoundLogger.pipelineIn] at hp
  cases hown : b.pipeline with
  | none =>
      rw [hown] at hp
      exact hs.has p hp
  | some own =>
      rw [hown, Option.some.injEq] at hp
      exact hb.has p (hp ▸ hown)

theorem exists_handler_of_has {s : Session} {p : Pipeline} (hp : s.Has p) :
    ∃ h, s.handler? p.handler = some h :=
  ⟨s.handlers[p.handler.index], Array.getElem?_eq_getElem hp⟩

/-- A logger with bound values that is there is wired. -/
theorem wiredIn_of_boundIn {s : Session} (hs : s.Wired) {l : StructuredLogger} {b : BoundLogger}
    (hb : l.boundIn s = some b) : b.WiredIn s := by
  cases l with
  | requested =>
      rw [← Option.some.inj hb]
      exact ⟨Metadata.distinct_nil, fun _ hp => absurd hp (Option.some_ne_none _).symm⟩
  | derived id => exact hs.bounds b (Array.mem_of_getElem? hb)

/-- Handlers may be assigned to and come up besides. -/
theorem wired_of_wiring {s t : Session} (hs : s.Wired) (hwiring : t.wiring = s.wiring)
    (hsize : s.handlers.size ≤ t.handlers.size) (hfresh : t.Fresh) : t.Wired where
  fresh := hfresh
  has p hp := Nat.lt_of_lt_of_le (hs.has p ((congrArg Prod.fst hwiring).symm.trans hp)) hsize
  bounds b hb := by
    have hbounds : t.bounds = s.bounds := congrArg Prod.snd hwiring
    have hold := hs.bounds b (hbounds ▸ hb)
    exact ⟨hold.distinct, fun p hp => Nat.lt_of_lt_of_le (hold.has p hp) hsize⟩

/-- Where the handlers are as before, it is the pipelines alone that have to be. -/
theorem wired_of_handlers {s t : Session} (hfresh : s.Fresh) (hhandlers : t.handlers = s.handlers)
    (hhas : ∀ p, t.pipeline = some p → s.Has p) (hbounds : ∀ b ∈ t.bounds, b.WiredIn s) :
    t.Wired := by
  have hsame : ∀ p, s.Has p → t.Has p := by
    intro p hp
    rw [Has, hhandlers]
    exact hp
  refine ⟨?_, fun p hp => hsame p (hhas p hp), fun b hb => ?_⟩
  · rw [Fresh, hhandlers]
    exact hfresh
  · exact ⟨(hbounds b hb).distinct, fun p hp => hsame p ((hbounds b hb).has p hp)⟩

theorem wired_of_setup {s t : Session} (hs : s.Wired) (hsetup : t.setup = s.setup) : t.Wired := by
  have hhandlers : t.handlers = s.handlers := congrArg Prod.snd hsetup
  have hpipeline : t.pipeline = s.pipeline := congrArg (fun x => x.1.1) hsetup
  have hbounds : t.bounds = s.bounds := congrArg (fun x => x.1.2) hsetup
  exact wired_of_handlers hs.fresh hhandlers (hpipeline ▸ hs.has) (hbounds ▸ hs.bounds)

theorem wired_afterOp {s : Session} (hs : s.Wired) (op : Operation) : (s.afterOp op).Wired := by
  refine wired_of_wiring hs (Action.keeps_perform op s) ?_ (fresh_afterOp s op hs.fresh)
  cases change_afterOp s op with
  | quiet _ _ hhandlers => exact Nat.le_of_eq (by rw [hhandlers])
  | newStream _ _ _ ht => exact Nat.le_of_eq (by rw [ht])
  | newMemory _ ht => exact Nat.le_of_eq (by rw [ht])
  | madeHandler _ _ _ _ _ _ _ _ hhandlers =>
      rw [hhandlers, Array.size_push]
      exact Nat.le_succ _
  | copiedHandler _ _ _ _ _ hhandlers =>
      rw [hhandlers, Array.size_push]
      exact Nat.le_succ _
  | editedHandler _ _ _ _ _ _ _ _ hhandlers =>
      exact Nat.le_of_eq (by rw [hhandlers, Array.size_setIfInBounds])
  | logged _ honly =>
      rcases honly with ⟨_, _, _, ht⟩
      exact Nat.le_of_eq (by rw [ht])

/-- The handler of a new pipeline is there. -/
theorem wired_configure {s : Session} (hs : s.Wired) (label : Value) (logger : Option LoggerId)
    (level : Value) : ((Action.configurePipeline label logger level).runOn s).2.Wired := by
  -- Making the handler is an operation, and it is looked up before it becomes the one of
  -- the pipeline.
  have hmade : ((Action.makeHandler label logger level (.map [])).runOn s).2.Wired := by
    have hafter := wired_afterOp hs (.makeHandler label logger level (.map []))
    rw [afterOp, Operation.perform, Action.runOn_then_true] at hafter
    exact hafter
  refine Action.holds_after_bind hmade fun id t hid => ?_
  rw [hid] at hmade
  refine Action.holds_after_bind (by rwa [Action.runOn_handler_snd]) fun h after hhandler => ?_
  rcases Action.runOn_handler_ok hhandler with ⟨hh, rfl⟩
  have hindex : id.index < after.handlers.size := (Array.getElem?_eq_some_iff.mp hh).1
  exact wired_of_handlers hmade.fresh rfl (fun p hp => Option.some.inj hp ▸ hindex) hmade.bounds

theorem wiredIn_cleared {s : Session} {b : BoundLogger} (hb : b.WiredIn s) :
    b.cleared.WiredIn s :=
  ⟨Metadata.distinct_nil, hb.has⟩

theorem distinct_unbindKeys {keys : List String} {m rest : Metadata} (hm : m.Distinct)
    (h : BoundLogger.unbindKeys keys m = .ok rest) : rest.Distinct := by
  induction keys generalizing m with
  | nil => exact Except.ok.inj h ▸ hm
  | cons key keys ih =>
      rw [BoundLogger.unbindKeys] at h
      by_cases hkey : Metadata.has m key = true
      · rw [if_pos hkey] at h
        exact ih (Metadata.distinct_erase hm key) h
      · rw [if_neg hkey] at h
        exact absurd h (by simp only [reduceCtorEq, not_false_eq_true])

/-- What is derived binds no key twice and keeps the pipeline of the moment. -/
theorem wiredIn_apply {s : Session} (hs : s.Wired) {b new : BoundLogger} (hb : b.WiredIn s)
    {how : Derivation} (hnew : how.apply b s = .ok new) : new.WiredIn s := by
  have hhas : ∀ p, b.pipelineIn s = some p → s.Has p := fun _ hp => has_of_pipelineIn hs hb hp
  cases how with
  | bind values =>
      rw [← Except.ok.inj hnew]
      exact ⟨Metadata.distinct_merge hb.distinct values, hhas⟩
  | fresh values =>
      rw [← Except.ok.inj hnew]
      exact ⟨Metadata.distinct_merge hb.distinct values, hhas⟩
  | unbind keys =>
      rcases exists_of_map_eq_ok hnew with ⟨rest, hrest, rfl⟩
      exact ⟨distinct_unbindKeys hb.distinct hrest, hhas⟩
  | tryUnbind keys =>
      rw [← Except.ok.inj hnew]
      exact ⟨Metadata.distinct_without hb.distinct keys, hhas⟩

/-- Before a derivation at most the bound values of a logger are forgotten. -/
theorem wired_clearBound {s : Session} (hs : s.Wired) (l : StructuredLogger) :
    ((Action.clearBound l).runOn s).2.Wired := by
  cases l with
  | requested => exact hs
  | derived id =>
      refine wired_of_handlers hs.fresh rfl hs.has fun b hb => ?_
      rcases Array.mem_iff_getElem.mp hb with ⟨i, hi, rfl⟩
      have hsize : i < s.bounds.size := by
        rw [← Array.size_modify]
        exact hi
      have hold := hs.bounds s.bounds[i] (Array.getElem_mem hsize)
      -- One logger is cleared, and all others are as before.
      have hmodify := Array.getElem_modify hi
      by_cases hindex : id.index = i
      · rw [if_pos hindex] at hmodify
        exact hmodify ▸ wiredIn_cleared hold
      · rw [if_neg hindex] at hmodify
        exact hmodify ▸ hold

theorem wired_prepare {s : Session} (hs : s.Wired) (how : Derivation) (l : StructuredLogger) :
    ((how.prepare l).runOn s).2.Wired := by
  cases how with
  | fresh values =>
      refine Action.holds_after_bind hs fun _ t hcheck => ?_
      rw [← show s = t from congrArg Prod.snd hcheck]
      exact wired_clearBound hs l
  | _ => exact hs

theorem wired_addBound {s : Session} (hs : s.Wired) {new : BoundLogger} (hnew : new.WiredIn s) :
    ((StructuredLogger.derived <$> Action.addBound new).runOn s).2.Wired := by
  refine wired_of_handlers hs.fresh rfl hs.has fun b hb => ?_
  rcases Array.mem_push.mp hb with hbefore | rfl
  · exact hs.bounds b hbefore
  · exact hnew

theorem wired_derive {s : Session} (hs : s.Wired) (l : StructuredLogger) (how : Derivation) :
    ((Action.derive l how).runOn s).2.Wired := by
  -- The session is changed first and last. What is between finds the logger and derives
  -- from it, or fails.
  have hprepared := wired_prepare hs how l
  rw [Action.derive_eq]
  refine Action.holds_after_bind hprepared fun _ t ht => ?_
  rw [ht] at hprepared
  have hsame := wired_of_setup hprepared (Action.keeps_boundLogger l t)
  refine Action.holds_after_bind hsame fun b t' hb => ?_
  rcases Action.runOn_boundLogger_ok hb with ⟨hb, rfl⟩
  have hwired : b.WiredIn t' := wiredIn_of_boundIn hprepared hb
  refine Action.holds_after_bind hprepared fun _ _ hget => ?_
  rw [Action.runOn_get, Prod.mk.injEq, Except.ok.injEq] at hget
  rcases hget with ⟨rfl, rfl⟩
  refine Action.holds_after_bind hprepared fun new _ hnew => ?_
  rw [Action.runOn_ofExcept, Prod.mk.injEq] at hnew
  rcases hnew with ⟨hnew, rfl⟩
  exact wired_addBound hprepared (wiredIn_apply hprepared hwired hnew)

/-- Whatever a step does, the session stays wired. -/
theorem wired_afterStep (s : Session) (step : Step) (hs : s.Wired) : (s.afterStep step).Wired := by
  cases step with
  | operation op =>
      have hperform : Action.Preserves Wired op.perform := fun t ht => wired_afterOp ht op
      exact Action.preserves_then hperform () s hs
  | configure label logger level =>
      have hconfigure : Action.Preserves Wired (Action.configurePipeline label logger level) :=
        fun t ht => wired_configure ht label logger level
      exact Action.preserves_then hconfigure () s hs
  | derive l how =>
      have hderive : Action.Preserves Wired (Action.derive l how) :=
        fun t ht => wired_derive ht l how
      exact Action.preserves_then hderive () s hs
  | emit l how message args values site exception =>
      have hkeeps := Action.keeps_emitStructured l how message args values site exception
      exact wired_of_setup hs (hkeeps s)
  | bindAmbient values => exact wired_of_setup hs rfl
  | unbindAmbient keys => exact wired_of_setup hs rfl
  | makeRecordHandler logger level name sourceLevel =>
      have hkeeps := Action.keeps_makeRecordHandler logger level name sourceLevel
      exact wired_of_setup hs (Action.keeps_then hkeeps () s)
  | record h level created body =>
      have hkeeps := Action.keeps_emit h level created body
      exact wired_of_setup hs (Action.keeps_then hkeeps () s)

/-- Whatever a program has done, its session is wired. -/
theorem wired_of_reached {s : Session} (hs : s.Reached) : s.Wired := by
  rcases hs with ⟨now, plain, steps, rfl⟩
  exact afterSteps_induction wired_afterStep (start now plain) steps (wired_start now plain)

end Session

end TextLog
