import TextLog.Proofs.Handler.Items
import TextLog.Proofs.Session.Program

/-!
# Handlers by Reference

Handlers that refer to mappings which are changed in place.

A handler need not hold its metadata itself, but may refer to a mapping. An item is then
assigned in that mapping, where whoever refers to it would see the change. The handler takes
a fresh mapping with the same items afterwards, and so does whatever is made of them.

No two handlers refer to the same mapping (`Heap.Apart`), and every operation keeps it that
way, because a handler that is made, copied or assigned to refers to a mapping that was not
there before. A change in place is one for a single handler then. So handlers by reference
look at all times like handlers that hold their metadata themselves (`view_after`).

## Main definitions

* `Holder`, `Heap`: Handlers that refer to mappings, and the mappings.
* `Heap.changeItems`, `Heap.edit`, `Heap.copy`: Assignments and copies.
* `Heap.view`: What the handlers look like.
* `Heap.Apart`: No two handlers refer to the same mapping.
* `Heap.afterOp`, `Heap.after`: What operations of a session do.

## Theorems

* `apart_set`, `view_set`: A handler that is put in its place.
* `view_changeItems`: A change in place is one for a single handler.
* `view_edit`, `view_add`: Assignments and new handlers.
* `runOn_copyHandler`: A copy is there beside the original.
* `view_afterOp`, `view_after`: Handlers by reference look like handlers that are values.
-/

namespace TextLog

open Time

/-- A handler that refers to a mapping. -/
structure Holder where
  label : Value
  logger : LoggerId
  level : Severity
  mapping : Nat
  pretty : Option String

/-- Mappings, which can be changed in place, and handlers that refer to them. -/
structure Heap where
  mappings : Array Metadata
  holders : Array Holder

namespace Heap

/-- No handlers and no mappings. -/
def empty : Heap :=
  ⟨#[], #[]⟩

/-- The mapping behind a reference. -/
def mapping (x : Heap) (index : Nat) : Metadata :=
  x.mappings[index]?.getD []

/-- What a handler looks like. -/
def handlerOf (x : Heap) (g : Holder) : Handler :=
  ⟨g.label, g.logger, g.level, x.mapping g.mapping, g.pretty⟩

/-- What the handlers look like. -/
def view (x : Heap) : Array Handler :=
  x.holders.map x.handlerOf

/-- Puts a handler in the place of another one. -/
def put (x : Heap) (id : HandlerId) (g : Holder) : Heap :=
  { x with holders := x.holders.setIfInBounds id.index g }

/-- The handler takes a fresh mapping with the items of another one, and renders it. -/
def take (x : Heap) (id : HandlerId) (g : Holder) (m : Metadata) : Heap :=
  { x with mappings := x.mappings.push m }.put id
    { g with mapping := x.mappings.size, pretty := m.pretty }

/-- Changes a mapping in place. -/
def change (x : Heap) (index : Nat) (f : Metadata → Metadata) : Heap :=
  { x with mappings := x.mappings.modify index f }

/-- Changes the mapping of a handler in place. The handler takes a fresh one then. -/
def changeItems (x : Heap) (id : HandlerId) (g : Holder) (f : Metadata → Metadata) : Heap :=
  (x.change g.mapping f).take id g ((x.change g.mapping f).mapping g.mapping)

/-- What an assignment to a handler leaves, whether it succeeds or fails. -/
def edit (x : Heap) (id : HandlerId) (g : Holder) : HandlerEdit → Heap
  | .level v =>
    match Severity.parse v with
    | .ok severity => x.put id { g with level := severity }
    | .error _ => x
  | .metadata v =>
    match Metadata.ofValue v with
    | .ok m => x.take id g m
    | .error _ => x
  | .item key .null => x.changeItems id g (Metadata.erase · key)
  | .item key v => x.changeItems id g (Metadata.set · key v)
  | .delete key =>
    if Metadata.has (x.mapping g.mapping) key then x.changeItems id g (Metadata.erase · key) else x
  | .label v => x.put id { g with label := v }
  | .logger backend => x.put id { g with logger := backend }
  | .derived _ => x

/-- Adds a handler with a fresh mapping. -/
def add (x : Heap) (label : Value) (logger : LoggerId) (level : Severity) (m : Metadata) : Heap :=
  ⟨x.mappings.push m, x.holders.push ⟨label, logger, level, x.mappings.size, m.pretty⟩⟩

/-- Adds a copy of a handler. -/
def copy (x : Heap) (g : Holder) : Heap :=
  x.add g.label g.logger g.level (x.mapping g.mapping)

/-- No two handlers refer to the same mapping, and all refer to one that is there. -/
structure Apart (x : Heap) : Prop where
  inside : ∀ {i : Nat} {g : Holder}, x.holders[i]? = some g → g.mapping < x.mappings.size
  apart : ∀ {i j : Nat} {g g' : Holder}, x.holders[i]? = some g → x.holders[j]? = some g' →
    g.mapping = g'.mapping → i = j

theorem apart_empty : empty.Apart where
  inside h := absurd h (by simp only [empty, List.getElem?_toArray, List.getElem?_nil,
    reduceCtorEq, not_false_eq_true])
  apart h := absurd h (by simp only [empty, List.getElem?_toArray, List.getElem?_nil,
    reduceCtorEq, not_false_eq_true])

theorem view_empty : empty.view = #[] :=
  Array.map_empty

variable {x : Heap} {id : HandlerId} {g : Holder}

/-! ### A handler in its place -/

/-- Handlers stay apart if one is put in its place that refers to no mapping of the others. -/
theorem apart_set (hx : x.Apart) {mappings : Array Metadata} {g' : Holder}
    (hsize : x.mappings.size ≤ mappings.size) (hinside : g'.mapping < mappings.size)
    (hothers : ∀ {i : Nat} {other : Holder}, i ≠ id.index → x.holders[i]? = some other →
      other.mapping ≠ g'.mapping) :
    Apart ⟨mappings, x.holders.setIfInBounds id.index g'⟩ := by
  have hcases : ∀ {i : Nat} {other : Holder},
      (x.holders.setIfInBounds id.index g')[i]? = some other →
        (i = id.index ∧ other = g') ∨ (i ≠ id.index ∧ x.holders[i]? = some other) := by
    intro i other h
    rw [Array.getElem?_setIfInBounds] at h
    by_cases hid : id.index = i
    · rw [if_pos hid] at h
      split at h
      · exact Or.inl ⟨hid.symm, (Option.some.inj h).symm⟩
      · exact absurd h (by simp only [reduceCtorEq, not_false_eq_true])
    · rw [if_neg hid] at h
      exact Or.inr ⟨Ne.symm hid, h⟩
  constructor
  · intro i other h
    rcases hcases h with ⟨_, rfl⟩ | ⟨_, hother⟩
    · exact hinside
    · exact Nat.lt_of_lt_of_le (hx.inside hother) hsize
  · intro i j first second hfirst hsecond hsame
    rcases hcases hfirst with ⟨hi, rfl⟩ | ⟨hi, hold⟩
    · rcases hcases hsecond with ⟨hj, rfl⟩ | ⟨hj, hold'⟩
      · exact hi.trans hj.symm
      · exact absurd hsame.symm (hothers hj hold')
    · rcases hcases hsecond with ⟨_, rfl⟩ | ⟨_, hold'⟩
      · exact absurd hsame (hothers hi hold)
      · exact hx.apart hold hold' hsame

/-- The other handlers look as before if their mappings are as before. -/
theorem view_set {mappings : Array Metadata} {g' : Holder}
    (hothers : ∀ {i : Nat} {other : Holder}, i ≠ id.index → x.holders[i]? = some other →
      mappings[other.mapping]? = x.mappings[other.mapping]?) :
    view ⟨mappings, x.holders.setIfInBounds id.index g'⟩ =
      x.view.setIfInBounds id.index (handlerOf ⟨mappings, x.holders⟩ g') := by
  refine Array.ext_getElem? fun i => ?_
  rw [view, Array.getElem?_map, Array.getElem?_setIfInBounds, Array.getElem?_setIfInBounds, view,
    Array.size_map, Array.getElem?_map]
  by_cases hid : id.index = i
  · rw [if_pos hid, if_pos hid]
    split <;> rfl
  · rw [if_neg hid, if_neg hid]
    cases hother : x.holders[i]? with
    | none => rfl
    | some other =>
        simp only [Option.map_some, handlerOf, mapping, hothers (Ne.symm hid) hother]

theorem apart_put (hx : x.Apart) (hg : x.holders[id.index]? = some g) {g' : Holder}
    (hsame : g'.mapping = g.mapping) : (x.put id g').Apart := by
  refine apart_set hx (Nat.le_refl _) (hsame ▸ hx.inside hg) fun hi hother heq => ?_
  exact hi (hx.apart hother hg (heq.trans hsame))

theorem view_put (x : Heap) (id : HandlerId) (g' : Holder) :
    (x.put id g').view = x.view.setIfInBounds id.index (x.handlerOf g') :=
  view_set fun _ _ => rfl

/-! ### Mappings -/

theorem apart_take (hx : x.Apart) (id : HandlerId) (g : Holder) (m : Metadata) :
    (x.take id g m).Apart := by
  refine apart_set hx ?_ ?_ fun _ hother => Nat.ne_of_lt (hx.inside hother)
  · rw [Array.size_push]
    exact Nat.le_succ _
  · rw [Array.size_push]
    exact Nat.lt_succ_self _

/-- A fresh mapping is none of the others. -/
theorem view_take (hx : x.Apart) (id : HandlerId) (g : Holder) (m : Metadata) :
    (x.take id g m).view = x.view.setIfInBounds id.index ((x.handlerOf g).withMetadata m) := by
  refine (view_set (x := x) fun _ hother => ?_).trans ?_
  · rw [Array.getElem?_push, if_neg (Nat.ne_of_lt (hx.inside hother))]
  · rw [handlerOf, mapping, Array.getElem?_push_size]
    rfl

theorem apart_change (hx : x.Apart) (index : Nat) (f : Metadata → Metadata) :
    (x.change index f).Apart where
  inside h := by
    rw [change, Array.size_modify]
    exact hx.inside h
  apart := hx.apart

theorem mapping_change (hx : x.Apart) (hg : x.holders[id.index]? = some g)
    (f : Metadata → Metadata) :
    (x.change g.mapping f).mapping g.mapping = f (x.mapping g.mapping) := by
  rw [mapping, change, Array.getElem?_modify, if_pos rfl, mapping,
    Array.getElem?_eq_getElem (hx.inside hg)]
  rfl

/-- A change of a mapping in place is seen by the one handler that refers to it. -/
theorem view_change (hx : x.Apart) (hg : x.holders[id.index]? = some g)
    (f : Metadata → Metadata) :
    (x.change g.mapping f).view = x.view.setIfInBounds id.index
      { x.handlerOf g with metadata := f (x.mapping g.mapping) } := by
  have hself : x.change g.mapping f =
      ⟨x.mappings.modify g.mapping f, x.holders.setIfInBounds id.index g⟩ := by
    rw [setIfInBounds_self hg, change]
  have hchanged := mapping_change hx hg f
  rw [hself, view_set fun hi hother => ?_]
  · rw [mapping, change] at hchanged
    rw [handlerOf, mapping, hchanged]
    rfl
  · rw [Array.getElem?_modify, if_neg fun heq => hi (hx.apart hother hg heq.symm)]

theorem apart_changeItems (hx : x.Apart) (id : HandlerId) (g : Holder)
    (f : Metadata → Metadata) : (x.changeItems id g f).Apart :=
  apart_take (apart_change hx g.mapping f) id g _

/-- A change of items in place, followed by a fresh mapping, is an assignment to the handler
    alone. -/
theorem view_changeItems (hx : x.Apart) (hg : x.holders[id.index]? = some g)
    (f : Metadata → Metadata) :
    (x.changeItems id g f).view = x.view.setIfInBounds id.index
      ((x.handlerOf g).withMetadata (f (x.handlerOf g).metadata)) := by
  rw [changeItems, view_take (apart_change hx g.mapping f), view_change hx hg,
    Array.setIfInBounds_setIfInBounds, mapping_change hx hg]
  rfl

/-- Two handlers that refer to the same mapping see each other's changes. -/
example :
    let g : Holder := ⟨.text "db", ⟨0⟩, .info, 0, some "a=1"⟩
    let x : Heap := ⟨#[[("a", .text "1")]], #[g, g]⟩
    x.holders[1]? = some g ∧
      ((x.changeItems ⟨0⟩ g (Metadata.erase · "a")).handlerOf g).metadata = [] :=
  ⟨rfl, rfl⟩

/-! ### Assignments -/

theorem view_getElem? (hg : x.holders[id.index]? = some g) :
    x.view[id.index]? = some (x.handlerOf g) := by
  rw [view, Array.getElem?_map, hg, Option.map_some]

theorem apart_edit (hx : x.Apart) (hg : x.holders[id.index]? = some g) (e : HandlerEdit) :
    (x.edit id g e).Apart := by
  cases e with
  | level v =>
      rw [edit]
      split
      · exact apart_put hx hg rfl
      · exact hx
  | metadata v =>
      rw [edit]
      split
      · exact apart_take hx id g _
      · exact hx
  | item key v =>
      cases v with
      | null => exact apart_changeItems hx id g _
      | _ => exact apart_changeItems hx id g _
  | delete key =>
      rw [edit]
      split
      · exact apart_changeItems hx id g _
      · exact hx
  | label v => exact apart_put hx hg rfl
  | logger backend => exact apart_put hx hg rfl
  | derived name => exact hx

/-- An assignment does to a handler that refers to its metadata what it does to one that
    holds them. -/
theorem view_edit (hx : x.Apart) (hg : x.holders[id.index]? = some g) (e : HandlerEdit) :
    (x.edit id g e).view =
      x.view.setIfInBounds id.index ((x.handlerOf g).assign e) := by
  have hself := (setIfInBounds_self (view_getElem? hg)).symm
  cases e with
  | level v =>
      rw [edit, Handler.assign, Handler.edit]
      cases Severity.parse v with
      | ok severity => exact view_put x id _
      | error failure => exact hself
  | metadata v =>
      rw [edit, Handler.assign, Handler.edit]
      cases Metadata.ofValue v with
      | ok m => exact view_take hx id g m
      | error failure => exact hself
  | item key v =>
      cases v with
      | null => exact view_changeItems hx hg _
      | _ => exact view_changeItems hx hg _
  | delete key =>
      rw [edit, Handler.assign, Handler.edit]
      by_cases hkey : Metadata.has (x.mapping g.mapping) key = true
      · rw [if_pos hkey, handlerOf, if_pos hkey]
        exact view_changeItems hx hg _
      · rw [if_neg hkey, handlerOf, if_neg hkey]
        exact hself
  | label v => exact view_put x id _
  | logger backend => exact view_put x id _
  | derived name => exact hself

/-! ### New handlers -/

/-- What is there after a handler was added is that handler or was there before. -/
theorem getElem?_holders_add {label : Value} {logger : LoggerId} {level : Severity} {m : Metadata}
    {i : Nat} (h : (x.add label logger level m).holders[i]? = some g) :
    (i = x.holders.size ∧ g.mapping = x.mappings.size) ∨ x.holders[i]? = some g := by
  rw [add, Array.getElem?_push] at h
  by_cases hi : i = x.holders.size
  · rw [if_pos hi] at h
    exact Or.inl ⟨hi, (congrArg Holder.mapping (Option.some.inj h)).symm⟩
  · rw [if_neg hi] at h
    exact Or.inr h

theorem apart_add (hx : x.Apart) (label : Value) (logger : LoggerId) (level : Severity)
    (m : Metadata) : (x.add label logger level m).Apart := by
  have hsize : (x.add label logger level m).mappings.size = x.mappings.size + 1 :=
    Array.size_push _
  constructor
  · intro i first h
    rw [hsize]
    rcases getElem?_holders_add h with ⟨_, hfresh⟩ | hold
    · exact hfresh ▸ Nat.lt_succ_self _
    · exact Nat.lt_succ_of_lt (hx.inside hold)
  · intro i j first second hfirst hsecond hsame
    rcases getElem?_holders_add hfirst with ⟨hi, hfresh⟩ | hold
    · rcases getElem?_holders_add hsecond with ⟨hj, _⟩ | hold'
      · exact hi.trans hj.symm
      · exact absurd (hsame.symm.trans hfresh) (Nat.ne_of_lt (hx.inside hold'))
    · rcases getElem?_holders_add hsecond with ⟨_, hfresh⟩ | hold'
      · exact absurd (hsame.trans hfresh) (Nat.ne_of_lt (hx.inside hold))
      · exact hx.apart hold hold' hsame

theorem view_add (hx : x.Apart) (label : Value) (logger : LoggerId) (level : Severity)
    (m : Metadata) :
    (x.add label logger level m).view = x.view.push (.ofParts label logger level m) := by
  have hnew : (x.add label logger level m).handlerOf
      ⟨label, logger, level, x.mappings.size, m.pretty⟩ = .ofParts label logger level m := by
    rw [handlerOf, mapping, add, Array.getElem?_push_size]
    rfl
  have hold : x.holders.map (x.add label logger level m).handlerOf = x.view := by
    refine Array.map_congr_left fun g hg => ?_
    rcases Array.getElem?_of_mem hg with ⟨i, hi⟩
    simp only [handlerOf, mapping, add, Array.getElem?_push,
      if_neg (Nat.ne_of_lt (hx.inside hi))]
  rw [view, show (x.add label logger level m).holders = x.holders.push _ from rfl, Array.map_push,
    hold, hnew]

/-! ### Operations -/

/-- The logger that a handler is made with: the given one, or the shared one. -/
def backend? (s : Session) : Option LoggerId → Option LoggerId
  | some id => some id
  | none => (Action.sharedLogger.runOn s).1.toOption

/-- What an operation of a session leaves, whether it succeeds or fails. -/
def afterOp (x : Heap) (s : Session) : Operation → Heap
  | .makeHandler label logger level metadata =>
    match (backend? s logger).map fun id => Handler.make label id level metadata with
    | some (.ok h) => x.add h.label h.logger h.level h.metadata
    | _ => x
  | .editHandler id e =>
    match x.holders[id.index]? with
    | some g => x.edit id g e
    | none => x
  | .copyHandler id =>
    match x.holders[id.index]? with
    | some g => x.copy g
    | none => x
  | _ => x

/-- What operations leave, one after the other. -/
def after (x : Heap) (s : Session) : List Operation → Heap
  | [] => x
  | op :: ops => (x.afterOp s op).after (s.afterOp op) ops

end Heap

namespace Session

theorem handlers_afterOp_of_not_isHandling {s : Session} {op : Operation}
    (hop : op.isHandling = false) : (s.afterOp op).handlers = s.handlers :=
  congrArg Prod.snd (Action.keeps_setup_perform hop s)

/-- A copy is there beside the original. -/
theorem runOn_copyHandler {s : Session} {id : HandlerId} {h : Handler}
    (hh : s.handler? id = some h) :
    (Operation.copyHandler id).perform.runOn s =
      (.ok true, { s with handlers := s.handlers.push h.copy }) := by
  rw [Operation.perform, Action.runOn_bind_ok (Action.runOn_handler id h s hh)]
  exact Action.runOn_bind_ok (Action.runOn_addHandler h.copy s) _

theorem afterOp_copyHandler_none {s : Session} {id : HandlerId} (hh : s.handler? id = none) :
    s.afterOp (.copyHandler id) = s := by
  rw [afterOp, Operation.perform, Action.runOn_bind_error (Action.runOn_handler_none id s hh)]

/-- A handler that is made comes behind the others. -/
theorem exists_handlers_afterOp_makeHandler (s : Session) (label : Value)
    (logger : Option LoggerId) (level metadata : Value) :
    ∃ id, Heap.backend? s logger = some id ∧
      (s.afterOp (.makeHandler label logger level metadata)).handlers =
        match Handler.make label id level metadata with
        | .ok h => s.handlers.push h
        | .error _ => s.handlers := by
  rw [afterOp, Operation.perform, Action.runOn_then_true]
  cases logger with
  | some id =>
      refine ⟨id, rfl, ?_⟩
      rw [Action.runOn_makeHandler_given]
      cases Handler.make label id level metadata <;> rfl
  | none =>
      rcases Action.runOn_sharedLogger s with ⟨id, loggers, shared, hs⟩
      refine ⟨id, by rw [Heap.backend?, hs]; rfl, ?_⟩
      have hmade : (Action.makeHandler label none level metadata).runOn s =
          (Action.makeHandler label (some id) level metadata).runOn
            { s with loggers := loggers, shared := shared } := Action.runOn_bind_ok hs _
      rw [hmade, Action.runOn_makeHandler_given]
      cases Handler.make label id level metadata <;> rfl

end Session

namespace Heap

variable {x : Heap} {s : Session}

theorem handler?_of_view (hview : x.view = s.handlers) (id : HandlerId) :
    s.handler? id = (x.holders[id.index]?).map x.handlerOf := by
  rw [Session.handler?, ← hview, view, Array.getElem?_map]

theorem apart_afterOp (hx : x.Apart) (s : Session) (op : Operation) : (x.afterOp s op).Apart := by
  cases op with
  | makeHandler label logger level metadata =>
      rw [afterOp]
      split
      · exact apart_add hx _ _ _ _
      · exact hx
  | editHandler id e =>
      rw [afterOp]
      split
      · exact apart_edit hx ‹_› e
      · exact hx
  | copyHandler id =>
      rw [afterOp]
      split
      · exact apart_add hx _ _ _ _
      · exact hx
  | _ => exact hx

/-- Handlers by reference look like those of a session after an operation if they do so
    before. -/
theorem view_afterOp (hx : x.Apart) (hview : x.view = s.handlers) (op : Operation) :
    (x.afterOp s op).view = (s.afterOp op).handlers := by
  cases op with
  | makeHandler label logger level metadata =>
      rcases s.exists_handlers_afterOp_makeHandler label logger level metadata with
        ⟨id, hbackend, hhandlers⟩
      rw [afterOp, hbackend, Option.map_some, hhandlers]
      cases hmade : Handler.make label id level metadata with
      | error failure => exact hview
      | ok h =>
          have hfresh : Handler.ofParts h.label h.logger h.level h.metadata = h := by
            rw [Handler.ofParts, ← show h.pretty = _ from Handler.fresh_make hmade]
          exact (view_add hx _ _ _ _).trans (by rw [hfresh, hview])
  | editHandler id e =>
      have hfound := handler?_of_view hview id
      rw [afterOp]
      cases hg : x.holders[id.index]? with
      | none =>
          rw [hg] at hfound
          rw [Session.afterOp_editHandler_none hfound]
          exact hview
      | some g =>
          rw [hg] at hfound
          rw [Session.handlers_afterOp_editHandler hfound, ← hview]
          exact view_edit hx hg e
  | copyHandler id =>
      have hfound := handler?_of_view hview id
      rw [afterOp]
      cases hg : x.holders[id.index]? with
      | none =>
          rw [hg] at hfound
          rw [Session.afterOp_copyHandler_none hfound]
          exact hview
      | some g =>
          rw [hg] at hfound
          rw [Session.afterOp, Session.runOn_copyHandler hfound, ← hview]
          exact view_add hx _ _ _ _
  | _ => exact hview.trans (Session.handlers_afterOp_of_not_isHandling rfl).symm

/-- Handlers by reference stay apart, and look at all times like those of a session. -/
theorem view_after (hx : x.Apart) (hview : x.view = s.handlers) (ops : List Operation) :
    (x.after s ops).Apart ∧ (x.after s ops).view = (s.after ops).handlers := by
  induction ops generalizing x s with
  | nil => exact ⟨hx, hview⟩
  | cons op ops ih => exact ih (apart_afterOp hx s op) (view_afterOp hx hview op)

end Heap

end TextLog
