import TextLog.Proofs.Handler.Freshness
import TextLog.Proofs.Metadata.Keys

/-!
# Items of Handlers

The metadata of a handler are an ordered mapping.

Metadata change key by key, and as a whole. A key can be taken away in two ways, by
deleting it, which fails if it is not there, and by giving it the value null, which then
does nothing; and a value that is null can still come in with metadata that are assigned
as a whole. The order of the keys is seen in lines, so it matters as much as the values
do. `Handler.WellKept` says that no key is there twice and that the kept text is that of
the metadata: it holds of a handler that is made and every assignment keeps it, whether it
succeeds or fails. What a key holds is then what was last given to it with success
(`item_assignAll`), and what one more operation on a key does to its place and to the
other keys is said by `Handler.Rearranges`.

A value that is a map has no key twice, which is asked of the values that are assigned.

## Main definitions

* `Value.HasDistinctKeys`: A value that has no key twice if it is a map.
* `HandlerEdit.given?`, `HandlerEdit.lastGiven?`: What assignments give to a key.
* `Handler.assign`, `Handler.assignAll`: Assignments one after the other.
* `Handler.successes`: Those of them that succeed.
* `Handler.WellKept`: Distinct keys and a kept text that is theirs.
* `Handler.Rearranges`: What operations on one key do to a handler.

## Theorems

* `distinct_ofValue`: Metadata that a value stands for have no key twice.
* `wellKept_make`, `wellKept_edit`, `wellKept_assignAll`: Handlers stay well kept.
* `item_of_edit_eq_ok`, `item_assignAll`: What a key holds.
* `edit_item`, `edit_null`, `edit_delete`: Operations on one key.
* `rearranges_of_wellKept`: What becomes of the order of keys.
* `handlers_afterOp_editHandler`, `handler?_after_editHandler`: Assignments in a session.
* `items_are_ordered`: Handlers as ordered mappings.
-/

namespace TextLog

open Time

/-- A value that has no key twice if it is a map. -/
def Value.HasDistinctKeys : Value → Prop
  | .map entries => Metadata.Distinct entries
  | _ => True

/-- The value that a successful assignment gives to a key, if it is one to that key or to
    all of them. A key that is taken away is null then. -/
def HandlerEdit.given? (key : String) : HandlerEdit → Option Value
  | .item k v => if k = key then some v else none
  | .delete k => if k = key then some .null else none
  | .metadata v => (Metadata.ofValue v).toOption.map fun m => (Metadata.get? m key).getD .null
  | _ => none

/-- The last value that assignments give to a key. -/
def HandlerEdit.lastGiven? (es : List HandlerEdit) (key : String) : Option Value :=
  (es.filterMap (HandlerEdit.given? key)).getLast?

namespace Handler

/-- The handler that an assignment leaves, whether it succeeds or fails. -/
def assign (h : Handler) (e : HandlerEdit) : Handler :=
  match h.edit e with
  | .ok edited => edited
  | .error _ => h

/-- The handler that assignments leave one after the other. -/
def assignAll (h : Handler) (es : List HandlerEdit) : Handler :=
  es.foldl assign h

/-- The assignments that succeed when they are made one after the other. -/
def successes (h : Handler) : List HandlerEdit → List HandlerEdit
  | [] => []
  | e :: es =>
    match h.edit e with
    | .ok edited => e :: edited.successes es
    | .error _ => h.successes es

theorem assignAll_cons (h : Handler) (e : HandlerEdit) (es : List HandlerEdit) :
    h.assignAll (e :: es) = (h.assign e).assignAll es := rfl

theorem assign_of_edit_eq_ok {h edited : Handler} {e : HandlerEdit}
    (hedit : h.edit e = .ok edited) : h.assign e = edited := by
  rw [assign, hedit]

theorem assign_of_edit_eq_error {h : Handler} {e : HandlerEdit} {failure : Failure}
    (hedit : h.edit e = .error failure) : h.assign e = h := by
  rw [assign, hedit]

/-! ### Operations on one key -/

/-- A value that is not null is set. -/
theorem edit_item (h : Handler) (key : String) {v : Value} (hv : v ≠ .null) :
    h.edit (.item key v) = .ok (h.withMetadata (Metadata.set h.metadata key v)) := by
  cases v with
  | null => exact absurd rfl hv
  | _ => rfl

/-- Null takes the key away. -/
theorem edit_null (h : Handler) (key : String) :
    h.edit (.item key .null) = .ok (h.withMetadata (Metadata.erase h.metadata key)) := rfl

/-- A key that is there is taken away, and deleting another one fails. -/
theorem edit_delete (h : Handler) (key : String) :
    h.edit (.delete key) =
      if key ∈ h.metadata.map Prod.fst then
        .ok (h.withMetadata (Metadata.erase h.metadata key))
      else .error (.missingKey key) := by
  have hiff := Metadata.get?_eq_none_iff_not_mem_keys h.metadata key
  rw [edit, Metadata.has]
  by_cases hkey : key ∈ h.metadata.map Prod.fst
  · cases hfound : Metadata.get? h.metadata key with
    | none => exact absurd hkey (hiff.mp hfound)
    | some v => rw [if_pos hkey, Option.isSome_some, if_pos rfl]
  · rw [if_neg hkey, hiff.mpr hkey, Option.isSome_none, if_neg Bool.false_ne_true]

end Handler

namespace Metadata

/-! ### Metadata from values -/

theorem distinct_setPairs {m m' : Metadata} {index : Nat} {pairs : List Value} (hm : m.Distinct)
    (h : setPairs m index pairs = .ok m') : m'.Distinct := by
  induction pairs generalizing m index with
  | nil =>
      rw [setPairs, Except.ok.injEq] at h
      exact h ▸ hm
  | cons v rest ih =>
      rw [setPairs] at h
      split at h
      · exact absurd h (by simp only [reduceCtorEq, not_false_eq_true])
      · rcases exists_of_bind_eq_ok h with ⟨k, _, hrest⟩
        exact ih (distinct_set hm k _) hrest
      · exact absurd h (by simp only [reduceCtorEq, not_false_eq_true])

/-- Metadata that a value stands for have no key twice, from whatever it was read. -/
theorem distinct_ofValue {v : Value} {m : Metadata} (hv : v.HasDistinctKeys)
    (h : ofValue v = .ok m) : m.Distinct := by
  unfold ofValue at h
  split at h
  · exact Except.ok.inj h ▸ hv
  · split at h
    · exact distinct_setPairs distinct_nil h
    · exact absurd h (by simp only [reduceCtorEq, not_false_eq_true])

end Metadata

namespace Handler

/-! ### Well-kept handlers -/

/-- No key is there twice, and the kept text is that of the metadata. -/
structure WellKept (h : Handler) : Prop where
  distinct : h.metadata.Distinct
  fresh : h.Fresh

theorem wellKept_make {label : Value} {logger : LoggerId} {level metadata : Value} {h : Handler}
    (hmetadata : metadata.HasDistinctKeys) (hmade : make label logger level metadata = .ok h) :
    h.WellKept := by
  refine ⟨?_, fresh_make hmade⟩
  rcases exists_of_bind_eq_ok hmade with ⟨severity, _, hmade⟩
  by_cases htruthy : metadata.truthy = true
  · rw [if_pos htruthy] at hmade
    rcases exists_of_map_eq_ok hmade with ⟨m, hm, rfl⟩
    exact Metadata.distinct_ofValue hmetadata hm
  · rw [if_neg htruthy, Except.ok.injEq] at hmade
    exact hmade ▸ Metadata.distinct_nil

theorem distinct_edit {h edited : Handler} {e : HandlerEdit} (hh : h.metadata.Distinct)
    (he : ∀ v, e = .metadata v → v.HasDistinctKeys) (hedit : h.edit e = .ok edited) :
    edited.metadata.Distinct := by
  cases e with
  | level v =>
      rcases exists_of_map_eq_ok hedit with ⟨severity, _, rfl⟩
      exact hh
  | metadata v =>
      rcases exists_of_map_eq_ok hedit with ⟨m, hm, rfl⟩
      exact Metadata.distinct_ofValue (he v rfl) hm
  | item key v =>
      by_cases hv : v = .null
      · rw [hv, edit_null, Except.ok.injEq] at hedit
        exact hedit ▸ Metadata.distinct_erase hh key
      · rw [edit_item h key hv, Except.ok.injEq] at hedit
        exact hedit ▸ Metadata.distinct_set hh key v
  | delete key =>
      rw [edit_delete] at hedit
      split at hedit
      · exact Except.ok.inj hedit ▸ Metadata.distinct_erase hh key
      · exact absurd hedit (by simp only [reduceCtorEq, not_false_eq_true])
  | derived name => exact absurd hedit (by simp only [edit, reduceCtorEq, not_false_eq_true])
  | _ =>
      rw [edit, Except.ok.injEq] at hedit
      exact hedit ▸ hh

theorem wellKept_edit {h edited : Handler} {e : HandlerEdit} (hh : h.WellKept)
    (he : ∀ v, e = .metadata v → v.HasDistinctKeys) (hedit : h.edit e = .ok edited) :
    edited.WellKept :=
  ⟨distinct_edit hh.distinct he hedit, fresh_edit hh.fresh hedit⟩

theorem wellKept_assign {h : Handler} {e : HandlerEdit} (hh : h.WellKept)
    (he : ∀ v, e = .metadata v → v.HasDistinctKeys) : (h.assign e).WellKept := by
  cases hedit : h.edit e with
  | ok edited =>
      rw [assign_of_edit_eq_ok hedit]
      exact wellKept_edit hh he hedit
  | error failure =>
      rw [assign_of_edit_eq_error hedit]
      exact hh

/-- Whatever is assigned, in any order and with failures among it, a handler stays well
    kept. -/
theorem wellKept_assignAll {h : Handler} {es : List HandlerEdit} (hh : h.WellKept)
    (hes : ∀ v, .metadata v ∈ es → v.HasDistinctKeys) : (h.assignAll es).WellKept := by
  induction es generalizing h with
  | nil => exact hh
  | cons e es ih =>
      exact ih (wellKept_assign hh fun v hv => hes v (hv ▸ List.mem_cons_self)) fun v hv =>
        hes v (List.mem_cons_of_mem e hv)

/-! ### What a key holds -/

/-- A successful assignment gives a key its value, or leaves the key as it is. -/
theorem item_of_edit_eq_ok {h edited : Handler} {e : HandlerEdit} (hh : h.metadata.Distinct)
    (hedit : h.edit e = .ok edited) (key : String) :
    edited.item key = (e.given? key).getD (h.item key) := by
  have herase : ∀ k, (h.withMetadata (Metadata.erase h.metadata k)).item key =
      (if k = key then some Value.null else none).getD (h.item key) := by
    intro k
    rw [item, withMetadata, Metadata.get?_erase hh]
    by_cases hk : k = key
    · rw [if_pos hk, if_pos hk]
      rfl
    · rw [if_neg hk, if_neg hk]
      rfl
  cases e with
  | level v =>
      rcases exists_of_map_eq_ok hedit with ⟨severity, _, rfl⟩
      rfl
  | metadata v =>
      rcases exists_of_map_eq_ok hedit with ⟨m, hm, rfl⟩
      rw [HandlerEdit.given?, hm]
      rfl
  | item k v =>
      by_cases hv : v = .null
      · rw [hv, edit_null, Except.ok.injEq] at hedit
        rw [← hedit, hv]
        exact herase k
      · rw [edit_item h k hv, Except.ok.injEq] at hedit
        rw [← hedit, item, withMetadata, Metadata.get?_set, HandlerEdit.given?]
        by_cases hk : k = key
        · rw [if_pos hk, if_pos hk]
          rfl
        · rw [if_neg hk, if_neg hk]
          rfl
  | delete k =>
      rw [edit_delete] at hedit
      split at hedit
      · rw [← Except.ok.inj hedit]
        exact herase k
      · exact absurd hedit (by simp only [reduceCtorEq, not_false_eq_true])
  | derived name => exact absurd hedit (by simp only [edit, reduceCtorEq, not_false_eq_true])
  | _ =>
      rw [edit, Except.ok.injEq] at hedit
      rw [← hedit]
      rfl

/-- A key holds what was last given to it with success, or what it held before. -/
theorem item_assignAll {h : Handler} {es : List HandlerEdit} (hh : h.WellKept)
    (hes : ∀ v, .metadata v ∈ es → v.HasDistinctKeys) (key : String) :
    (h.assignAll es).item key =
      (HandlerEdit.lastGiven? (h.successes es) key).getD (h.item key) := by
  induction es generalizing h with
  | nil => rfl
  | cons e es ih =>
      have hrest : ∀ v, .metadata v ∈ es → v.HasDistinctKeys :=
        fun v hv => hes v (List.mem_cons_of_mem e hv)
      have hfirst : (h.assign e).WellKept :=
        wellKept_assign hh fun v hv => hes v (hv ▸ List.mem_cons_self)
      rw [assignAll_cons, ih hfirst hrest]
      cases hedit : h.edit e with
      | error failure =>
          rw [assign_of_edit_eq_error hedit, successes, hedit]
      | ok edited =>
          rw [assign_of_edit_eq_ok hedit, successes, hedit, item_of_edit_eq_ok hh.distinct hedit,
            HandlerEdit.lastGiven?, HandlerEdit.lastGiven?]
          cases hgiven : e.given? key with
          | none => rw [List.filterMap_cons_none hgiven, Option.getD_none]
          | some v =>
              rw [List.filterMap_cons_some hgiven, List.getLast?_cons, Option.getD_some,
                Option.getD_some]

/-! ### The order of keys -/

/-- What operations on one key do to a handler. -/
structure Rearranges (h : Handler) (key : String) : Prop where
  /-- The key holds the value, and the other pairs are as they were, in their order. -/
  assigned : ∀ v, v ≠ .null → ∃ edited, h.edit (.item key v) = .ok edited ∧
    edited.item key = v ∧
    (edited.metadata.filter fun p => p.1 ≠ key) = h.metadata.filter fun p => p.1 ≠ key
  /-- A key that is there keeps its place. -/
  inPlace : ∀ v edited, v ≠ .null → key ∈ h.metadata.map Prod.fst →
    h.edit (.item key v) = .ok edited → edited.metadata.map Prod.fst = h.metadata.map Prod.fst
  /-- A new key goes to the end. -/
  appended : ∀ v edited, v ≠ .null → key ∉ h.metadata.map Prod.fst →
    h.edit (.item key v) = .ok edited → edited.metadata = h.metadata ++ [(key, v)]
  /-- A key that is taken away, in either way, is the only one to go, and goes to the end
      when it comes back. -/
  removed : ∀ e, e = .item key .null ∨ e = .delete key → key ∈ h.metadata.map Prod.fst →
    ∃ edited, h.edit e = .ok edited ∧
      (edited.metadata = h.metadata.filter fun p => p.1 ≠ key) ∧
      ∀ v, v ≠ .null → ∃ again, edited.edit (.item key v) = .ok again ∧
        again.metadata = (h.metadata.filter fun p => p.1 ≠ key) ++ [(key, v)]
  /-- A key that is not there cannot be deleted, and null does nothing to it. -/
  absent : key ∉ h.metadata.map Prod.fst →
    h.edit (.delete key) = .error (.missingKey key) ∧ h.edit (.item key .null) = .ok h

theorem withMetadata_of_fresh {h : Handler} (hh : h.Fresh) : h.withMetadata h.metadata = h := by
  rw [withMetadata, ← show h.pretty = _ from hh]

theorem rearranges_of_wellKept {h : Handler} (hh : h.WellKept) (key : String) :
    h.Rearranges key where
  assigned v hv := by
    refine ⟨_, edit_item h key hv, ?_, Metadata.filter_set h.metadata key v⟩
    rw [item, withMetadata, Metadata.get?_set, if_pos rfl, Option.getD_some]
  inPlace v edited hv hkey hedit := by
    rw [edit_item h key hv, Except.ok.injEq] at hedit
    rw [← hedit, withMetadata, Metadata.map_fst_set, if_pos hkey]
  appended v edited hv hkey hedit := by
    rw [edit_item h key hv, Except.ok.injEq] at hedit
    rw [← hedit]
    exact Metadata.set_of_get?_eq_none
      ((Metadata.get?_eq_none_iff_not_mem_keys h.metadata key).mpr hkey) v
  removed e he hkey := by
    have hedit : h.edit e = .ok (h.withMetadata (Metadata.erase h.metadata key)) := by
      rcases he with rfl | rfl
      · exact edit_null h key
      · rw [edit_delete, if_pos hkey]
    refine ⟨_, hedit, Metadata.erase_eq_filter hh.distinct key, fun v hv => ?_⟩
    refine ⟨_, edit_item _ key hv, ?_⟩
    rw [← Metadata.erase_eq_filter hh.distinct]
    exact Metadata.set_of_get?_eq_none (Metadata.get?_erase_self hh.distinct key) v
  absent hkey := by
    have hfound := (Metadata.get?_eq_none_iff_not_mem_keys h.metadata key).mpr hkey
    refine ⟨by rw [edit_delete, if_neg hkey], ?_⟩
    rw [edit_null, Metadata.erase_of_get?_eq_none hfound, withMetadata_of_fresh hh.fresh]

end Handler

/-! ### Assignments in a session -/

/-- An object that is put in its own place changes nothing. -/
theorem setIfInBounds_self {α : Type} {xs : Array α} {i : Nat} {a : α} (h : xs[i]? = some a) :
    xs.setIfInBounds i a = xs := by
  rcases Array.getElem?_eq_some_iff.mp h with ⟨hlt, hget⟩
  simp only [← hget, Array.setIfInBounds_def, hlt, dif_pos, Array.set_getElem_self]

namespace Session

/-- An assignment to a handler puts what it leaves in the place of the handler, whether it
    succeeds or fails. -/
theorem handlers_afterOp_editHandler {s : Session} {id : HandlerId} {h : Handler}
    (hh : s.handler? id = some h) (e : HandlerEdit) :
    (s.afterOp (.editHandler id e)).handlers = s.handlers.setIfInBounds id.index (h.assign e) := by
  rw [afterOp, Operation.perform, Action.runOn_then_true, Action.runOn_editHandler id h e s hh]
  cases hedit : h.edit e with
  | error failure => rw [Handler.assign_of_edit_eq_error hedit, setIfInBounds_self hh]
  | ok edited => rw [Handler.assign_of_edit_eq_ok hedit]

theorem afterOp_editHandler_none {s : Session} {id : HandlerId} (hh : s.handler? id = none)
    (e : HandlerEdit) : s.afterOp (.editHandler id e) = s := by
  rw [afterOp, Operation.perform, Action.runOn_then_true, Action.runOn_editHandler_none id e s hh]

/-- An assignment is one to the handler that it names, whether it succeeds or fails, and
    none to the others. -/
theorem handler?_afterOp_editHandler (s : Session) (id : HandlerId) (e : HandlerEdit)
    (other : HandlerId) :
    (s.afterOp (.editHandler id e)).handler? other =
      if id = other then (s.handler? id).map (·.assign e) else s.handler? other := by
  cases hh : s.handler? id with
  | none =>
      rw [afterOp_editHandler_none hh]
      by_cases hid : id = other
      · rw [if_pos hid, ← hid, hh, Option.map_none]
      · rw [if_neg hid]
  | some h =>
      rw [handler?, handlers_afterOp_editHandler hh, Array.getElem?_setIfInBounds, Option.map_some]
      by_cases hid : id = other
      · have hlt : id.index < s.handlers.size := (Array.getElem?_eq_some_iff.mp hh).1
        rw [if_pos hid, if_pos (congrArg HandlerId.index hid), if_pos hlt]
      · have hindex : id.index ≠ other.index := fun h => hid (congrArg HandlerId.mk h)
        rw [if_neg hid, if_neg hindex, handler?]

theorem handler?_after_editHandler {s : Session} {id : HandlerId} {h : Handler}
    (hh : s.handler? id = some h) (es : List HandlerEdit) :
    (s.after (es.map (.editHandler id))).handler? id = some (h.assignAll es) := by
  induction es generalizing s h with
  | nil => exact hh
  | cons e es ih =>
      refine ih (s := s.afterOp (.editHandler id e)) ?_
      rw [handler?_afterOp_editHandler, if_pos rfl, hh, Option.map_some]

/-- Handlers are ordered mappings. After any assignments to a handler that was made, those
    to keys, to all metadata and to other parts, and whether they succeed or fail: keys
    are distinct; each key holds what was last given to it with success; one more operation
    on a key rearranges keys as an ordered mapping does; deleting a key that is not there
    fails and changes nothing, while giving it the value null succeeds and changes nothing;
    and the kept text lists the pairs in the order of the keys. -/
theorem items_are_ordered (label level metadata : Value) (backend : LoggerId) (made : Handler)
    (s : Session) (id : HandlerId) (es : List HandlerEdit)
    (hmade : Handler.make label backend level metadata = .ok made)
    (hs : s.handler? id = some made) (hmetadata : metadata.HasDistinctKeys)
    (hes : ∀ v, .metadata v ∈ es → v.HasDistinctKeys) :
    ∃ (t : Session) (h : Handler), t = s.after (es.map (.editHandler id)) ∧
      t.handler? id = some h ∧ h.metadata.Distinct ∧
      (∀ key, h.item key =
        (HandlerEdit.lastGiven? (made.successes es) key).getD (made.item key)) ∧
      (∀ key, h.Rearranges key) ∧
      (∀ key, key ∉ h.metadata.map Prod.fst →
        (Action.editHandler id (.delete key)).runOn t = (.error (.missingKey key), t) ∧
          (Action.editHandler id (.item key .null)).runOn t = (.ok (), t)) ∧
      h.pretty = if h.metadata = [] then none
        else some (" ".intercalate (h.metadata.map Metadata.pairText)) := by
  have hfirst : made.WellKept := Handler.wellKept_make hmetadata hmade
  have hkept : (made.assignAll es).WellKept := Handler.wellKept_assignAll hfirst hes
  have hh := handler?_after_editHandler hs es
  refine ⟨_, made.assignAll es, rfl, hh, hkept.distinct,
    fun key => Handler.item_assignAll hfirst hes key, Handler.rearranges_of_wellKept hkept,
    fun key hkey => ?_, ?_⟩
  · rcases (Handler.rearranges_of_wellKept hkept key).absent hkey with ⟨hdelete, hnull⟩
    rw [Action.runOn_editHandler id _ _ _ hh, Action.runOn_editHandler id _ _ _ hh, hdelete, hnull]
    refine ⟨rfl, ?_⟩
    dsimp only
    rw [setIfInBounds_self hh]
  · rw [show Handler.pretty _ = _ from hkept.fresh]
    cases (made.assignAll es).metadata with
    | nil => rfl
    | cons p rest => rfl

set_option maxRecDepth 2048 in
/-- Null comes in with metadata as a whole and stays, a key that null took away goes to the
    end when it is set again, and two of the assignments fail. -/
theorem items_are_ordered_readded :
    (((start ⟨⟨2024, 1, 1, 0, 0, 0, 0⟩, none⟩ false).after
        [.makeLogger (.text "info") .stdout {},
          .makeHandler (.text "db") (some ⟨0⟩) (.text "info") (.map [("a", .text "1")])]).after
        ([.metadata (.map [("c", .null), ("b", .text "2"), ("a", .text "3")]), .delete "x",
          .item "b" .null, .item "b" (.text "4"), .metadata (.bool true),
          .item "a" (.text "5")].map (.editHandler ⟨0⟩))).handler? ⟨0⟩ =
      some ⟨.text "db", ⟨0⟩, .info, [("c", .null), ("a", .text "5"), ("b", .text "4")],
        some "c=None a=5 b=4"⟩ ∧
    Handler.Rearranges ⟨.text "db", ⟨0⟩, .info,
      [("c", .null), ("a", .text "5"), ("b", .text "4")], some "c=None a=5 b=4"⟩ "c" := by
  refine ⟨rfl, ?_⟩
  have hes : ∀ v, HandlerEdit.metadata v ∈
      ([.metadata (.map [("c", .null), ("b", .text "2"), ("a", .text "3")]), .delete "x",
        .item "b" .null, .item "b" (.text "4"), .metadata (.bool true),
        .item "a" (.text "5")] : List HandlerEdit) → v.HasDistinctKeys := by
    intro v hv
    simp only [List.mem_cons, HandlerEdit.metadata.injEq, reduceCtorEq, List.not_mem_nil, or_false,
      false_or] at hv
    rcases hv with rfl | rfl
    · exact show Metadata.Distinct _ by decide
    · exact trivial
  rcases items_are_ordered (.text "db") (.text "info") (.map [("a", .text "1")]) ⟨0⟩
    ⟨.text "db", ⟨0⟩, .info, [("a", .text "1")], some "a=1"⟩
    ((start ⟨⟨2024, 1, 1, 0, 0, 0, 0⟩, none⟩ false).after
      [.makeLogger (.text "info") .stdout {},
        .makeHandler (.text "db") (some ⟨0⟩) (.text "info") (.map [("a", .text "1")])]) ⟨0⟩
    _ rfl rfl (show Metadata.Distinct _ by decide) hes with ⟨t, h, rfl, hh, -, -, hkeys, -⟩
  have hlast : some h = some ⟨.text "db", ⟨0⟩, .info,
      [("c", .null), ("a", .text "5"), ("b", .text "4")], some "c=None a=5 b=4"⟩ :=
    hh.symm.trans rfl
  exact Option.some.inj hlast ▸ hkeys "c"

end Session

end TextLog
