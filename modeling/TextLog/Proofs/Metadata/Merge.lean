import TextLog.Proofs.Handler.Freshness
import TextLog.Proofs.Metadata.Keys

/-!
# Metadata in Layers

Mappings that are laid over each other can be grouped in any way.

A mapping is its keys in their order and what is found under each of them. Laying one
mapping over another appends its new keys (`map_fst_merge`) and lets its values win
(`get?_merge`), and either of these is indifferent to grouping: what the middle mapping
adds to the first one is not added again by the last, and what is found is found in the
last mapping that has it. So the metadata of a handler, those of a context and those of
an event can be put together in whichever order is at hand, and a line shows the same,
down to the order of the pairs. What is not indifferent is a key that a mapping has
twice, since the first of its values would come back when the mapping is laid over
another one first; distinct keys exclude it.

## Theorems

* `map_keys_get`, `eq_of_keys_of_get?`: A mapping is its keys and what is found.
* `map_fst_merge`: The keys of the first mapping, and behind them the new ones.
* `merge_assoc`: Three mappings can be grouped either way.
* `nil_merge`, `merge_self`, `merge_merge_self`: Nothing is added twice.
* `metadataText_withMetadata`: A handler shows its metadata below those of an event.
* `merge_in_any_grouping`: Mappings under merging.
-/

namespace TextLog

namespace Metadata

/-! ### A mapping by its keys -/

/-- A mapping can be rebuilt from its keys and from what is found under them. -/
theorem map_keys_get {m : Metadata} (hm : m.Distinct) :
    ((m.map Prod.fst).map fun key => (key, (get? m key).getD .null)) = m := by
  rw [List.map_map]
  have hpairs : ∀ p ∈ m, (p.1, (get? m p.1).getD .null) = p := by
    intro p hp
    rw [get?_of_mem hm hp, Option.getD_some]
  exact (List.map_congr_left hpairs).trans (List.map_id' m)

theorem eq_of_keys_of_get? {m n : Metadata} (hm : m.Distinct)
    (hkeys : m.map Prod.fst = n.map Prod.fst) (hget : ∀ key, get? m key = get? n key) :
    m = n := by
  have hn : n.Distinct := by
    rw [Distinct, ← hkeys]
    exact hm
  rw [← map_keys_get hm, ← map_keys_get hn, hkeys]
  exact List.map_congr_left fun key _ => by rw [hget]

/-! ### Laying mappings over each other -/

/-- The keys of the first mapping stay where they are, and the new keys of the second
    follow in their own order. -/
theorem map_fst_merge (base : Metadata) {overrides : Metadata} (h : overrides.Distinct) :
    (merge base overrides).map Prod.fst =
      base.map Prod.fst ++ (overrides.map Prod.fst).filter (· ∉ base.map Prod.fst) := by
  induction overrides generalizing base with
  | nil => exact (List.append_nil _).symm
  | cons p rest ih =>
      rw [Distinct, List.map_cons, List.nodup_cons] at h
      rw [merge_cons, ih (set base p.1 p.2) h.2, map_fst_set, List.map_cons]
      by_cases hkey : p.1 ∈ base.map Prod.fst
      · rw [if_pos hkey, List.filter_cons_of_neg (by simp only [hkey, not_true_eq_false,
          decide_false, Bool.false_eq_true, not_false_eq_true])]
      · rw [if_neg hkey, List.filter_cons_of_pos (by simp only [hkey, not_false_eq_true,
          decide_true]), List.append_assoc, List.singleton_append]
        -- None of the later keys is the one that was just appended.
        refine congrArg (fun keys => base.map Prod.fst ++ p.1 :: keys) ?_
        refine List.filter_congr fun key hmem => ?_
        have hne : key ≠ p.1 := fun heq => h.1 (heq ▸ hmem)
        simp only [List.mem_append, List.mem_singleton, hne, or_false]

/-- Three mappings can be grouped either way. -/
theorem merge_assoc {a b c : Metadata} (ha : a.Distinct) (hb : b.Distinct) (hc : c.Distinct) :
    merge (merge a b) c = merge a (merge b c) := by
  have hbc : (merge b c).Distinct := distinct_merge hb c
  refine eq_of_keys_of_get? (distinct_merge (distinct_merge ha b) c) ?_ fun key => ?_
  · rw [map_fst_merge _ hc, map_fst_merge a hb, map_fst_merge a hbc, map_fst_merge b hc,
      List.filter_append, List.filter_filter, List.append_assoc]
    -- A key of the last mapping is new exactly if neither of the others has it.
    refine congrArg (fun keys => _ ++ (_ ++ keys)) (List.filter_congr fun key _ => ?_)
    by_cases hkey : key ∈ a.map Prod.fst
    · simp only [hkey, List.mem_append, true_or, not_true_eq_false, decide_false, Bool.false_and]
    · simp only [hkey, List.mem_append, List.mem_filter, false_or, not_false_eq_true, decide_true,
        and_true, Bool.true_and]
  · rw [get?_merge _ hc, get?_merge a hb, get?_merge a hbc, get?_merge b hc, Option.or_assoc]

theorem nil_merge {m : Metadata} (hm : m.Distinct) : merge [] m = m :=
  merge_eq_append hm fun _ _ => rfl

/-- A mapping laid over itself stays as it is. -/
theorem merge_self {m : Metadata} (hm : m.Distinct) : merge m m = m := by
  refine eq_of_keys_of_get? (distinct_merge hm m) ?_ fun key => ?_
  · have hnone : (m.map Prod.fst).filter (· ∉ m.map Prod.fst) = [] :=
      List.filter_eq_nil_iff.mpr fun key hmem => by
        simp only [hmem, not_true_eq_false, decide_false, Bool.false_eq_true, not_false_eq_true]
    rw [map_fst_merge m hm, hnone, List.append_nil]
  · rw [get?_merge m hm, Option.or_self]

/-- What has been laid over a mapping adds nothing when it is laid over it again. -/
theorem merge_merge_self {a b : Metadata} (ha : a.Distinct) (hb : b.Distinct) :
    merge (merge a b) b = merge a b := by
  rw [merge_assoc ha hb hb, merge_self hb]

end Metadata

/-- A handler shows its metadata below those of an event, whether or not there are any. -/
theorem Handler.metadataText_withMetadata (h : Handler) (m own : Metadata) :
    (h.withMetadata m).metadataText own = Metadata.pretty (Metadata.merge m own) :=
  metadataText_of_fresh (fresh_withMetadata h m) own

namespace Metadata

/-- Mappings with distinct keys are a monoid under merging, in which nothing counts
    twice, and their order is part of it. The keys stay distinct: those of the first
    mapping come first and the new ones of the second follow, each in their order, and
    a key has the value of the second mapping if it is there and that of the first if
    it is not. What is shown of the metadata of a handler, of a context and of an event
    is therefore the same if the context is put on the handler or under the event. -/
theorem merge_in_any_grouping (a b c : Metadata) (ha : a.Distinct) (hb : b.Distinct)
    (hc : c.Distinct) :
    merge (merge a b) c = merge a (merge b c) ∧
      merge [] a = a ∧
      merge a [] = a ∧
      merge (merge a b) b = merge a b ∧
      (merge a b).Distinct ∧
      (merge a b).map Prod.fst =
        a.map Prod.fst ++ (b.map Prod.fst).filter (· ∉ a.map Prod.fst) ∧
      (∀ key value, get? b key = some value → get? (merge a b) key = some value) ∧
      (∀ key, get? b key = none → get? (merge a b) key = get? a key) ∧
      pretty (merge (merge a b) c) = pretty (merge a (merge b c)) ∧
      ∀ h : Handler,
        (h.withMetadata a).metadataText (merge b c) = pretty (merge a (merge b c)) ∧
          (h.withMetadata (merge a b)).metadataText c = pretty (merge a (merge b c)) := by
  have hassoc := merge_assoc ha hb hc
  refine ⟨hassoc, nil_merge ha, rfl, merge_merge_self ha hb, distinct_merge ha b,
    map_fst_merge a hb, fun key value hkey => ?_, fun key hkey => ?_, by rw [hassoc],
    fun h => ⟨h.metadataText_withMetadata a _, ?_⟩⟩
  · rw [get?_merge a hb, hkey, Option.some_or]
  · rw [get?_merge a hb, hkey, Option.none_or]
  · rw [Handler.metadataText_withMetadata, hassoc]

/-- Three mappings that share keys with each other: each key keeps the place of the first
    mapping that has it and takes the value of the last one. -/
theorem merge_in_any_grouping_shared :
    Distinct [("user", .text "ada"), ("job", .int 1)] ∧
      Distinct [("job", .int 2), ("host", .null)] ∧
      Distinct [("host", .text "x"), ("user", .text "bob"), ("try", .int 0)] ∧
      merge (merge [("user", .text "ada"), ("job", .int 1)] [("job", .int 2), ("host", .null)])
          [("host", .text "x"), ("user", .text "bob"), ("try", .int 0)] =
        merge [("user", .text "ada"), ("job", .int 1)]
          (merge [("job", .int 2), ("host", .null)]
            [("host", .text "x"), ("user", .text "bob"), ("try", .int 0)]) ∧
      pretty (merge [("user", .text "ada"), ("job", .int 1)]
          (merge [("job", .int 2), ("host", .null)]
            [("host", .text "x"), ("user", .text "bob"), ("try", .int 0)])) =
        some "user=bob job=2 host=x try=0" := by
  refine ⟨by decide, by decide, by decide, ?_, rfl⟩
  exact (merge_in_any_grouping _ _ _ (by decide) (by decide) (by decide)).1

end Metadata

end TextLog
