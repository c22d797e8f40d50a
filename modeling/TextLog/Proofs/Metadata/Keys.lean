import TextLog.Metadata

/-!
# Keys of Metadata

What the ways to change metadata do to their keys.

A mapping has no key twice, and every way to change one keeps it so. A key that is
removed is then gone, and keys that are removed one after the other are those that a
filter leaves out, in whichever order. A mapping laid over another one decides about
its own keys and leaves the others alone.

## Main definitions

* `Metadata.Distinct`: No key is there twice.

## Theorems

* `get?_eq_none_iff`, `mem_of_get?_eq_some`, `get?_of_mem`: What is found.
* `get?_set`, `get?_erase`, `get?_erase_of_ne`, `get?_without_of_not_mem`, `get?_append`: What
  is found after a change.
* `set_of_get?_eq_none`, `erase_of_get?_eq_none`: Changes of a key that is not there.
* `distinct_set`, `distinct_erase`, `distinct_merge`, `distinct_without`: Keys stay
  distinct.
* `erase_eq_filter`, `without_eq_filter`: Keys are removed by leaving them out.
* `filter_set`: What a change of one key leaves alone.
* `get?_merge`, `merge_eq_append`: The second mapping wins, and new keys follow.
-/

namespace TextLog

namespace Metadata

/-- No key is there twice. -/
def Distinct (m : Metadata) : Prop :=
  (m.map Prod.fst).Nodup

instance (m : Metadata) : Decidable m.Distinct :=
  inferInstanceAs (Decidable (m.map Prod.fst).Nodup)

/-! ### What is found -/

theorem get?_eq_none_iff (m : Metadata) (key : String) :
    get? m key = none ↔ ∀ p ∈ m, p.1 ≠ key := by
  induction m with
  | nil => simp only [get?, List.not_mem_nil, false_imp_iff, implies_true]
  | cons p rest ih =>
      rw [List.forall_mem_cons, ← ih, get?]
      by_cases hkey : p.1 = key
      · simp only [hkey, if_true, reduceCtorEq, ne_eq, not_true_eq_false, false_and]
      · simp only [hkey, if_false, ne_eq, not_false_eq_true, true_and]

theorem get?_eq_none_iff_not_mem_keys (m : Metadata) (key : String) :
    get? m key = none ↔ key ∉ m.map Prod.fst := by
  rw [get?_eq_none_iff, List.mem_map, not_exists]
  exact forall_congr' fun p => not_and.symm

theorem mem_of_get?_eq_some {m : Metadata} {key : String} {value : Value}
    (h : get? m key = some value) : (key, value) ∈ m := by
  induction m with
  | nil => exact absurd h (by simp only [get?, reduceCtorEq, not_false_eq_true])
  | cons p rest ih =>
      rw [get?] at h
      by_cases hkey : p.1 = key
      · rw [if_pos hkey, Option.some.injEq] at h
        rw [← hkey, ← h]
        exact List.mem_cons_self
      · rw [if_neg hkey] at h
        exact List.mem_cons_of_mem p (ih h)

/-- Where keys are distinct, each pair is the one that is found. -/
theorem get?_of_mem {m : Metadata} (hm : m.Distinct) {p : String × Value} (hp : p ∈ m) :
    get? m p.1 = some p.2 := by
  induction m with
  | nil => exact absurd hp List.not_mem_nil
  | cons q rest ih =>
      rw [Distinct, List.map_cons, List.nodup_cons] at hm
      rcases List.mem_cons.mp hp with rfl | hrest
      · rw [get?, if_pos rfl]
      · have hkey : q.1 ≠ p.1 := fun h => hm.1 (h ▸ List.mem_map_of_mem hrest)
        rw [get?, if_neg hkey]
        exact ih hm.2 hrest

theorem get?_append (m rest : Metadata) (key : String) :
    get? (m ++ rest) key = (get? m key).or (get? rest key) := by
  induction m with
  | nil => rfl
  | cons p m ih =>
      rw [List.cons_append, get?, get?]
      by_cases hkey : p.1 = key
      · rw [if_pos hkey, if_pos hkey, Option.some_or]
      · rw [if_neg hkey, if_neg hkey, ih]

theorem get?_set (m : Metadata) (key other : String) (value : Value) :
    get? (set m key value) other = if key = other then some value else get? m other := by
  induction m with
  | nil => rfl
  | cons p rest ih =>
      by_cases hset : p.1 = key
      · rw [set, if_pos hset, get?, get?, hset]
        by_cases hkey : key = other
        · rw [if_pos hkey, if_pos hkey]
        · rw [if_neg hkey, if_neg hkey, if_neg hkey]
      · rw [set, if_neg hset, get?, get?]
        by_cases hp : p.1 = other
        · rw [if_pos hp, if_pos hp, if_neg fun h => hset (hp.trans h.symm)]
        · rw [if_neg hp, if_neg hp, ih]

theorem get?_erase_of_ne (m : Metadata) {key other : String} (h : key ≠ other) :
    get? (erase m key) other = get? m other := by
  induction m with
  | nil => rfl
  | cons p rest ih =>
      rw [erase]
      by_cases hkey : p.1 = key
      · rw [if_pos hkey, get?, if_neg (hkey ▸ h)]
      · rw [if_neg hkey, get?, get?, ih]

theorem without_cons (m : Metadata) (key : String) (keys : List String) :
    without m (key :: keys) = without (erase m key) keys := rfl

theorem get?_without_of_not_mem (m : Metadata) {key : String} {keys : List String}
    (h : key ∉ keys) : get? (without m keys) key = get? m key := by
  induction keys generalizing m with
  | nil => rfl
  | cons first keys ih =>
      rw [List.mem_cons, not_or] at h
      rw [without_cons, ih (erase m first) h.2, get?_erase_of_ne m (Ne.symm h.1)]

/-! ### Keys that are not there -/

/-- A new key goes to the end. -/
theorem set_of_get?_eq_none {m : Metadata} {key : String} (h : get? m key = none)
    (value : Value) : set m key value = m ++ [(key, value)] := by
  induction m with
  | nil => rfl
  | cons p rest ih =>
      rw [get?] at h
      by_cases hkey : p.1 = key
      · exact absurd h (by simp only [hkey, if_true, reduceCtorEq, not_false_eq_true])
      · rw [if_neg hkey] at h
        rw [set, if_neg hkey, ih h, List.cons_append]

theorem erase_of_get?_eq_none {m : Metadata} {key : String} (h : get? m key = none) :
    erase m key = m := by
  induction m with
  | nil => rfl
  | cons p rest ih =>
      rw [get?] at h
      by_cases hkey : p.1 = key
      · exact absurd h (by simp only [hkey, if_true, reduceCtorEq, not_false_eq_true])
      · rw [if_neg hkey] at h
        rw [erase, if_neg hkey, ih h]

/-! ### Keys stay distinct -/

theorem distinct_nil : Distinct [] :=
  List.nodup_nil

theorem distinct_of_sublist {m rest : Metadata} (h : rest.Sublist m) (hm : m.Distinct) :
    rest.Distinct :=
  (h.map Prod.fst).nodup hm

theorem erase_sublist (m : Metadata) (key : String) : (erase m key).Sublist m := by
  induction m with
  | nil => exact List.Sublist.refl []
  | cons p rest ih =>
      rw [erase]
      by_cases hkey : p.1 = key
      · rw [if_pos hkey]
        exact List.sublist_cons_self p rest
      · rw [if_neg hkey]
        exact ih.cons_cons p

theorem distinct_erase {m : Metadata} (hm : m.Distinct) (key : String) : (erase m key).Distinct :=
  distinct_of_sublist (erase_sublist m key) hm

theorem distinct_without {m : Metadata} (hm : m.Distinct) (keys : List String) :
    (without m keys).Distinct := by
  induction keys generalizing m with
  | nil => exact hm
  | cons key keys ih => exact ih (distinct_erase hm key)

/-- A pair that is set replaces one with the same key, or its key is new. -/
theorem map_fst_set (m : Metadata) (key : String) (value : Value) :
    (set m key value).map Prod.fst =
      if key ∈ m.map Prod.fst then m.map Prod.fst else m.map Prod.fst ++ [key] := by
  induction m with
  | nil => rfl
  | cons p rest ih =>
      rw [set]
      by_cases hkey : p.1 = key
      · rw [if_pos hkey, List.map_cons, List.map_cons, hkey, if_pos List.mem_cons_self]
      · rw [if_neg hkey, List.map_cons, List.map_cons, ih]
        by_cases hmem : key ∈ rest.map Prod.fst
        · rw [if_pos hmem, if_pos (List.mem_cons_of_mem _ hmem)]
        · have hnew : key ∉ p.1 :: rest.map Prod.fst :=
            List.not_mem_cons_of_ne_of_not_mem (Ne.symm hkey) hmem
          rw [if_neg hmem, if_neg hnew, List.cons_append]

theorem distinct_set {m : Metadata} (hm : m.Distinct) (key : String) (value : Value) :
    (set m key value).Distinct := by
  rw [Distinct, map_fst_set]
  by_cases hmem : key ∈ m.map Prod.fst
  · rw [if_pos hmem]
    exact hm
  · rw [if_neg hmem]
    exact List.perm_append_comm.nodup_iff.mp (List.nodup_cons.mpr ⟨hmem, hm⟩)

/-- Whatever is laid over a mapping, its keys stay distinct. -/
theorem distinct_merge {base : Metadata} (hbase : base.Distinct) (overrides : Metadata) :
    (merge base overrides).Distinct := by
  induction overrides generalizing base with
  | nil => exact hbase
  | cons p rest ih => exact ih (distinct_set hbase p.1 p.2)

/-! ### Keys that are left out -/

theorem erase_eq_filter {m : Metadata} (hm : m.Distinct) (key : String) :
    erase m key = m.filter fun p => p.1 ≠ key := by
  induction m with
  | nil => rfl
  | cons p rest ih =>
      rw [Distinct, List.map_cons, List.nodup_cons] at hm
      by_cases hkey : p.1 = key
      · -- The key is not there a second time, so the filter takes nothing more.
        have hrest : ∀ q ∈ rest, decide (q.1 ≠ key) = true := by
          intro q hq
          rw [decide_eq_true_iff]
          exact fun h => hm.1 ((h.trans hkey.symm) ▸ List.mem_map_of_mem hq)
        rw [erase, if_pos hkey, List.filter_cons_of_neg (by simp only [hkey, ne_eq,
          not_true_eq_false, decide_false, Bool.false_eq_true, not_false_eq_true]),
          List.filter_eq_self.mpr hrest]
      · rw [erase, if_neg hkey, List.filter_cons_of_pos (by simp only [hkey, ne_eq,
          not_false_eq_true, decide_true]), ih hm.2]

/-- A key that is removed is gone. -/
theorem get?_erase_self {m : Metadata} (hm : m.Distinct) (key : String) :
    get? (erase m key) key = none := by
  rw [get?_eq_none_iff, erase_eq_filter hm]
  exact fun p hp => of_decide_eq_true (List.mem_filter.mp hp).2

theorem get?_erase {m : Metadata} (hm : m.Distinct) (key other : String) :
    get? (erase m key) other = if key = other then none else get? m other := by
  by_cases hkey : key = other
  · rw [if_pos hkey, ← hkey, get?_erase_self hm]
  · rw [if_neg hkey, get?_erase_of_ne m hkey]

/-- A key that is set leaves the pairs of other keys as they are, and their order. -/
theorem filter_set (m : Metadata) (key : String) (value : Value) :
    (set m key value).filter (fun p => p.1 ≠ key) = m.filter fun p => p.1 ≠ key := by
  induction m with
  | nil => simp only [set, ne_eq, not_true_eq_false, decide_false, Bool.false_eq_true,
      not_false_eq_true, List.filter_cons_of_neg]
  | cons p rest ih =>
      rw [set]
      by_cases hkey : p.1 = key
      · simp only [hkey, if_true, ne_eq, not_true_eq_false, decide_false, Bool.false_eq_true,
          not_false_eq_true, List.filter_cons_of_neg]
      · rw [if_neg hkey, List.filter_cons, List.filter_cons, ih]

theorem without_eq_filter {m : Metadata} (hm : m.Distinct) (keys : List String) :
    without m keys = m.filter fun p => p.1 ∉ keys := by
  induction keys generalizing m with
  | nil =>
      rw [List.filter_eq_self.mpr fun _ _ => decide_eq_true List.not_mem_nil]
      rfl
  | cons key keys ih =>
      rw [without_cons, ih (distinct_erase hm key), erase_eq_filter hm, List.filter_filter]
      congr 1
      funext p
      simp only [List.mem_cons, not_or, ne_eq, Bool.decide_and, Bool.and_comm]

/-! ### One mapping over another -/

theorem merge_cons (base : Metadata) (p : String × Value) (rest : Metadata) :
    merge base (p :: rest) = merge (set base p.1 p.2) rest := rfl

/-- The second mapping wins, and what it does not decide is as it was. -/
theorem get?_merge (base : Metadata) {overrides : Metadata} (h : overrides.Distinct)
    (key : String) :
    get? (merge base overrides) key = (get? overrides key).or (get? base key) := by
  induction overrides generalizing base with
  | nil => rfl
  | cons p rest ih =>
      rw [Distinct, List.map_cons, List.nodup_cons] at h
      rw [merge_cons, ih (set base p.1 p.2) h.2, get?_set, get?]
      by_cases hkey : p.1 = key
      · -- No later pair has the key of this one.
        have hrest : get? rest key = none :=
          (get?_eq_none_iff rest key).mpr fun q hq hq' =>
            h.1 (List.mem_map.mpr ⟨q, hq, hq'.trans hkey.symm⟩)
        rw [if_pos hkey, if_pos hkey, hrest, Option.none_or, Option.some_or]
      · rw [if_neg hkey, if_neg hkey]

theorem get?_merge_eq_none {base overrides : Metadata} (h : overrides.Distinct) {key : String}
    (hkey : ∀ p ∈ base ++ overrides, p.1 ≠ key) : get? (merge base overrides) key = none := by
  rw [get?_merge base h, Option.or_eq_none_iff, get?_eq_none_iff, get?_eq_none_iff]
  exact ⟨fun p hp => hkey p (List.mem_append_right _ hp),
    fun p hp => hkey p (List.mem_append_left _ hp)⟩

theorem merge_append (base first second : Metadata) :
    merge (merge base first) second = merge base (first ++ second) := by
  rw [merge, merge, merge, List.foldl_append]

/-- A mapping whose keys are all new is laid behind the other one. -/
theorem merge_eq_append {base overrides : Metadata} (h : overrides.Distinct)
    (hnew : ∀ p ∈ overrides, get? base p.1 = none) : merge base overrides = base ++ overrides := by
  induction overrides generalizing base with
  | nil => exact (List.append_nil base).symm
  | cons p rest ih =>
      rw [Distinct, List.map_cons, List.nodup_cons] at h
      have hfirst : set base p.1 p.2 = base ++ [p] :=
        set_of_get?_eq_none (hnew p List.mem_cons_self) p.2
      have hrest : ∀ q ∈ rest, get? (base ++ [p]) q.1 = none := by
        intro q hq
        have hne : p.1 ≠ q.1 := fun hkey => h.1 (hkey ▸ List.mem_map_of_mem hq)
        rw [get?_append, hnew q (List.mem_cons_of_mem p hq), Option.none_or, get?, if_neg hne, get?]
      rw [merge_cons, hfirst, ih h.2 hrest, List.append_assoc, List.singleton_append]

end Metadata

end TextLog
