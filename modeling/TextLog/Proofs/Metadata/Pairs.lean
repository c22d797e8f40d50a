import TextLog.Cli.Commands
import TextLog.Proofs.Logger.Rendering
import TextLog.Proofs.Metadata.Merge

/-!
# Metadata from Texts

Metadata that are written pair by pair, each as a text `key=value`.

A text is a pair in one way at most, because a key holds no equals sign, and it is one
unless it has no equals sign or starts with one (`splitPair?_eq_none_iff`). Pairs are
set one after the other on a mapping that is empty at first. A key that is there again
keeps its place, so the keys are those of the pairs in the order in which each of them
was there for the first time; and the value that is found is that of the pair that was
there last, the first one if the pairs are read backwards (`get?_merge_nil`). Metadata
of texts are therefore read from what is shown of them, and where no key is there twice,
what is shown of the metadata are the texts that they were read from.

## Main definitions

* `IsKey`, `IsPair`: Keys, and texts that are pairs.
* `Metadata.ofTexts`: Metadata whose values are texts.

## Theorems

* `splitPair?_eq_some_iff`, `splitPair?_eq_none_iff`: The texts that are pairs.
* `mapM_splitPair?_eq_some_iff`, `mapM_splitPair?_eq_none_iff`: Lists of them.
* `map_fst_merge_nil`, `get?_merge_nil`: Pairs that are set one after the other.
* `get?_reverse_eq_some_iff`: What is found backwards is what was given last.
* `map_pairText_ofTexts`: Pairs are shown as the texts that they were read from.
* `render_eq_usage_iff`: Texts that are no pairs cannot be rendered.
* `ofPairs?_reads_pairs`: The metadata of a list of texts.
-/

namespace TextLog

/-- A key of a pair: it is not empty and holds no equals sign. -/
structure IsKey (key : String) : Prop where
  ne_empty : key ≠ ""
  no_equals : '=' ∉ key.toList

/-- A text is a pair of a key and a value. The value may be empty and may hold equals
    signs of its own. -/
structure IsPair (s key value : String) : Prop where
  isKey : IsKey key
  text : s = key ++ "=" ++ value

/-! ### One pair -/

theorem IsPair.toList {s key value : String} (h : IsPair s key value) :
    s.toList = key.toList ++ '=' :: value.toList := by
  rw [h.text, String.toList_append, String.toList_append, List.append_assoc]
  rfl

theorem IsKey.exists_cons {key : String} (h : IsKey key) :
    ∃ c rest, key.toList = c :: rest ∧ c ≠ '=' := by
  cases hkey : key.toList with
  | nil => exact absurd (String.toList_eq_nil_iff.mp hkey) h.ne_empty
  | cons c rest =>
      have hequals := h.no_equals
      rw [hkey, List.mem_cons, not_or] at hequals
      exact ⟨c, rest, rfl, Ne.symm hequals.1⟩

/-- What is in front of the first equals sign of a text is a key, if there is anything. -/
theorem isPair_of_toList {s : String} {key value : List Char}
    (hs : s.toList = key ++ '=' :: value) (hne : key ≠ []) (hno : '=' ∉ key) :
    IsPair s (String.ofList key) (String.ofList value) := by
  refine ⟨⟨fun hempty => hne (String.ofList_eq_empty_iff.mp hempty), ?_⟩, ?_⟩
  · rwa [String.toList_ofList]
  · rw [← String.toList_inj, hs, String.toList_append, String.toList_append,
      String.toList_ofList (l := key), String.toList_ofList (l := value), List.append_assoc]
    rfl

/-- A pair is split at its first equals sign. -/
theorem splitPair?_of_isPair {s key value : String} (h : IsPair s key value) :
    splitPair? s = some (key, value) := by
  have hkey : ∀ c ∈ key.toList, (c != '=') = true := by
    intro c hc
    exact bne_iff_ne.mpr fun heq => h.isKey.no_equals (heq ▸ hc)
  have hequals : ('=' != '=') = false := by decide
  have htake : s.toList.takeWhile (· != '=') = key.toList := by
    rw [h.toList, List.takeWhile_append_of_pos hkey, List.takeWhile_cons, hequals]
    exact List.append_nil _
  have hdrop : s.toList.dropWhile (· != '=') = '=' :: value.toList := by
    rw [h.toList, List.dropWhile_append_of_pos hkey, List.dropWhile_cons, hequals]
    rfl
  rcases h.isKey.exists_cons with ⟨c, rest, hcons, _⟩
  rw [splitPair?]
  simp only [htake, hdrop, hcons]
  rw [← hcons, String.ofList_toList, String.ofList_toList]

theorem isPair_of_splitPair? {s : String} {p : String × String} (h : splitPair? s = some p) :
    IsPair s p.1 p.2 := by
  rw [splitPair?] at h
  split at h
  · rename_i c key d value htake hdrop
    -- What ends the key is the equals sign, and no character of the key is one.
    have hd : d = '=' := by
      have hhead := List.head?_dropWhile_not (· != '=') s.toList
      rw [hdrop] at hhead
      exact of_not_not fun hne => absurd hhead (by simp [hne])
    have hno : '=' ∉ c :: key := by
      intro hmem
      rw [← htake] at hmem
      exact absurd (List.mem_takeWhile_imp hmem) (by decide)
    have hsplit := List.takeWhile_append_dropWhile (p := (· != '=')) (l := s.toList)
    rw [htake, hdrop, hd] at hsplit
    rw [htake] at h
    rw [← Option.some.inj h]
    exact isPair_of_toList hsplit.symm (List.cons_ne_nil c key) hno
  · exact absurd h (by simp only [reduceCtorEq, not_false_eq_true])

theorem splitPair?_eq_some_iff (s : String) (p : String × String) :
    splitPair? s = some p ↔ IsPair s p.1 p.2 :=
  ⟨isPair_of_splitPair?, splitPair?_of_isPair⟩

/-- A text is no pair if it has no equals sign, or nothing in front of it. -/
theorem splitPair?_eq_none_iff (s : String) :
    splitPair? s = none ↔ '=' ∉ s.toList ∨ s.toList.head? = some '=' := by
  constructor
  · intro h
    by_contra hpair
    rw [not_or, not_not] at hpair
    -- Otherwise what is in front of the first equals sign is a key.
    rcases List.eq_append_cons_of_mem hpair.1 with ⟨key, value, hs, hkey⟩
    have hne : key ≠ [] := by
      rintro rfl
      exact hpair.2 (by rw [hs]; rfl)
    have hsplit := splitPair?_of_isPair (isPair_of_toList hs hne hkey)
    exact absurd (h.symm.trans hsplit) (by simp only [reduceCtorEq, not_false_eq_true])
  · intro h
    cases hs : splitPair? s with
    | none => rfl
    | some p =>
        have hp := isPair_of_splitPair? hs
        rcases hp.isKey.exists_cons with ⟨c, rest, hcons, hc⟩
        rw [hp.toList, hcons] at h
        rcases h with hno | hstart
        · exact absurd (List.mem_append_right (c :: rest) List.mem_cons_self) hno
        · exact absurd (Option.some.inj hstart) hc

/-! ### Lists of pairs -/

theorem mapM_splitPair?_eq_some_iff (texts : List String) (pairs : List (String × String)) :
    texts.mapM splitPair? = some pairs ↔
      List.Forall₂ (fun s p => IsPair s p.1 p.2) texts pairs := by
  induction texts generalizing pairs with
  | nil =>
      rw [List.mapM_nil, List.forall₂_nil_left_iff]
      exact ⟨fun h => (Option.some.inj h).symm, fun h => h ▸ rfl⟩
  | cons s rest ih =>
      rw [List.mapM_cons, List.forall₂_cons_left_iff]
      constructor
      · intro h
        rcases Option.bind_eq_some_iff.mp h with ⟨p, hp, h⟩
        rcases Option.bind_eq_some_iff.mp h with ⟨ps, hps, h⟩
        exact ⟨p, ps, (splitPair?_eq_some_iff s p).mp hp, (ih ps).mp hps, (Option.some.inj h).symm⟩
      · rintro ⟨p, ps, hp, hps, rfl⟩
        rw [(splitPair?_eq_some_iff s p).mpr hp, (ih ps).mpr hps]
        rfl

theorem mapM_splitPair?_eq_none_iff (texts : List String) :
    texts.mapM splitPair? = none ↔ ∃ s ∈ texts, splitPair? s = none := by
  induction texts with
  | nil => exact ⟨fun h => absurd h (by simp only [List.mapM_nil, Option.pure_def, reduceCtorEq,
      not_false_eq_true]), fun ⟨s, hs, _⟩ => absurd hs List.not_mem_nil⟩
  | cons s rest ih =>
      rw [List.mapM_cons, List.exists_mem_cons_iff, ← ih]
      cases splitPair? s with
      | none => exact ⟨fun _ => Or.inl rfl, fun _ => rfl⟩
      | some p =>
          cases rest.mapM splitPair? with
          | none => exact ⟨fun _ => Or.inr rfl, fun _ => rfl⟩
          | some ps => simp only [Option.bind_eq_bind, Option.bind_some, Option.pure_def,
              reduceCtorEq, or_self]

namespace Metadata

/-! ### Pairs that are set one after the other -/

/-- Metadata whose values are texts. -/
def ofTexts (pairs : List (String × String)) : Metadata :=
  pairs.map fun p => (p.1, .text p.2)

theorem map_fst_ofTexts (pairs : List (String × String)) :
    (ofTexts pairs).map Prod.fst = pairs.map Prod.fst :=
  List.map_map

/-- Reading texts lays the pairs over a mapping that is empty. -/
theorem ofPairs?_eq_merge (texts : List String) :
    ofPairs? texts = (texts.mapM splitPair?).map fun pairs => merge [] (ofTexts pairs) := by
  rw [ofPairs?]
  refine congrFun (congrArg Option.map (funext fun pairs => ?_)) _
  rw [merge, ofTexts, List.foldl_map]

/-- Keys that are set one after the other are in the order of their first time. -/
theorem map_fst_merge_nil (m : Metadata) :
    (merge [] m).map Prod.fst = (m.map Prod.fst).eraseDups := by
  induction m using List.reverseRecOn with
  | nil => rfl
  | append_singleton m p ih =>
      -- The last key is new, or it was there before and keeps its place.
      have hlast : ([p.1].removeAll (m.map Prod.fst)).eraseDups =
          if p.1 ∈ m.map Prod.fst then [] else [p.1] := by
        by_cases hkey : p.1 ∈ m.map Prod.fst
        · rw [if_pos hkey, List.removeAll, List.filter_cons_of_neg (by simp [hkey])]
          rfl
        · rw [if_neg hkey, List.removeAll, List.filter_cons_of_pos (by simp [hkey])]
          rfl
      rw [← merge_append, List.map_append, List.eraseDups_append]
      change (set (merge [] m) p.1 p.2).map Prod.fst = _ ++ ([p.1].removeAll _).eraseDups
      rw [map_fst_set, ih, hlast]
      by_cases hkey : p.1 ∈ m.map Prod.fst
      · rw [if_pos (List.mem_eraseDups.mpr hkey), if_pos hkey, List.append_nil]
      · rw [if_neg (mt List.mem_eraseDups.mp hkey), if_neg hkey]

/-- What is found is what was given last. -/
theorem get?_merge_nil (m : Metadata) (key : String) :
    get? (merge [] m) key = get? m.reverse key := by
  induction m using List.reverseRecOn with
  | nil => rfl
  | append_singleton m p ih =>
      rw [← merge_append, List.reverse_append, List.reverse_singleton, List.singleton_append]
      change get? (set (merge [] m) p.1 p.2) key = _
      rw [get?_set, get?, ih]

/-- What is found is there, and nothing in front of it has the key. -/
theorem get?_eq_some_iff (m : Metadata) (key : String) (value : Value) :
    get? m key = some value ↔
      ∃ before after, m = before ++ (key, value) :: after ∧ key ∉ before.map Prod.fst := by
  induction m with
  | nil =>
      refine ⟨fun h => absurd h (by simp only [get?, reduceCtorEq, not_false_eq_true]), ?_⟩
      rintro ⟨before, after, h, _⟩
      exact absurd h.symm (List.append_ne_nil_of_right_ne_nil before (List.cons_ne_nil _ after))
  | cons p rest ih =>
      rw [get?]
      by_cases hkey : p.1 = key
      · rw [if_pos hkey, Option.some.injEq]
        constructor
        · intro h
          exact ⟨[], rest, by rw [← hkey, ← h]; rfl, List.not_mem_nil⟩
        · rintro ⟨before, after, hm, hbefore⟩
          cases before with
          | nil => rw [(List.cons.inj hm).1]
          | cons q before =>
              rw [← (List.cons.inj hm).1] at hbefore
              exact absurd (hkey ▸ List.mem_cons_self) hbefore
      · rw [if_neg hkey, ih]
        constructor
        · rintro ⟨before, after, rfl, hbefore⟩
          exact ⟨p :: before, after, rfl, List.not_mem_cons_of_ne_of_not_mem (Ne.symm hkey) hbefore⟩
        · rintro ⟨before, after, hm, hbefore⟩
          cases before with
          | nil => exact absurd (congrArg Prod.fst (List.cons.inj hm).1) hkey
          | cons q before =>
              exact ⟨before, after, (List.cons.inj hm).2,
                fun hmem => hbefore (List.mem_cons_of_mem _ hmem)⟩

theorem get?_reverse_eq_some_iff (m : Metadata) (key : String) (value : Value) :
    get? m.reverse key = some value ↔
      ∃ before after, m = before ++ (key, value) :: after ∧ key ∉ after.map Prod.fst := by
  rw [get?_eq_some_iff]
  constructor
  · rintro ⟨before, after, hm, hbefore⟩
    refine ⟨after.reverse, before.reverse, ?_, ?_⟩
    · rw [← List.reverse_reverse m, hm, List.reverse_append, List.reverse_cons,
        List.append_assoc, List.singleton_append]
    · rwa [List.map_reverse, List.mem_reverse]
  · rintro ⟨before, after, rfl, hafter⟩
    refine ⟨after.reverse, before.reverse, ?_, ?_⟩
    · rw [List.reverse_append, List.reverse_cons, List.append_assoc, List.singleton_append]
    · rwa [List.map_reverse, List.mem_reverse]

/-- A pair of metadata of texts is one of the texts, with the same in front and behind. -/
theorem exists_ofTexts_split_iff (pairs : List (String × String)) (key : String) (value : Value) :
    (∃ before after, ofTexts pairs = before ++ (key, value) :: after ∧
        key ∉ after.map Prod.fst) ↔
      ∃ before text after, pairs = before ++ (key, text) :: after ∧
        key ∉ after.map Prod.fst ∧ value = .text text := by
  constructor
  · rintro ⟨before, after, hpairs, hafter⟩
    rcases List.map_eq_append_iff.mp hpairs with ⟨front, rest, rfl, _, hrest⟩
    rcases List.map_eq_cons_iff.mp hrest with ⟨⟨k, text⟩, back, rfl, hp, hback⟩
    rcases Prod.mk.inj hp with ⟨rfl, rfl⟩
    refine ⟨front, text, back, rfl, ?_, rfl⟩
    rwa [← hback, ← ofTexts, map_fst_ofTexts] at hafter
  · rintro ⟨before, text, after, rfl, hafter, rfl⟩
    refine ⟨ofTexts before, ofTexts after, List.map_append, ?_⟩
    rwa [map_fst_ofTexts]

/-! ### Pairs that are shown -/

/-- Pairs are shown as the texts that they were read from. -/
theorem map_pairText_ofTexts {texts : List String} {pairs : List (String × String)}
    (h : List.Forall₂ (fun s p => IsPair s p.1 p.2) texts pairs) :
    (ofTexts pairs).map pairText = texts := by
  have htexts : List.Forall₂ Eq texts (pairs.map fun p => p.1 ++ "=" ++ p.2) :=
    List.forall₂_map_right_iff.mpr (h.imp fun _ _ hp => hp.text)
  rw [List.forall₂_eq_eq_eq] at htexts
  rw [htexts, ofTexts, List.map_map]
  rfl

theorem getD_pretty (m : Metadata) : (pretty m).getD "" = " ".intercalate (m.map pairText) := by
  cases m with
  | nil => rfl
  | cons p rest => rfl

/-- A template with the placeholder of the metadata alone shows them as they are. -/
theorem fill_metadata (e : Entry) (m : Metadata) :
    { e with metadata := pretty m }.fill (Template.ofText "(%metadata)") =
      " ".intercalate (m.map pairText) := by
  have hplaceholder : "(%metadata)" = Field.metadata.placeholder := by decide
  rw [hplaceholder, Entry.fill_ofText, Template.expand_placeholder, ← getD_pretty]
  rfl

/-- Metadata of texts are read from what is shown of their pairs. -/
theorem ofPairs?_map_pairText {m : Metadata} (hm : m.Distinct)
    (htexts : ∀ p ∈ m, IsKey p.1 ∧ ∃ text, p.2 = .text text) :
    ofPairs? (m.map pairText) = some m := by
  let pairs := m.map fun p => (p.1, p.2.toText)
  have hpairs : ofTexts pairs = m := by
    rw [ofTexts, List.map_map]
    refine (List.map_congr_left fun p hp => ?_).trans (List.map_id' m)
    rcases htexts p hp with ⟨_, text, htext⟩
    rw [Function.comp_apply, htext, Value.toText, ← htext]
  have hread : List.Forall₂ (fun s p => IsPair s p.1 p.2) (m.map pairText) pairs := by
    rw [List.forall₂_map_left_iff, List.forall₂_map_right_iff, List.forall₂_same]
    exact fun p hp => ⟨(htexts p hp).1, rfl⟩
  rw [ofPairs?_eq_merge, (mapM_splitPair?_eq_some_iff _ _).mpr hread, Option.map_some, hpairs,
    nil_merge hm]

end Metadata

namespace Cli

/-! ### Pairs on the command line -/

theorem code_complain (markup : String) : (complain markup).code = 1 := by
  rw [complain]
  split <;> rfl

theorem code_ofExcept_le (x : Except Failure String) : (Outcome.ofExcept x).code ≤ 1 := by
  cases x with
  | ok output => exact Nat.zero_le 1
  | error f => exact Nat.le_refl 1

/-- Rendering takes all arguments but texts that are no pairs. -/
theorem render_eq_usage_iff (s : Surroundings) (r : RenderRequest) :
    render s r = .usage ↔ Metadata.ofPairs? r.pairs = none := by
  constructor
  · intro h
    cases hm : Metadata.ofPairs? r.pairs with
    | none => rfl
    | some m =>
        -- With metadata, a run ends with a lower code.
        have hcode : (render s r).code ≤ 1 := by
          rw [render, hm]
          dsimp only
          split
          · split
            · exact Nat.le_of_eq (code_complain _)
            · exact Nat.le_refl 1
          · exact code_ofExcept_le _
        rw [h] at hcode
        exact absurd hcode (by decide)
  · intro h
    rw [render, h]

end Cli

namespace Metadata

/-- Texts are read as metadata unless one of them has no equals sign or starts with one,
    which is the one thing that rendering refuses as it was written. Each text is split
    at its first equals sign; the keys are there once, in the order of their first time,
    each with the last value that it was given. What is shown of metadata of texts is
    read as these metadata; and where all keys of the texts are different, what is shown
    are the texts. -/
theorem ofPairs?_reads_pairs (texts : List String) :
    (ofPairs? texts = none ↔ ∃ s ∈ texts, '=' ∉ s.toList ∨ s.toList.head? = some '=') ∧
      (∀ (s : Cli.Surroundings) (r : Cli.RenderRequest),
        Cli.render s { r with pairs := texts } = .usage ↔ ofPairs? texts = none) ∧
      (∀ m, ofPairs? texts = some m →
        ∃ pairs : List (String × String),
          List.Forall₂ (fun s p => IsPair s p.1 p.2) texts pairs ∧
          m.Distinct ∧
          m.map Prod.fst = (pairs.map Prod.fst).eraseDups ∧
          (∀ key value, get? m key = some value ↔
            ∃ before text after, pairs = before ++ (key, text) :: after ∧
              key ∉ after.map Prod.fst ∧ value = .text text) ∧
          ((pairs.map Prod.fst).Nodup → ∀ e : Entry,
            { e with metadata := pretty m }.fill (Template.ofText "(%metadata)") =
              " ".intercalate texts)) ∧
      ∀ m : Metadata, m.Distinct → (∀ p ∈ m, IsKey p.1 ∧ ∃ text, p.2 = .text text) →
        ofPairs? (m.map pairText) = some m := by
  refine ⟨?_, fun s r => Cli.render_eq_usage_iff s _, fun m hm => ?_,
    fun m => ofPairs?_map_pairText⟩
  · rw [ofPairs?_eq_merge, Option.map_eq_none_iff, mapM_splitPair?_eq_none_iff]
    exact exists_congr fun s => and_congr_right fun _ => splitPair?_eq_none_iff s
  · rw [ofPairs?_eq_merge] at hm
    rcases Option.map_eq_some_iff.mp hm with ⟨pairs, hread, rfl⟩
    rw [mapM_splitPair?_eq_some_iff] at hread
    refine ⟨pairs, hread, distinct_merge distinct_nil _, ?_, fun key value => ?_, ?_⟩
    · rw [map_fst_merge_nil, map_fst_ofTexts]
    · rw [get?_merge_nil, get?_reverse_eq_some_iff, exists_ofTexts_split_iff]
    · intro hkeys e
      have hdistinct : (ofTexts pairs).Distinct := by rwa [Distinct, map_fst_ofTexts]
      rw [fill_metadata, nil_merge hdistinct, map_pairText_ofTexts hread]

/-- A key that is given again keeps its place and takes the empty text, values hold equals
    signs, and different keys are shown as they were written. -/
theorem ofPairs?_reads_pairs_given_again :
    ofPairs? ["user=ada", "note=a=b", "user="] =
        some [("user", .text ""), ("note", .text "a=b")] ∧
      (∃ pairs : List (String × String),
        List.Forall₂ (fun s p => IsPair s p.1 p.2) ["user=ada", "note=a=b", "user="] pairs ∧
        (pairs.map Prod.fst).eraseDups = ["user", "note"]) ∧
      Distinct [("b", .text ""), ("a", .text "1=2")] ∧
      (∀ p ∈ [("b", Value.text ""), ("a", .text "1=2")], IsKey p.1 ∧ ∃ text, p.2 = .text text) ∧
      ofPairs? ["b=", "a=1=2"] = some [("b", .text ""), ("a", .text "1=2")] ∧
      ∀ e : Entry, { e with metadata := some "b= a=1=2" }.fill (Template.ofText "(%metadata)") =
        "b= a=1=2" := by
  have hagain : ofPairs? ["user=ada", "note=a=b", "user="] =
      some [("user", .text ""), ("note", .text "a=b")] := rfl
  have htexts : ∀ p ∈ [("b", Value.text ""), ("a", .text "1=2")],
      IsKey p.1 ∧ ∃ text, p.2 = .text text := by
    intro p hp
    rcases List.mem_cons.mp hp with rfl | hp
    · exact ⟨⟨by decide, by decide⟩, _, rfl⟩
    · rw [List.mem_singleton.mp hp]
      exact ⟨⟨by decide, by decide⟩, _, rfl⟩
  have hread := (ofPairs?_reads_pairs []).2.2.2 _ (by decide) htexts
  refine ⟨hagain, ?_, by decide, htexts, hread, fun e => ?_⟩
  · rcases (ofPairs?_reads_pairs _).2.2.1 _ hagain with ⟨pairs, hpairs, _, hkeys, _⟩
    exact ⟨pairs, hpairs, hkeys.symm⟩
  · rcases (ofPairs?_reads_pairs ["b=", "a=1=2"]).2.2.1 _ hread with
      ⟨pairs, hpairs, _, _, _, hshown⟩
    have hsplit : ["b=", "a=1=2"].mapM splitPair? = some [("b", ""), ("a", "1=2")] := rfl
    have hsame := hsplit.symm.trans ((mapM_splitPair?_eq_some_iff _ _).mpr hpairs)
    rw [← Option.some.inj hsame] at hshown
    exact hshown (by decide) e

end Metadata

end TextLog
