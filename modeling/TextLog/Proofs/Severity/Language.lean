import Mathlib.Data.List.Nodup
import Mathlib.Data.List.TakeWhile
import TextLog.Proofs.Logger.Configuration
import TextLog.Text.Word

/-!
# The Language of Severities

Which values stand for a severity, and for which one.

A text stands for a severity if it is one of its names in letters of any case, with
blanks around it, and for no other reason. The text is folded before it is looked up, and
folding could let characters in whose small letter is one of ASCII. There are two of them
in part or in whole, the Kelvin sign and the dotted `İ`, and no name comes of either. So a
text that holds anything but letters of ASCII between the blanks around it is refused, and
with it the text of every value that is neither a text nor an integer: each of these has a
sign or a bracket in it, but for the words for null, for infinity and for what is no
number.

## Main definitions

* `Text.Spells`: A text is another one in any case, with blanks around it.
* `Text.IsWithin`: A character of a text that is not among the blanks around it.
* `Severity.spellings`: The names of a severity.

## Theorems

* `stripChars_append`, `exists_blanks_around`: What stripping takes away.
* `stripChars_map_toLower`: Blanks have no case.
* `flatMap_lowerChar_eq_iff`: Plain letters are reached by folding as by their case.
* `lookup_names_eq_some_iff`: The table of names.
* `ofName?_eq_some_iff`: The names in any case, with blanks around them.
* `isAlpha_of_isWithin`, `ofName?_eq_none_of_mem`: What is accepted consists of letters.
* `ofName?_toText_of_isOther`: Values that are neither texts nor numbers of ranks.
* `parse_language`: The values that stand for a severity.
-/

namespace TextLog

namespace Text

/-- A text is another one in letters of any case, with blanks around it. Only the letters
    of ASCII have a case here. -/
def Spells (s name : String) : Prop :=
  ∃ before word after : List Char, s.toList = before ++ (word ++ after) ∧
    (∀ c ∈ before, isBlank c = true) ∧ (∀ c ∈ after, isBlank c = true) ∧
    word.map Char.toLower = name.toList.map Char.toLower

/-- A character stands in a text with something that is no blank at its place or before,
    and at its place or behind. -/
def IsWithin (c : Char) (s : String) : Prop :=
  ∃ before after : List Char, s.toList = before ++ c :: after ∧
    (∃ d ∈ before ++ [c], isBlank d = false) ∧ ∃ d ∈ c :: after, isBlank d = false

/-! ### Case -/

/-- A capital of ASCII has its small letter 32 places further on, and all other characters
    are left alone. -/
theorem toLower_cases (c : Char) :
    (65 ≤ c.toNat ∧ c.toNat ≤ 90 ∧ c.toLower.toNat = c.toNat + 32) ∨ c.toLower = c := by
  by_cases hc : c.val ≥ 'A'.val ∧ c.val ≤ 'Z'.val
  · have hlow : 65 ≤ c.toNat := UInt32.le_iff_toNat_le.mp hc.1
    have hhigh : c.toNat ≤ 90 := UInt32.le_iff_toNat_le.mp hc.2
    refine Or.inl ⟨hlow, hhigh, ?_⟩
    have hval : c.toLower.val = c.val + 32 := congrArg Char.val (dif_pos hc)
    change c.toLower.val.toNat = c.toNat + 32
    rw [hval, UInt32.toNat_add]
    exact Nat.mod_eq_of_lt (by change c.toNat + 32 < 2 ^ 32; omega)
  · exact Or.inr (dif_neg hc)

theorem isAlpha_iff (c : Char) :
    c.isAlpha = true ↔ (65 ≤ c.toNat ∧ c.toNat ≤ 90) ∨ (97 ≤ c.toNat ∧ c.toNat ≤ 122) := by
  have hparts : c.isAlpha = (decide (c.val ≥ 'A'.val ∧ c.val ≤ 'Z'.val) ||
      (decide (c.val ≥ 'a'.val) && decide (c.val ≤ 'z'.val))) := rfl
  simp only [hparts, Bool.or_eq_true, Bool.and_eq_true, decide_eq_true_eq]
  exact Iff.rfl

theorem isAlpha_toLower (c : Char) : c.toLower.isAlpha = c.isAlpha := by
  rw [Bool.eq_iff_iff, isAlpha_iff, isAlpha_iff]
  rcases toLower_cases c with ⟨hlow, hhigh, hsmall⟩ | hsame
  · omega
  · rw [hsame]

/-- A letter is no blank. -/
theorem isBlank_of_isAlpha {c : Char} (hc : c.isAlpha = true) : isBlank c = false := by
  rw [isAlpha_iff] at hc
  simp only [isBlank, Bool.or_eq_false_iff, Bool.and_eq_false_iff, decide_eq_false_iff_not,
    beq_eq_false_iff_ne]
  omega

/-- Blanks have no case. -/
theorem isBlank_toLower (c : Char) : isBlank c.toLower = isBlank c := by
  by_cases hc : c.isAlpha = true
  · rw [isBlank_of_isAlpha hc, isBlank_of_isAlpha ((isAlpha_toLower c).trans hc)]
  · rcases toLower_cases c with ⟨hlow, hhigh, _⟩ | hsame
    · exact absurd ((isAlpha_iff c).mpr (Or.inl ⟨hlow, hhigh⟩)) hc
    · rw [hsame]

/-! ### What stripping takes away -/

theorem stripRight_append_blanks (cs : List Char) {after : List Char}
    (hafter : ∀ c ∈ after, isBlank c = true) : stripRight (cs ++ after) = stripRight cs := by
  have hreverse : ∀ c ∈ after.reverse, isBlank c = true :=
    fun c hc => hafter c (List.mem_reverse.mp hc)
  rw [stripRight, stripRight, List.reverse_append, List.dropWhile_append_of_pos hreverse]

/-- Blanks around a text do not matter. -/
theorem stripChars_append (cs : List Char) {before after : List Char}
    (hbefore : ∀ c ∈ before, isBlank c = true) (hafter : ∀ c ∈ after, isBlank c = true) :
    stripChars (before ++ (cs ++ after)) = stripChars cs := by
  rw [stripChars, stripChars, List.dropWhile_append_of_pos hbefore, List.dropWhile_append]
  by_cases hblank : (cs.dropWhile isBlank).isEmpty = true
  · -- There is nothing but blanks.
    have hnone : after.dropWhile isBlank = [] := by
      rw [← List.append_nil after, List.dropWhile_append_of_pos hafter]
      rfl
    rw [if_pos hblank, hnone, List.isEmpty_iff.mp hblank]
  · rw [if_neg hblank, stripRight_append_blanks _ hafter]

/-- What is stripped off are blanks. -/
theorem exists_blanks_around (cs : List Char) :
    ∃ before after : List Char, cs = before ++ (stripChars cs ++ after) ∧
      (∀ c ∈ before, isBlank c = true) ∧ ∀ c ∈ after, isBlank c = true := by
  have hright : ∀ ds : List Char, ds = stripRight ds ++ (ds.reverse.takeWhile isBlank).reverse := by
    intro ds
    rw [stripRight, ← List.reverse_append, List.takeWhile_append_dropWhile, List.reverse_reverse]
  refine ⟨cs.takeWhile isBlank, ((cs.dropWhile isBlank).reverse.takeWhile isBlank).reverse, ?_,
    fun c hc => List.mem_takeWhile_imp hc,
    fun c hc => List.mem_takeWhile_imp (List.mem_reverse.mp hc)⟩
  rw [stripChars, ← hright, List.takeWhile_append_dropWhile]

theorem stripChars_map_toLower (cs : List Char) :
    stripChars (cs.map Char.toLower) = (stripChars cs).map Char.toLower := by
  have hcase : isBlank ∘ Char.toLower = isBlank := funext isBlank_toLower
  rw [stripChars, stripChars, stripRight, stripRight, List.dropWhile_map, hcase,
    ← List.map_reverse, List.dropWhile_map, hcase, List.map_reverse]

/-- A text with nothing to strip is spelled by those that are the same but for case when
    they are stripped. -/
theorem spells_iff {name : String} (hname : stripChars name.toList = name.toList) (s : String) :
    Spells s name ↔
      (stripChars s.toList).map Char.toLower = name.toList.map Char.toLower := by
  constructor
  · rintro ⟨before, word, after, hs, hbefore, hafter, hword⟩
    rw [hs, stripChars_append word hbefore hafter, ← stripChars_map_toLower, hword,
      stripChars_map_toLower, hname]
  · intro h
    rcases exists_blanks_around s.toList with ⟨before, after, hs, hbefore, hafter⟩
    exact ⟨before, stripChars s.toList, after, hs, hbefore, hafter, h⟩

/-- What spells a text is stripped to the same letters. -/
theorem map_stripChars_of_spells {s t : String} (h : Spells s t) :
    (stripChars s.toList).map Char.toLower = (stripChars t.toList).map Char.toLower := by
  rcases h with ⟨before, word, after, hs, hbefore, hafter, hword⟩
  rw [hs, stripChars_append word hbefore hafter, ← stripChars_map_toLower, hword,
    stripChars_map_toLower]

/-! ### Folding -/

/-- A character that comes of folding letters of ASCII other than the capital `K` only. -/
def IsPlainLetter (c : Char) : Prop :=
  c.isAlpha = true ∧ c ≠ 'k'

instance (c : Char) : Decidable (IsPlainLetter c) :=
  inferInstanceAs (Decidable (c.isAlpha = true ∧ c ≠ 'k'))

/-- Where folding gives a plain letter it does what the case of ASCII does. -/
theorem lowerChar_of_isPlainLetter {c : Char}
    (hc : (∀ d ∈ lowerChar c, IsPlainLetter d) ∨ IsPlainLetter c.toLower) :
    lowerChar c = [c.toLower] := by
  by_cases hkelvin : c = '\u212a'
  · rw [hkelvin] at hc
    rcases hc with hall | hplain
    · exact absurd (hall 'k' (by decide)) (by decide)
    · exact absurd hplain (by decide)
  · by_cases hdotted : c = '\u0130'
    · rw [hdotted] at hc
      rcases hc with hall | hplain
      · exact absurd (hall '\u0307' (by decide)) (by decide)
      · exact absurd hplain (by decide)
    · rw [lowerChar, if_neg hkelvin, if_neg hdotted]

/-- Plain letters are reached by folding as by their case. -/
theorem flatMap_lowerChar_eq_iff (cs : List Char) {ds : List Char}
    (hds : ∀ d ∈ ds, IsPlainLetter d) :
    cs.flatMap lowerChar = ds ↔ cs.map Char.toLower = ds := by
  have hsame : (∀ c ∈ cs, lowerChar c = [c.toLower]) →
      cs.flatMap lowerChar = cs.map Char.toLower := by
    intro h
    rw [List.flatMap_congr h]
    exact List.map_eq_flatMap.symm
  constructor
  · intro h
    rw [← hsame fun c hc => lowerChar_of_isPlainLetter (Or.inl fun d hd =>
      hds d (h ▸ List.mem_flatMap.mpr ⟨c, hc, hd⟩))]
    exact h
  · intro h
    rw [hsame fun c hc => lowerChar_of_isPlainLetter (Or.inr
      (hds c.toLower (h ▸ List.mem_map_of_mem hc)))]
    exact h

/-! ### Digits -/

/-- A digit of any script is neither a blank nor a letter of ASCII. -/
theorem of_digit? {c : Char} (hc : (digit? c).isSome = true) :
    isBlank c = false ∧ c.isAlpha = false := by
  have hall : ∀ z ∈ digitZeros, ∀ i ∈ List.range 10,
      isBlank (Char.ofNat (z + i)) = false ∧ (Char.ofNat (z + i)).isAlpha = false := by
    decide +kernel
  rw [digit?, Option.isSome_map, List.find?_isSome] at hc
  rcases hc with ⟨z, hz, hrange⟩
  rw [Bool.and_eq_true, decide_eq_true_iff, decide_eq_true_iff] at hrange
  have hdigit := hall z hz (c.toNat - z) (List.mem_range.mpr (by omega))
  rwa [Nat.add_sub_cancel' hrange.1, Char.ofNat_toNat] at hdigit

end Text

namespace Severity

open Text

/-- The short forms of the name of a severity. -/
def shortForms : Severity → List String
  | .warning => ["warn"]
  | .error => ["err"]
  | .critical => ["fatal"]
  | _ => []

/-- The names of a severity: its description and its short forms. -/
def spellings (s : Severity) : List String :=
  s.description :: s.shortForms

/-! ### The table of names -/

theorem of_mem_spellings {s : Severity} {name : String} (h : name ∈ s.spellings) :
    stripChars name.toList = name.toList ∧
      name.toList.flatMap lowerChar = name.toList.map Char.toLower ∧
      ∀ c ∈ name.toList.map Char.toLower, IsPlainLetter c := by
  have hall : ∀ s ∈ all, ∀ name ∈ s.spellings, stripChars name.toList = name.toList ∧
      name.toList.flatMap lowerChar = name.toList.map Char.toLower ∧
      (name.toList.map Char.toLower).all fun c => decide (IsPlainLetter c) := by
    decide
  rcases hall s (by cases s <;> decide) name h with ⟨hstrip, hfold, hplain⟩
  exact ⟨hstrip, hfold, fun c hc => of_decide_eq_true (List.all_eq_true.mp hplain c hc)⟩

theorem mem_names_iff (key : String) (s : Severity) :
    (key, s) ∈ names ↔ ∃ name ∈ s.spellings, key = lower name := by
  have hshort : lower "warn" = "warn" ∧ lower "err" = "err" ∧ lower "fatal" = "fatal" := by decide
  cases s <;>
    simp [names, all, spellings, shortForms, hshort]

/-- The names of the severities are distinct, so that the table has each of them. -/
theorem lookup_names_eq_some_iff (key : String) (s : Severity) :
    names.lookup key = some s ↔ ∃ name ∈ s.spellings, key = lower name := by
  have hdistinct : (names.map Prod.fst).Nodup := by decide
  rw [← mem_names_iff, List.lookup_eq_some_iff]
  constructor
  · rintro ⟨before, after, hnames, _⟩
    rw [hnames]
    exact List.mem_append_right before List.mem_cons_self
  · intro h
    rcases List.append_of_mem h with ⟨before, after, hnames⟩
    refine ⟨before, after, hnames, fun p hp => bne_iff_ne.mpr fun heq => ?_⟩
    rw [hnames, List.map_append, List.map_cons] at hdistinct
    exact (List.nodup_middle.mp hdistinct).notMem
      (List.mem_append_left _ (List.mem_map.mpr ⟨p, hp, heq.symm⟩))

/-! ### Texts -/

/-- A text names a severity if it spells one of its names. -/
theorem ofName?_eq_some_iff (s : String) (severity : Severity) :
    ofName? s = some severity ↔ ∃ name ∈ severity.spellings, Spells s name := by
  rw [ofName?, lookup_names_eq_some_iff]
  refine exists_congr fun name => and_congr_right fun hname => ?_
  rcases of_mem_spellings hname with ⟨hstrip, hfold, hplain⟩
  rw [spells_iff hstrip, lower, lower, String.ofList_inj, strip, String.toList_ofList, hfold,
    flatMap_lowerChar_eq_iff _ hplain]

/-- What names a severity consists of letters of ASCII and blanks around them. -/
theorem exists_letters_of_ofName? {s : String} {severity : Severity}
    (h : ofName? s = some severity) :
    ∃ before word after : List Char, s.toList = before ++ (word ++ after) ∧
      (∀ c ∈ before, isBlank c = true) ∧ (∀ c ∈ after, isBlank c = true) ∧
      ∀ c ∈ word, c.isAlpha = true := by
  rcases (ofName?_eq_some_iff s severity).mp h with ⟨name, hname, before, word, after, hs, hbefore,
    hafter, hword⟩
  refine ⟨before, word, after, hs, hbefore, hafter, fun c hc => ?_⟩
  have hletter : c.toLower ∈ name.toList.map Char.toLower := hword ▸ List.mem_map_of_mem hc
  rw [← isAlpha_toLower]
  exact ((of_mem_spellings hname).2.2 c.toLower hletter).1

/-- A text with anything that is neither a blank nor a letter of ASCII names none. -/
theorem ofName?_eq_none_of_mem {s : String} {c : Char} (hc : c ∈ s.toList)
    (hblank : isBlank c = false) (halpha : c.isAlpha = false) : ofName? s = none := by
  by_contra hsome
  rcases Option.ne_none_iff_exists'.mp hsome with ⟨severity, h⟩
  rcases exists_letters_of_ofName? h with ⟨before, word, after, hs, hbefore, hafter, hword⟩
  rw [hs, List.mem_append, List.mem_append] at hc
  rcases hc with hc | hc | hc
  · exact absurd (hbefore c hc) (by rw [hblank]; decide)
  · exact absurd (hword c hc) (by rw [halpha]; decide)
  · exact absurd (hafter c hc) (by rw [hblank]; decide)

/-- A member of two lists one behind the other stands in the first or in the second. -/
theorem exists_of_append_cons_eq {α : Type} {front back xs ys : List α} {a : α}
    (h : front ++ a :: back = xs ++ ys) :
    (∃ zs, xs = front ++ a :: zs) ∨ ∃ zs, ys = zs ++ a :: back := by
  rcases List.append_eq_append_iff.mp h with ⟨as, hxs, hys⟩ | ⟨bs, _, hys⟩
  · cases as with
    | nil => exact Or.inr ⟨[], hys.symm⟩
    | cons b as =>
        rw [List.cons_append, List.cons.injEq] at hys
        exact Or.inl ⟨as, hys.1 ▸ hxs⟩
  · exact Or.inr ⟨bs, hys⟩

/-- What stands in a name between the blanks around it is a letter of ASCII. -/
theorem isAlpha_of_isWithin {s : String} {severity : Severity} (h : ofName? s = some severity)
    {c : Char} (hc : IsWithin c s) : c.isAlpha = true := by
  rcases exists_letters_of_ofName? h with ⟨before, word, after, hs, hbefore, hafter, hword⟩
  rcases hc with ⟨front, back, hfront, ⟨d, hd, hdblank⟩, ⟨e, he, heblank⟩⟩
  -- There is something else than a blank up to the character, and from it on.
  rcases exists_of_append_cons_eq (hfront.symm.trans hs) with ⟨zs, hzs⟩ | ⟨zs, hzs⟩
  · have hmem : d ∈ before := by
      rw [hzs, ← List.singleton_append, ← List.append_assoc]
      exact List.mem_append_left zs hd
    exact absurd (hbefore d hmem) (by rw [hdblank]; decide)
  · rcases exists_of_append_cons_eq hzs.symm with ⟨ws, hws⟩ | ⟨ws, hws⟩
    · exact hword c (hws ▸ List.mem_append_right zs List.mem_cons_self)
    · have hmem : e ∈ after := hws ▸ List.mem_append_right ws he
      exact absurd (hafter e hmem) (by rw [heblank]; decide)

/-! ### Other values -/

/-- A number that is laid out has a point in it, or the sign of its exponent. -/
theorem exists_sign_of_layOut (ds : List Char) (order : Int) :
    ∃ c ∈ Decimal.layOut ds order, c ∈ ['.', '+', '-'] := by
  rw [Decimal.layOut]
  split
  · -- The sign of the exponent follows its letter.
    rw [Decimal.exponentText]
    split
    · exact ⟨'-', by simp, by decide⟩
    · exact ⟨'+', by simp, by decide⟩
  · split
    · exact ⟨'.', by simp, by decide⟩
    · simp only
      split
      · exact ⟨'.', by simp, by decide⟩
      · exact ⟨'.', by simp, by decide⟩

/-- The text of a number with a fraction has a point or a sign in it, unless it is a
    word. -/
theorem ofName?_text_float (x : Binary64) : ofName? x.text = none := by
  have hsign : ∀ c ∈ ['.', '+', '-'], isBlank c = false ∧ c.isAlpha = false := by
    simp only [List.forall_mem_cons, List.not_mem_nil, false_imp_iff, implies_true]
    decide
  have hof : ∀ cs : List Char, (∃ c ∈ cs, c ∈ ['.', '+', '-']) →
      ofName? (String.ofList cs) = none := by
    rintro cs ⟨c, hc, hmem⟩
    have hin : c ∈ (String.ofList cs).toList := by rwa [String.toList_ofList]
    exact ofName?_eq_none_of_mem hin (hsign c hmem).1 (hsign c hmem).2
  cases x with
  | nan => decide
  | infinite negative => cases negative <;> decide
  | finite negative mantissa exponent =>
      simp only [Binary64.text]
      split
      · exact hof _ ⟨'.', by simp, by decide⟩
      · rcases exists_sign_of_layOut (Decimal.dropTrailingZeros _) _ with ⟨c, hc, hmem⟩
        exact hof _ ⟨c, List.mem_append_right _ hc, hmem⟩

/-- The text of a list or a map starts with a bracket. -/
theorem ofName?_of_bracket {c : Char} (hc : isBlank c = false ∧ c.isAlpha = false) {start : String}
    (hstart : start.toList = [c]) (rest : String) : ofName? (start ++ rest) = none := by
  have hin : c ∈ (start ++ rest).toList := by
    rw [String.toList_append, hstart]
    exact List.mem_cons_self
  exact ofName?_eq_none_of_mem hin hc.1 hc.2

/-- The values that are no texts, no integers and no truth values. -/
inductive IsOther : Value → Prop where
  | null : IsOther .null
  | float (x : Binary64) : IsOther (.float x)
  | list (items : List Value) : IsOther (.list items)
  | map (entries : List (String × Value)) : IsOther (.map entries)

/-- The text of any other value names no severity. -/
theorem ofName?_toText_of_isOther {v : Value} (hv : IsOther v) : ofName? v.toText = none := by
  cases hv with
  | null => decide
  | float x => exact ofName?_text_float x
  | list items =>
      change ofName? ("[" ++ ", ".intercalate (Value.itemLiterals Text.quote items) ++ "]") = none
      rw [String.append_assoc]
      exact ofName?_of_bracket (by decide) rfl _
  | map entries =>
      change ofName?
        ("\x7b" ++ ", ".intercalate (Value.entryLiterals Text.quote entries) ++ "\x7d") = none
      rw [String.append_assoc]
      exact ofName?_of_bracket (by decide) rfl _

/-! ### Values -/

theorem parse_text_eq_ok_iff (s : String) (severity : Severity) :
    parse (.text s) = .ok severity ↔ ofName? s = some severity := by
  simp only [parse, Value.toText]
  cases ofName? s with
  | none => simp only [reduceCtorEq]
  | some found => simp only [Except.ok.injEq, Option.some.injEq]

theorem parse_of_ofName?_eq_none {v : Value} (hv : (∃ s, v = .text s) ∨ IsOther v)
    (hnone : ofName? v.toText = none) : parse v = .error (.severityName v sortedNames) := by
  rcases hv with ⟨s, rfl⟩ | hother
  · simp only [parse, hnone]
  · cases hother <;> simp only [parse, hnone]

theorem ofRank?_eq_some_iff (n : Int) (severity : Severity) :
    ofRank? n = some severity ↔ n = severity.rank := by
  constructor
  · intro h
    have hfound := List.find?_some h
    exact (eq_of_beq hfound).symm
  · intro h
    rw [h]
    cases severity <;> decide

theorem parse_int_eq_ok_iff (n : Int) (severity : Severity) :
    parse (.int n) = .ok severity ↔ n = severity.rank := by
  rw [← ofRank?_eq_some_iff]
  simp only [parse]
  cases ofRank? n with
  | none => simp only [reduceCtorEq]
  | some found => simp only [Except.ok.injEq, Option.some.injEq]

/-- What is refused is refused as a truth value, as a rank or by its text. -/
theorem failure_of_parse_eq_error {v : Value} {f : Failure} (h : parse v = .error f) :
    (∃ b, f = .severityFlag b) ∨ (∃ n, f = .severityRank n) ∨
      ∃ w valid, f = .severityName w valid := by
  unfold parse at h
  split at h
  · exact Or.inl ⟨_, (Except.error.inj h).symm⟩
  · split at h
    · exact absurd h (by simp only [reduceCtorEq, not_false_eq_true])
    · exact Or.inr (Or.inl ⟨_, (Except.error.inj h).symm⟩)
  · split at h
    · exact absurd h (by simp only [reduceCtorEq, not_false_eq_true])
    · exact Or.inr (Or.inr ⟨_, _, (Except.error.inj h).symm⟩)

/-- Whatever is refused is reported as a severity that is none. -/
theorem report_of_parse_eq_error {v : Value} {f : Failure} (h : parse v = .error f) :
    ∃ report, f.report? = some report ∧ report.kind = .severity ∧
      report.code = "INVALID_SEVERITY" := by
  rcases failure_of_parse_eq_error h with ⟨b, rfl⟩ | ⟨n, rfl⟩ | ⟨w, valid, rfl⟩
  · exact ⟨_, rfl, rfl, rfl⟩
  · exact ⟨_, rfl, rfl, rfl⟩
  · exact ⟨_, rfl, rfl, rfl⟩

/-- The values that stand for a severity. A text does if it spells one of the names of
    the severity, so that neither the blanks around it nor the case of its letters
    matter, and it never does if anything but ASCII stands between these blanks, or if there
    is a digit in it. An integer does if it is the rank of the severity. No other value does,
    truth values included, whatever its text is; whatever is refused is reported; and the
    description of the severity that a value stands for stands for it, too. -/
theorem parse_language :
    (∀ s severity, parse (.text s) = .ok severity ↔
        ∃ name ∈ severity.spellings, Spells s name) ∧
      (∀ s t severity, Spells s t →
        (parse (.text s) = .ok severity ↔ parse (.text t) = .ok severity)) ∧
      (∀ (s first second : String) (severity other : Severity), first ∈ severity.spellings →
        second ∈ other.spellings → Spells s first → Spells s second → severity = other) ∧
      (∀ s c, IsWithin c s → 128 ≤ c.toNat →
        parse (.text s) = .error (.severityName (.text s) sortedNames)) ∧
      (∀ s c, c ∈ s.toList → (digit? c).isSome = true →
        parse (.text s) = .error (.severityName (.text s) sortedNames)) ∧
      (∀ n severity, parse (.int n) = .ok severity ↔ n = severity.rank) ∧
      (∀ b, parse (.bool b) = .error (.severityFlag b)) ∧
      (∀ v, IsOther v → (∀ severity, parse (.text v.toText) ≠ .ok severity) ∧
        parse v = .error (.severityName v sortedNames)) ∧
      (∀ v f, parse v = .error f → ∃ report, f.report? = some report ∧
        report.kind = .severity ∧ report.code = "INVALID_SEVERITY") ∧
      ∀ v severity, parse v = .ok severity → parse (.text severity.description) = parse v := by
  have htext : ∀ s severity, parse (.text s) = .ok severity ↔
      ∃ name ∈ severity.spellings, Spells s name := fun s severity =>
    (parse_text_eq_ok_iff s severity).trans (ofName?_eq_some_iff s severity)
  have hrefused : ∀ s, ofName? s = none →
      parse (.text s) = .error (.severityName (.text s) sortedNames) := fun s hnone =>
    parse_of_ofName?_eq_none (Or.inl ⟨s, rfl⟩) hnone
  refine ⟨htext, ?_, ?_, ?_, ?_, parse_int_eq_ok_iff, fun b => rfl, ?_,
    fun v f => report_of_parse_eq_error, ?_⟩
  · intro s t severity hst
    rw [htext, htext]
    refine exists_congr fun name => and_congr_right fun hname => ?_
    have hstrip := (of_mem_spellings hname).1
    rw [spells_iff hstrip, spells_iff hstrip, map_stripChars_of_spells hst]
  · intro s first second severity other hfirst hsecond hs hs'
    have hseverity := (ofName?_eq_some_iff s severity).mpr ⟨first, hfirst, hs⟩
    have hother := (ofName?_eq_some_iff s other).mpr ⟨second, hsecond, hs'⟩
    exact Option.some.inj (hseverity.symm.trans hother)
  · intro s c hc hforeign
    refine hrefused s (Option.eq_none_iff_forall_ne_some.mpr fun severity h => ?_)
    have hletter := (isAlpha_iff c).mp (isAlpha_of_isWithin h hc)
    omega
  · intro s c hc hdigit
    exact hrefused s (ofName?_eq_none_of_mem hc (of_digit? hdigit).1 (of_digit? hdigit).2)
  · intro v hv
    have hnone := ofName?_toText_of_isOther hv
    refine ⟨fun severity h => ?_, parse_of_ofName?_eq_none (Or.inr hv) hnone⟩
    rw [parse_text_eq_ok_iff, hnone] at h
    exact absurd h (by simp only [reduceCtorEq, not_false_eq_true])
  · intro v severity h
    rw [h]
    exact Logger.parse_description severity

/-- A short form between unusual blanks is read, and a letter outside ASCII, a digit and
    the text of a list are not. -/
theorem parse_language_padded :
    parse (.text "\u3000wArN\x1c") = .ok .warning ∧
      parse (.text "ınfo") = .error (.severityName (.text "ınfo") sortedNames) ∧
      parse (.text "10") = .error (.severityName (.text "10") sortedNames) ∧
      parse (.list [.text "info"]) =
        .error (.severityName (.list [.text "info"]) sortedNames) := by
  rcases parse_language with ⟨htext, _, _, hforeign, hdigit, _, _, hother, _⟩
  refine ⟨(htext _ .warning).mpr ⟨"warn", by decide, ['\u3000'], "wArN".toList, ['\x1c'], rfl,
    List.forall_mem_singleton.mpr (by decide), List.forall_mem_singleton.mpr (by decide),
    by decide⟩, ?_, ?_, (hother _ (.list _)).2⟩
  · exact hforeign "ınfo" 'ı' ⟨[], "nfo".toList, rfl, ⟨'ı', by decide, by decide⟩,
      ⟨'ı', by decide, by decide⟩⟩ (by decide)
  · exact hdigit "10" '1' (by decide) (by decide)

end Severity

end TextLog
