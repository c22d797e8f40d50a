import TextLog.Proofs.Settings.Checks
import Mathlib.Data.List.Defs

/-!
# Which Source Wins

What is loaded depends on one value for each setting, that of the source which wins.

Four sources may give a value to a setting: a keyword, the environment, the file and the
default. The first of them that does wins, and what the others give is not even looked
at, so that it may be removed, changed or invalid. The file is a source of its own only
if no value in it refers to another name, because a reference takes its meaning from
the environment or from another line. As the defaults pass the checks as they are, a
default counts like a value that was given.

## Main definitions

* `Bindings.IsPlain`, `Bindings.IsPlainFile`: Texts and files without references.
* `fieldNames`, `defaultOf`: The names of the settings and their defaults.
* `Sources.keyword?`, `Sources.environment?`, `Sources.bound?`: What each source gives.
* `Sources.winning`: The value of the source that wins.
* `Sources.ofValues`: A source with given values for all settings.
* `Sources.SameUnshadowed`: Sources that differ in shadowed values only.

## Theorems

* `Bindings.resolve_of_isPlainFile`: Bindings without references stay as they are.
* `Sources.value?_eq_given?`: The sources of a value, if the file is plain.
* `Sources.read_eq_check`: A default counts like a value that was given.
* `load_ofValues`: What is loaded depends on the winning values.
* `Sources.winning_congr`: Shadowed values do not matter.
-/

namespace TextLog

namespace Bindings

/-! ### Files without references -/

/-- A text in which no reference begins. -/
def IsPlain (cs : List Char) : Prop :=
  ∀ rest ∈ cs.tails, reference? rest = none

instance (cs : List Char) : Decidable (IsPlain cs) :=
  inferInstanceAs (Decidable (∀ rest ∈ cs.tails, reference? rest = none))

/-- A file in which no value refers to another name. -/
def IsPlainFile (file : String) : Prop :=
  ∀ b ∈ ofText file, ∀ value ∈ b.2, IsPlain value.toList

instance (file : String) : Decidable (IsPlainFile file) :=
  inferInstanceAs (Decidable (∀ b ∈ ofText file, ∀ value ∈ b.2, IsPlain value.toList))

theorem expandFrom_of_isPlain (meaning : String → Option String) :
    ∀ {cs : List Char}, IsPlain cs → expandFrom meaning cs.length cs = cs := by
  intro cs h
  induction cs with
  | nil => rfl
  | cons c rest ih =>
      rw [IsPlain, List.tails, List.forall_mem_cons] at h
      rw [List.length_cons, expandFrom, h.1]
      exact congrArg (c :: ·) (ih h.2)

theorem expand_of_isPlain (meaning : String → Option String) {text : String}
    (h : IsPlain text.toList) : expand meaning text = text := by
  rw [expand, expandFrom_of_isPlain meaning h, String.ofList_toList]

theorem resolveFrom_of_isPlain (around : List (String × String)) {bs : List Binding}
    (h : ∀ b ∈ bs, ∀ value ∈ b.2, IsPlain value.toList) (seen : List Binding) :
    resolveFrom around seen bs = bs := by
  induction bs generalizing seen with
  | nil => rfl
  | cons b rest ih =>
      rcases b with ⟨name, value⟩
      rw [List.forall_mem_cons] at h
      have hvalue : value.map (expand (meaning? around seen)) = value := by
        cases value with
        | none => rfl
        | some text => rw [Option.map_some, expand_of_isPlain _ (h.1 text rfl)]
      rw [resolveFrom, hvalue, ih h.2]

/-- Bindings without references stay as they are, whatever is around them. -/
theorem resolve_of_isPlainFile (around : List (String × String)) {file : String}
    (h : IsPlainFile file) : resolve around (ofText file) = ofText file :=
  resolveFrom_of_isPlain around h []

end Bindings

namespace Settings

/-! ### The sources -/

/-- The names of the settings, in order. -/
def fieldNames : List String :=
  (toKeywords {}).map Prod.fst

/-- The default of a setting as a value. -/
def defaultOf (field : String) : Value :=
  (Metadata.get? (toKeywords {}) field).getD .null

namespace Sources

/-- The value that a keyword gives to a setting. -/
def keyword? (s : Sources) (field : String) : Option Value :=
  Metadata.get? s.keywords field

/-- The text that the environment gives to a setting. -/
def environment? (s : Sources) (field : String) : Option String :=
  s.environment.lookup (leadIn ++ field)

/-- The text that the file gives to a setting. -/
def bound? (s : Sources) (field : String) : Option String :=
  Bindings.value? (Bindings.ofText s.file) (leadIn ++ field)

/-- The value that is given to a setting: by a keyword, else by the environment, else by
    the file. -/
def given? (s : Sources) (field : String) : Option Value :=
  (s.keyword? field).or (((s.environment? field).or (s.bound? field)).map .text)

/-- The value of the source that wins, the last of them being the default. -/
def winning (s : Sources) (field : String) : Value :=
  (s.given? field).getD (defaultOf field)

/-- A source with given values for all settings. -/
def ofValues (values : String → Value) : Sources :=
  ⟨fieldNames.map fun field => (field, values field), [], ""⟩

/-- Sources that differ in shadowed values only: the keywords are the same, and so is the
    environment where there is no keyword, and the file where there is neither. -/
structure SameUnshadowed (s t : Sources) : Prop where
  keyword : ∀ field ∈ fieldNames, s.keyword? field = t.keyword? field
  environment : ∀ field ∈ fieldNames, s.keyword? field = none →
    s.environment? field = t.environment? field
  bound : ∀ field ∈ fieldNames, s.keyword? field = none → s.environment? field = none →
    s.bound? field = t.bound? field

/-- The sources of a value, if the file is plain. -/
theorem value?_eq_given? {s : Sources} (h : Bindings.IsPlainFile s.file) (field : String) :
    s.value? field = s.given? field := by
  rw [value?, Bindings.resolve_of_isPlainFile _ h, given?, keyword?, environment?, bound?]
  cases Metadata.get? s.keywords field with
  | some v => rfl
  | none =>
      cases s.environment.lookup (leadIn ++ field) with
      | some text => rfl
      | none => rfl

/-- Shadowed values do not matter for which value wins. -/
theorem winning_congr {s t : Sources} (h : s.SameUnshadowed t) {field : String}
    (hfield : field ∈ fieldNames) : s.winning field = t.winning field := by
  have hkeyword := h.keyword field hfield
  have henvironment := h.environment field hfield
  have hbound := h.bound field hfield
  rw [winning, winning, given?, given?, ← hkeyword]
  cases hk : s.keyword? field with
  | some v => rfl
  | none =>
      rw [← henvironment hk]
      cases he : s.environment? field with
      | some v => rfl
      | none => rw [hbound hk he]

/-- A default that passes the check of its setting counts like a value that was given. -/
theorem read_eq_check {α : Type} {s : Sources} (h : Bindings.IsPlainFile s.file)
    {field : String} {check : Value → Checked α} {fallback : α}
    (hdefault : check (defaultOf field) = .ok fallback) :
    s.read field check fallback = check (s.winning field) := by
  rw [read, value?_eq_given? h, winning]
  cases s.given? field with
  | some v => rfl
  | none => exact hdefault.symm

theorem checkedZone_eq_check {s : Sources} (h : Bindings.IsPlainFile s.file) :
    s.checkedZone = checkZone (s.winning "TIME_ZONE") := by
  rw [checkedZone, value?_eq_given? h, winning]
  cases s.given? "TIME_ZONE" <;> rfl

end Sources

/-! ### What is loaded -/

/-- What is loaded depends on the winning values alone: with the same values as keywords it
    is the same. -/
theorem load_ofValues {s : Sources} (h : Bindings.IsPlainFile s.file) :
    load (Sources.ofValues s.winning) = load s := by
  have hread {α : Type} (field : String) (check : Value → Checked α) (fallback : α)
      (hkeyword : (Sources.ofValues s.winning).value? field = some (s.winning field))
      (hdefault : check (defaultOf field) = .ok fallback) :
      (Sources.ofValues s.winning).read field check fallback = s.read field check fallback := by
    rw [Sources.read_eq_check h hdefault, Sources.read, hkeyword]
  have hzone : (Sources.ofValues s.winning).checkedZone = s.checkedZone := by
    rw [Sources.checkedZone_eq_check h]
    rfl
  have hsame (zone : Checked (Option String)) :
      (Sources.ofValues s.winning).problems zone = s.problems zone ∧
        (Sources.ofValues s.winning).settings zone = s.settings zone := by
    simp only [Sources.problems, Sources.problemsBefore, Sources.problemsBetween,
      Sources.settings, Sources.checkedThreshold, hread "APP_NAME" checkText "heliumlog" rfl rfl,
      hread "APP_VERSION" checkText "0.1.0" rfl rfl,
      hread "ENVIRONMENT" checkText "development" rfl rfl,
      hread "DEBUG" checkTruth false rfl rfl, hread "LOG_LEVEL" checkLogLevel "WARNING" rfl rfl,
      hread "LOG_FORMAT" checkLogFormat "text" rfl rfl,
      hread "THRESHOLD" checkThreshold "VERBOSE" rfl rfl,
      hread "COLORED" checkTruth false rfl rfl, hread "DETAILS" checkTruth true rfl rfl,
      hread "FULL_FILE_PATH" checkTruth false rfl rfl, hread "FORMAT" checkOptional none rfl rfl,
      hread "DATE_FORMAT" checkOptional none rfl rfl, and_self]
  rw [load_eq, load_eq, hzone, funext fun zone => (hsame zone).1,
    funext fun zone => (hsame zone).2]

/-- Sources of which the same values win are loaded alike. -/
theorem load_congr {s t : Sources} (hs : Bindings.IsPlainFile s.file)
    (ht : Bindings.IsPlainFile t.file)
    (h : ∀ field ∈ fieldNames, s.winning field = t.winning field) : load s = load t := by
  have hvalues : Sources.ofValues s.winning = Sources.ofValues t.winning := by
    rw [Sources.ofValues, Sources.ofValues, List.map_congr_left fun field hfield => by
      rw [h field hfield]]
  rw [← load_ofValues hs, ← load_ofValues ht, hvalues]

end Settings

end TextLog
