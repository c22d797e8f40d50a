import TextLog.Value

/-!
# Metadata

Key and value pairs that accompany an event, in the order in which the keys
were first given.

Setting a key that is present keeps its place and replaces its value; a new key
goes to the end; a key that is removed and set again goes to the end as well.
Merging sets every pair of the second mapping on the first, so the second wins
and the order of the first is kept.

## Main definitions

* `Metadata`: An ordered mapping from keys to values.
* `Metadata.set`, `Metadata.erase`, `Metadata.get?`: Access by key.
* `Metadata.merge`: One mapping laid over another.
* `Metadata.pretty`: The text of a mapping in a line, if it is not empty.
-/

namespace TextLog

/-- Pairs of a key and a value in order of insertion. -/
abbrev Metadata := List (String × Value)

namespace Metadata

/-- The value of a key. -/
def get? : Metadata → String → Option Value
  | [], _ => none
  | (k, v) :: rest, key => if k = key then some v else get? rest key

/-- Gives a key a value, in place if the key is present and at the end if it is
    not. -/
def set : Metadata → String → Value → Metadata
  | [], key, value => [(key, value)]
  | (k, v) :: rest, key, value =>
    if k = key then (k, value) :: rest else (k, v) :: set rest key value

/-- Removes a key. -/
def erase : Metadata → String → Metadata
  | [], _ => []
  | (k, v) :: rest, key => if k = key then rest else (k, v) :: erase rest key

/-- The key is present. -/
def has (m : Metadata) (key : String) : Bool :=
  (get? m key).isSome

/-- One mapping laid over another: its values win, its new keys follow. -/
def merge (base overrides : Metadata) : Metadata :=
  overrides.foldl (fun m p => set m p.1 p.2) base

/-- The mapping without the given keys. -/
def without (m : Metadata) (keys : List String) : Metadata :=
  keys.foldl erase m

/-- A pair as it stands in a line. -/
def pairText (p : String × Value) : String :=
  p.1 ++ "=" ++ p.2.toText

/-- The pairs separated by spaces, or nothing for the empty mapping. -/
def pretty (m : Metadata) : Option String :=
  if m.isEmpty then none else some (" ".intercalate (m.map pairText))

/-- The mapping as a value. -/
def toValue (m : Metadata) : Value :=
  .map m

end Metadata

end TextLog
