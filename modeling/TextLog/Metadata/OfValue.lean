import TextLog.Failure

/-!
# Metadata from Values

Reading metadata from a value of any kind.

A map is taken as it is. Otherwise the value has to be a sequence of pairs: a
list, or a text as the sequence of its characters. A pair is a list of two, a
text of two characters, or a map of two keys; a later pair with the same key
replaces the value of an earlier one. Lists and maps cannot be keys.

The keys of metadata are texts, so the pairs that this is about have texts for
keys. Of any other key only the text is kept, which is all that a line shows of
it; pairs whose keys differ but have the same text, such as a number and its
digits, are beyond what metadata can tell apart.

## Main definitions

* `Metadata.ofValue`: The metadata that a value stands for.
-/

namespace TextLog

namespace Metadata

/-- The members of a value that is a sequence. -/
def members? : Value → Option (List Value)
  | .list items => some items
  | .text s => some (s.toList.map fun c => .text (String.singleton c))
  | .map entries => some (entries.map fun p => .text p.1)
  | _ => none

/-- The key that a value stands for: a text, or else the text of the value. -/
def key : Value → Except Failure String
  | .list items => .error (.unhashable (Value.list items).kind)
  | .map entries => .error (.unhashable (Value.map entries).kind)
  | v => .ok v.toText

/-- Sets the pairs of a sequence, counted from an index. -/
def setPairs (m : Metadata) (index : Nat) : List Value → Except Failure Metadata
  | [] => .ok m
  | v :: rest =>
    match members? v with
    | none => .error (.pairKind index)
    | some [k, value] => (key k).bind fun k => setPairs (set m k value) (index + 1) rest
    | some others => .error (.pairLength index others.length)

/-- The metadata that a value stands for. -/
def ofValue (v : Value) : Except Failure Metadata :=
  match v with
  | .map entries => .ok entries
  | v =>
    match members? v with
    | some pairs => setPairs [] 0 pairs
    | none => .error (.notIterable v.kind)

end Metadata

end TextLog
