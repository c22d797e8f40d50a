import TextLog.Metadata

/-!
# Metadata from Pairs

Metadata written as texts of the form `key=value`.

The first equals sign separates key and value, so a value may be empty or hold
further equals signs, and a key is never empty. A key that is given again keeps
its place and takes the later value.

## Main definitions

* `splitPair?`: Key and value of a text.
* `Metadata.ofPairs?`: The metadata of a list of texts.
-/

namespace TextLog

/-- Key and value of a text with an equals sign that is not its first
    character. -/
def splitPair? (s : String) : Option (String × String) :=
  let cs := s.toList
  let key := cs.takeWhile (· != '=')
  match key, cs.dropWhile (· != '=') with
  | _ :: _, _ :: value => some (String.ofList key, String.ofList value)
  | _, _ => none

/-- The metadata of a list of texts, if each of them is a pair. -/
def Metadata.ofPairs? (pairs : List String) : Option Metadata :=
  (pairs.mapM splitPair?).map fun ps =>
    ps.foldl (fun m p => Metadata.set m p.1 (.text p.2)) []

end TextLog
