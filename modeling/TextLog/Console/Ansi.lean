/-!
# Terminal Sequences

Taking the sequences that control a terminal out of a text that does not go to
one.

A sequence is an escape character, an opening bracket, any number of digits,
semicolons and question marks, and one letter. The text is read once from left
to right; what the removal of a sequence brings together is not read again.

## Main definitions

* `sequence?`: What is left behind the sequence that a text starts with.
* `stripAnsi`: A text without its sequences.
-/

namespace TextLog

namespace Console

/-- A character between the bracket and the letter of a sequence. -/
def isParameter (c : Char) : Bool :=
  c.isDigit || c == ';' || c == '?'

/-- What is left behind the parameters and the letter of a sequence. -/
def afterLetter? : List Char → Option (List Char)
  | [] => none
  | c :: rest =>
    if isParameter c then afterLetter? rest
    else if c.isAlpha then some rest
    else none

/-- What is left behind the sequence that a text starts with. -/
def sequence? : List Char → Option (List Char)
  | '\x1b' :: '[' :: rest => afterLetter? rest
  | _ => none

/-- What is left is shorter. -/
theorem afterLetter?_length_lt {cs rest : List Char} (h : afterLetter? cs = some rest) :
    rest.length < cs.length := by
  induction cs with
  | nil => simp [afterLetter?] at h
  | cons c cs ih =>
    unfold afterLetter? at h
    split at h
    · exact Nat.lt_succ_of_lt (ih h)
    · split at h
      · simp only [Option.some.injEq] at h
        simp [h]
      · simp at h

/-- What is left behind a sequence is shorter. -/
theorem sequence?_length_lt {cs rest : List Char} (h : sequence? cs = some rest) :
    rest.length < cs.length := by
  unfold sequence? at h
  split at h
  · have := afterLetter?_length_lt h
    simp only [List.length_cons]
    omega
  · simp at h

/-- The characters without the sequences among them. -/
def stripChars (cs : List Char) : List Char :=
  match cs with
  | [] => []
  | c :: rest =>
    match _h : sequence? (c :: rest) with
    | some after => stripChars after
    | none => c :: stripChars rest
  termination_by cs.length
  decreasing_by
  · exact sequence?_length_lt _h
  · exact Nat.lt_succ_self _

/-- The text without its sequences. -/
def stripAnsi (s : String) : String :=
  String.ofList (stripChars s.toList)

end Console

end TextLog
