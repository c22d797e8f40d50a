import TextLog.Console.Literal.Node
import TextLog.Console.Literal.Token
import Std.Data.HashMap

/-!
# Reading Tokens

Readers that take expressions from the tokens of a source.

A reader finds something, misses it, or refuses the source. One that misses
leaves the position for another one to try. Coming to the fault of a source also
refuses it. How far any reader has looked is kept, because what follows has not
been seen yet.

Sources that hold no expression are read a second time to find out why; readers
for common mistakes only work then. What a rule of the grammar has found at a
position is kept, so that no rule is tried there twice.

## Main definitions

* `Rule`: The rules of the grammar that are remembered or call each other.
* `Reader`: A reader.
* `firstOf`, `several`, `optional?`, `ahead`: Readers made of others.
-/

namespace TextLog

namespace Console

namespace Literal

/-- A rule of the grammar. -/
inductive Rule where
  | expression
  | expressionAlone
  | named
  | namedMistake
  | starred
  | starredList
  | disjunction
  | conjunction
  | inversion
  | disjoint
  | exclusive
  | common
  | shift
  | sum
  | term
  | factor
  | awaited
  | primary
  | texts
  | arguments
  | target
  | starTarget
  deriving DecidableEq, Hashable

/-- How far the reading has come. -/
structure Progress where
  position : Nat
  /-- The number of tokens that have been looked at. -/
  reached : Nat
  /-- The fault of the source has been come upon. -/
  stopped : Bool
  /-- Mistakes are looked for. -/
  explaining : Bool
  known : Std.HashMap (Rule × Nat) (Option (Node × Nat))

/-- How a reader ends. -/
inductive Reading (α : Type) where
  | found (a : α) (p : Progress)
  | missed (p : Progress)
  | refused (f : Fault) (p : Progress)

/-- A reader of the tokens of a source. -/
def Reader (α : Type) : Type :=
  Source → Progress → Reading α

namespace Reader

variable {α β : Type}

/-- Finds a value without looking at a token. -/
def found (a : α) : Reader α :=
  fun _ p => .found a p

/-- Reads on with what a reader has found. -/
def andThen (r : Reader α) (f : α → Reader β) : Reader β :=
  fun s p =>
    match r s p with
    | .found a p => f a s p
    | .missed p => .missed p
    | .refused fault p => .refused fault p

instance : Monad Reader where
  pure := found
  bind := andThen

/-- Finds nothing. -/
def miss : Reader α :=
  fun _ p => .missed p

/-- Refuses the source. -/
def refuse (f : Fault) : Reader α :=
  fun _ p => .refused f p

/-- The next token. -/
def peek : Reader Token :=
  fun s p =>
    match s.tokens[p.position]? with
    | some t => .found t { p with reached := max p.reached (p.position + 1) }
    | none =>
      match s.fault with
      | some f => .refused f { p with stopped := true }
      | none => .missed p

/-- Takes the next token if it fits. -/
def take (fits : Token → Bool) : Reader Token :=
  peek.andThen fun t _ p =>
    if fits t then .found t { p with position := p.position + 1 } else .missed p

/-- What a reader finds, if it does; otherwise the position stays. -/
def optional? (r : Reader α) : Reader (Option α) :=
  fun s p =>
    match r s p with
    | .found a p => .found (some a) p
    | .missed q => .found none { q with position := p.position }
    | .refused f p => .refused f p

/-- What the first reader finds that finds anything. -/
def firstOf : List (Reader α) → Reader α
  | [] => miss
  | r :: rest => r.optional?.andThen fun a =>
    match a with
    | some a => found a
    | none => firstOf rest

/-- Reads as often as a reader finds something, at most so many times. -/
def severalFrom (r : Reader α) : Nat → Reader (List α)
  | 0 => found []
  | n + 1 => r.optional?.andThen fun a =>
    match a with
    | some a => (severalFrom r n).andThen fun more => found (a :: more)
    | none => found []

/-- Reads as often as a reader finds something. -/
def several (r : Reader α) : Reader (List α) :=
  fun s p => r.severalFrom s.tokens.size s p

/-- What a reader finds, and more of it as long as a separator comes before. -/
def separated (r : Reader α) (separator : Reader β) : Reader (List α) :=
  r.andThen fun first =>
    (several (separator.andThen fun _ => r)).andThen fun more => found (first :: more)

/-- What a reader finds, without taking it. -/
def ahead (r : Reader α) : Reader α :=
  fun s p =>
    match r s p with
    | .found a q => .found a { q with position := p.position }
    | .missed q => .missed q
    | .refused f p => .refused f p

/-- Goes on only if a reader finds nothing. -/
def notAhead (r : Reader α) : Reader Unit :=
  fun s p =>
    match r s p with
    | .found _ q => .missed q
    | .missed q => .found () { q with position := p.position }
    | .refused f p => .refused f p

/-- A reader that only works while mistakes are looked for. -/
def mistake (r : Reader α) : Reader α :=
  fun s p => if p.explaining then r s p else .missed p

/-- Reads without looking for mistakes. -/
def withoutMistakes (r : Reader α) : Reader α :=
  fun s p =>
    let restore := fun (q : Progress) => { q with explaining := p.explaining }
    match r s { p with explaining := false } with
    | .found a q => .found a (restore q)
    | .missed q => .missed (restore q)
    | .refused f q => .refused f (restore q)

/-- Keeps what a reader finds at a position for the next time. -/
def remembered (rule : Rule) (r : Reader Node) : Reader Node :=
  fun s p =>
    match p.known[(rule, p.position)]? with
    | some (some (n, position)) => .found n { p with position := position }
    | some none => .missed p
    | none =>
      match r s p with
      | .found n q =>
        .found n { q with known := q.known.insert (rule, p.position) (some (n, q.position)) }
      | .missed q => .missed { q with known := q.known.insert (rule, p.position) none }
      | .refused f q => .refused f q

/-- The brackets that are open behind the last token taken. -/
def depth : Reader Nat :=
  fun s p => .found ((s.tokens[p.position - 1]?.map Token.depth).getD 0) p

end Reader

end Literal

end Console

end TextLog
