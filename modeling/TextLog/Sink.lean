import TextLog.Failure

/-!
# Sinks and Streams

Where finished lines go.

A sink is a reference to an output: the standard output, a text stream or a
memory that keeps lines. Streams and the standard output may hold back what is
written until they are flushed; a stream that cannot be flushed shows
everything at once. A stream may refuse a text, and then shows nothing of it.

Writing to a stream is all that can fail here. A stream that takes a text can
also be flushed, and the standard output takes every text; streams whose flushing
fails and standard outputs that are closed are left out.

## Main definitions

* `Sink`: A destination of lines.
* `Stream`: A text stream.
* `Stdout`: The standard output.
-/

namespace TextLog

/-- A reference to a text stream. -/
structure StreamId where
  index : Nat
  deriving DecidableEq, Repr

/-- A reference to a memory. -/
structure MemoryId where
  index : Nat
  deriving DecidableEq, Repr

/-- A destination of lines. -/
inductive Sink where
  /-- The standard output of the process, whatever it is when a line is
      written. -/
  | stdout
  /-- A text stream. -/
  | stream (id : StreamId)
  /-- A memory that keeps the lines. -/
  | memory (id : MemoryId)
  deriving DecidableEq, Repr

namespace Sink

/-- The name of the kind of a sink. -/
def kind : Sink → String
  | .stdout => "StdoutSink"
  | .stream _ => "StreamSink"
  | .memory _ => "MemorySink"

/-- The sink is the standard output, which activation by default assumes. -/
def isDefault : Sink → Bool
  | .stdout => true
  | _ => false

end Sink

/-- What a stream sink is asked to write to. -/
inductive SinkTarget where
  /-- A text stream. -/
  | stream (id : StreamId)
  /-- Some other object, which cannot be written to. -/
  | object (v : Value)

/-- The sink for a target. -/
def SinkTarget.toSink : SinkTarget → Except Failure Sink
  | .stream id => .ok (.stream id)
  | .object v => .error (.notWritable v)

/-- A text stream. `refusal` tells for which texts and why writing fails; flushing
    does not fail. What is written to a stream that can be flushed is pending until
    then. -/
structure Stream where
  canFlush : Bool
  refusal : String → Option String
  shown : String
  pending : String
  flushes : Nat

namespace Stream

/-- An empty stream that can be flushed. -/
def buffered : Stream :=
  ⟨true, fun _ => none, "", "", 0⟩

/-- An empty stream that can only be written to. -/
def direct : Stream :=
  ⟨false, fun _ => none, "", "", 0⟩

/-- A word occurs in a text. -/
def mentions (word : List Char) : List Char → Bool
  | [] => word.isEmpty
  | c :: rest => word.isPrefixOf (c :: rest) || mentions word rest

/-- An empty stream that can only be written to and runs out of space for texts
    with a given word. -/
def faulty (word : String) : Stream :=
  ⟨false, fun s => if mentions word.toList s.toList then some "disk full" else none, "", "", 0⟩

/-- Takes a text. -/
def write (s : Stream) (text : String) : Except Failure Stream :=
  match s.refusal text with
  | some reason => .error (.stream reason)
  | none =>
    .ok (if s.canFlush then { s with pending := s.pending ++ text }
      else { s with shown := s.shown ++ text })

/-- Shows what is pending, if the stream can be flushed. -/
def flush (s : Stream) : Stream :=
  if s.canFlush then
    { s with shown := s.shown ++ s.pending, pending := "", flushes := s.flushes + 1 }
  else s

/-- Takes a line and shows it at once. -/
def writeLine (s : Stream) (line : String) : Except Failure Stream :=
  (s.write (line ++ "\n")).map flush

end Stream

/-- The standard output, which takes every text. A plain one has no modes to
    switch. -/
structure Stdout where
  shown : String
  pending : String
  plain : Bool
  lineBuffered : Bool
  writeThrough : Bool

namespace Stdout

/-- A standard output to which nothing has been written. -/
def empty (plain : Bool) : Stdout :=
  ⟨"", "", plain, false, false⟩

/-- Takes a text, which is pending unless the output writes through. -/
def write (o : Stdout) (text : String) : Stdout :=
  if o.writeThrough then { o with shown := o.shown ++ o.pending ++ text, pending := "" }
  else { o with pending := o.pending ++ text }

/-- Shows what is pending. -/
def flush (o : Stdout) : Stdout :=
  { o with shown := o.shown ++ o.pending, pending := "" }

/-- Takes a line and shows it at once. -/
def writeLine (o : Stdout) (line : String) : Stdout :=
  (o.write (line ++ "\n")).flush

/-- Switches to writing through, if the output has modes. -/
def unbuffer (o : Stdout) : Stdout :=
  if o.plain then o else { o with lineBuffered := true, writeThrough := true }

end Stdout

end TextLog
