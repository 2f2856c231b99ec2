import JoinBench.ResultRecord

/-!
# Sinks of records

Records go to several sinks, each of which may fail when it is written to or flushed.  Every
record is flushed to one sink before it is written to the next.  A line is not written at once: its
line feed is a write of its own, which may fail behind a text that was stored.
-/

namespace JoinBench

/-- A place that text is written to. -/
structure Sink where
  /-- What was written so far. -/
  content : String
  /-- How often it was flushed. -/
  flushes : Nat
  /-- Why the write of a text after so many flushes fails. -/
  writeFault : Nat → Option String
  /-- Why the write of a line feed after so many flushes fails. -/
  lineFeedFault : Nat → Option String
  /-- Why the flush behind so many flushes fails. -/
  flushFault : Nat → Option String

namespace Sink

/-- An empty sink that never fails. -/
def empty : Sink :=
  ⟨"", 0, fun _ => none, fun _ => none, fun _ => none⟩

/-- Writes a text; a write that fails stores nothing. -/
def write (fault : Option String) (text : String) (sink : Sink) : Sink × Except Error Unit :=
  match fault with
  | some reason => (sink, .error (.io reason))
  | none => ({ sink with content := sink.content ++ text }, .ok ())

/-- Writes a line: first its text, then its line feed. -/
def writeLine (line : String) (sink : Sink) : Sink × Except Error Unit :=
  match sink.write (sink.writeFault sink.flushes) line with
  | (sink, .error e) => (sink, .error e)
  | (sink, .ok ()) => sink.write (sink.lineFeedFault sink.flushes) "\n"

/-- Flushes; what was written stays, also when this fails. -/
def flush (sink : Sink) : Sink × Except Error Unit :=
  let flushed := { sink with flushes := sink.flushes + 1 }
  match sink.flushFault sink.flushes with
  | some reason => (flushed, .error (.io reason))
  | none => (flushed, .ok ())

/-- Writes a line and flushes. -/
def put (line : String) (sink : Sink) : Sink × Except Error Unit :=
  match sink.writeLine line with
  | (sink, .error e) => (sink, .error e)
  | (sink, .ok ()) => sink.flush

end Sink

/-- The sinks of a run, in the order in which they get a record. -/
abbrev Sinks := List Sink

namespace Sinks

/-- Puts a line into every sink, up to the first that fails. -/
def put (line : String) : Sinks → Sinks × Except Error Unit
  | [] => ([], .ok ())
  | sink :: rest =>
    match sink.put line with
    | (sink, .error e) => (sink :: rest, .error e)
    | (sink, .ok ()) =>
      let (rest, result) := put line rest
      (sink :: rest, result)

/-- Puts the line of a record into every sink. -/
def emit (r : ResultRecord) (sinks : Sinks) : Sinks × Except Error Unit :=
  put r.jsonText sinks

/-- Sinks in messages. -/
def shown (sinks : Sinks) : String :=
  "RecordWriter \x7b sinks: " ++ sinks.length.repr ++ " \x7d"

end Sinks

end JoinBench
