import JoinBench.Sink
import JoinBench.Storage

/-!
# Where records go

The records of a run go to the standard output and, if a path is given, to the end of a file,
which is made if it is not there.
-/

namespace JoinBench

/-- The sinks of a run over a folder: the standard output, then the file if there is one. -/
structure Output where
  /-- The folder as it was when the file was opened. -/
  folder : Folder
  /-- The place of the file in the folder. -/
  place : Option (List String)
  sinks : Sinks

namespace Output

/-- Opens the sinks of a run. -/
def begin (folder : Folder) (path : Option String) : Except Error Output :=
  match path with
  | none => .ok ⟨folder, none, [.empty]⟩
  | some path =>
    match folder.openForAppend path with
    | .ok (folder, place) => .ok ⟨folder, some place, [.empty, .empty]⟩
    | .error problem => .error (.io problem.message)

/-- Puts a record into every sink. -/
def emit (r : ResultRecord) (o : Output) : Output × Except Error Unit :=
  let (sinks, result) := o.sinks.emit r
  ({ o with sinks := sinks }, result)

/-- What was written to a sink. -/
def written (o : Output) (index : Nat) : String :=
  ((o.sinks[index]?).map (·.content)).getD ""

/-- What was printed. -/
def printed (o : Output) : String :=
  o.written 0

/-- The folder with what was written at the end of the file. -/
def stored (o : Output) : Folder :=
  match o.place with
  | none => o.folder
  | some place => o.folder.append place (o.written 1)

/-- The content of the file. -/
def file? (o : Output) : Option ByteArray :=
  o.place.bind o.stored.file?

end Output

end JoinBench
