import Mathlib.Data.List.Basic
import TypedClient.Client.Output
import TypedClient.Proofs.Disk.Folders
import TypedClient.Proofs.Run

/-!
Runs that generate a client into a file and fail. Main statement: what fails before there is a
client leaves the disk as it was; what fails in writing it leaves every file as it was, and makes
at most new folders on the way to the output.
-/

namespace TypedClient

/-! ### Writing -/

namespace Run

variable {ε : Type}

theorem grows_makeFolders (p : Path) (d : Disk) :
    d.GrowsTo ((makeFolders p).on d).disk (d.OnWay p p.names) :=
  d.grows_makeFolders p

end Run

/-- The end of writing an output: the text is written, and it is reported that it was. -/
def writeOut (path : Path) (text : String) : Run OutputFault Unit := do
  (Run.writeText path text).blaming (.file path)
  Run.log (Event.wroteClient path text.utf8ByteSize)

theorem writeOutput_eq (path : Path) (text : String) :
    writeOutput path text = match path.folder? with
      | none => writeOut path text
      | some folder =>
        Run.log (Event.ensuringFolder folder) >>= fun _ =>
          (Run.makeFolders folder).blaming (.folder folder) >>= fun _ => writeOut path text := by
  unfold writeOutput
  cases path.folder? <;> rfl

/-- What a failed run leaves of a disk: all of it if there was no client to write, else every file,
and new folders only on the way to the output. -/
def GenerationFault.Spares (output : Path) (before after : Disk) : GenerationFault → Prop
  | .fetch _ => after = before
  | .document _ => after = before
  | .output _ => before.GrowsTo after (before.OnWay output output.names.dropLast)

/-- Whatever a run that failed spares, it spares all files. -/
theorem GenerationFault.Spares.file_iff {e : GenerationFault} {output : Path}
    {before after : Disk} (h : e.Spares output before after) {place : Place}
    {content : List UInt8} :
    after.node? place = some (.file content) ↔ before.node? place = some (.file content) := by
  cases e with
  | fetch _ | document _ =>
      have hSame : after = before := h
      rw [hSame]
  | output _ => exact Disk.GrowsTo.file_iff h

end TypedClient
