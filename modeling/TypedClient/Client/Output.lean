import TypedClient.Client.Generate
import TypedClient.Run.Basic

/-!
Generating a client into a file: from a text at hand, or from one that a service gives.
-/

namespace TypedClient

/-- Why a client could not be written. -/
inductive OutputFault where
  | folder (path : Path) (fault : DiskFault)
  | file (path : Path) (fault : DiskFault)
  deriving DecidableEq, Repr

/-- Why a client could not be written, in words. -/
def OutputFault.message : OutputFault → String
  | .folder path e => "Failed to create directory " ++ path.text ++ ": " ++ e.message
  | .file path e => "Failed to write " ++ path.text ++ ": " ++ e.message

/-- Why no client came about. -/
inductive GenerationFault where
  | fetch (fault : FetchError)
  | document (fault : InvalidDocument)
  | output (fault : OutputFault)
  deriving DecidableEq, Repr

/-- Why no client came about, in words. -/
def GenerationFault.message : GenerationFault → String
  | .fetch e => e.message
  | .document e => e.message
  | .output e => e.message

/-- Where a client was written, its length in bytes, and for how many operations it is. -/
structure Report where
  output : Path
  bytes : Nat
  operations : Nat
  deriving DecidableEq, Repr

namespace Event

/-- The module that reports on written files. -/
def writerTarget : String := "a2i_core::writer"

/-- A folder is about to be made. -/
def ensuringFolder (path : Path) : Event :=
  ⟨.debug, writerTarget, "Ensuring output directory exists.", [("dir", .shown path.text)]⟩

/-- A client was written. -/
def wroteClient (path : Path) (bytes : Nat) : Event :=
  ⟨.info, writerTarget, "Wrote generated client.",
    [("path", .shown path.text), ("bytes", .ofNat bytes)]⟩

/-- A client was generated. -/
def generatedClient (operations : Nat) : Event :=
  ⟨.info, "a2i_core::pipeline", "Generated TypeScript client.", [("operations", .ofNat operations)]⟩

end Event

/-- Writes a text to a file, whatever was in it. The folder of the file is made if it is not
there. -/
def writeOutput (path : Path) (text : String) : Run OutputFault Unit := do
  match path.folder? with
  | none => pure ()
  | some folder =>
    Run.log (Event.ensuringFolder folder)
    (Run.makeFolders folder).blaming (.folder folder)
  (Run.writeText path text).blaming (.file path)
  Run.log (Event.wroteClient path text.utf8ByteSize)

/-- Generates the client for the description in a text into a file. -/
def generateInto (output : Path) (o : Options) (text : String) : Run GenerationFault Report := do
  Run.perform ((Document.events text o).map .logged)
  let generated ← (Run.ofExcept (generate text o)).blaming .document
  Run.log (Event.generatedClient generated.operations)
  (writeOutput output generated.code).blaming .output
  return ⟨output, generated.code.utf8ByteSize, generated.operations⟩

/-- Fetches the description that settings name, and generates the client for it into a file. -/
def fetchInto (network : Network) (settings : Settings) (output : Path) (o : Options) :
    Run GenerationFault Report := do
  let url ← (Run.ofFetched (network.connect settings)).blaming .fetch
  Run.log (Event.fetching url)
  let text ← (Run.ofFetched (network.ask settings url)).blaming .fetch
  generateInto output o text

end TypedClient
