import TypedClient.Disk.Basic
import TypedClient.Log.Event
import TypedClient.Service.Fetch

/-!
Runs. A run changes a disk, keeps a journal of what it did, and ends well or with a fault. What it
did before a fault is not taken back. Each single deed is in the journal, in order, so that laws on
the order of effects are laws on the journal.
-/

namespace TypedClient

/-- A line that a run says when something is done. -/
inductive Line where
  | saved (path : Path)
  | generated (operations : Nat) (output : Path)
  | version
  | help
  deriving DecidableEq, Repr

/-- A single deed of a run. -/
inductive Deed where
  /-- An event was reported. -/
  | logged (event : Event)
  /-- A line was said on standard output. -/
  | said (line : Line)
  /-- A text was shown to the person at the terminal. -/
  | showed (text : String)
  /-- A file was looked into. -/
  | read (path : Path)
  /-- A folder was asked for, with all those on the way to it. -/
  | made (path : Path)
  /-- A file was given a content. -/
  | wrote (path : Path) (content : List UInt8)
  /-- A request arrived at a service. -/
  | asked (call : ExportCall)
  deriving DecidableEq, Repr

/-- What came of a run. -/
structure Outcome (ε α : Type) where
  disk : Disk
  deeds : List Deed
  result : Except ε α

/-- A run that starts on a disk, and gives a value or a fault. -/
def Run (ε α : Type) : Type :=
  Disk → Outcome ε α

namespace Run

variable {ε δ α β : Type}

/-- The run on a disk. -/
def on (r : Run ε α) (d : Disk) : Outcome ε α :=
  r d

/-- Does nothing. -/
def done (a : α) : Run ε α :=
  fun d => ⟨d, [], .ok a⟩

/-- Goes on with a second run where the first one ended, unless it ended with a fault. -/
def andThen (r : Run ε α) (f : α → Run ε β) : Run ε β :=
  fun d =>
    let first := r d
    match first.result with
    | .error e => ⟨first.disk, first.deeds, .error e⟩
    | .ok a =>
      let second := f a first.disk
      ⟨second.disk, first.deeds ++ second.deeds, second.result⟩

instance : Monad (Run ε) where
  pure := done
  bind := andThen

/-- Ends with a fault. -/
def fail (e : ε) : Run ε α :=
  fun d => ⟨d, [], .error e⟩

/-- Ends with what is given. -/
def ofExcept : Except ε α → Run ε α
  | .ok a => done a
  | .error e => fail e

/-- The same run, with another word for its fault. -/
def blaming (r : Run ε α) (f : ε → δ) : Run δ α :=
  fun d =>
    let o := r d
    ⟨o.disk, o.deeds, match o.result with
      | .ok a => .ok a
      | .error e => .error (f e)⟩

/-- The disk as it is now. -/
def disk : Run ε Disk :=
  fun d => ⟨d, [], .ok d⟩

/-- Deeds that leave the disk alone. -/
def perform (deeds : List Deed) : Run ε Unit :=
  fun d => ⟨d, deeds, .ok ()⟩

/-- Reports an event. -/
def log (e : Event) : Run ε Unit :=
  perform [.logged e]

/-- Says a line. -/
def say (l : Line) : Run ε Unit :=
  perform [.said l]

/-- Shows a text, if there is any. -/
def notify (text : String) : Run ε Unit :=
  perform (if text = "" then [] else [.showed text])

/-- Reads a text from a file. -/
def readText (p : Path) : Run DiskFault String :=
  fun d => ⟨d, [.read p], d.readText p⟩

/-- Makes a folder and those on the way to it. -/
def makeFolders (p : Path) : Run DiskFault Unit :=
  fun d =>
    let made := d.makeFolders p
    ⟨made.disk, [.made p], match made.fault with
      | none => .ok ()
      | some e => .error e⟩

/-- Writes a text into a file. -/
def writeText (p : Path) (text : String) : Run DiskFault Unit :=
  fun d =>
    let content := Text.encodeUtf8 text.toList
    match d.write p content with
    | .ok after => ⟨after, [.wrote p content], .ok ()⟩
    | .error e => ⟨d, [], .error e⟩

/-- Asks a service. -/
def ofFetched (f : Fetched α) : Run FetchError α :=
  fun d => ⟨d, f.call.toList.map .asked ++ f.events.map .logged, f.result⟩

/-! What the steps of a run do, one after the other. -/

@[simp] theorem on_pure (a : α) (d : Disk) : (pure a : Run ε α).on d = ⟨d, [], .ok a⟩ := rfl

@[simp] theorem on_fail (e : ε) (d : Disk) : (fail e : Run ε α).on d = ⟨d, [], .error e⟩ := rfl

@[simp] theorem on_disk (d : Disk) : (disk : Run ε Disk).on d = ⟨d, [], .ok d⟩ := rfl

theorem on_bind (r : Run ε α) (f : α → Run ε β) (d : Disk) :
    (r >>= f).on d = match (r.on d).result with
      | .error e => ⟨(r.on d).disk, (r.on d).deeds, .error e⟩
      | .ok a =>
        let second := (f a).on (r.on d).disk
        ⟨second.disk, (r.on d).deeds ++ second.deeds, second.result⟩ := rfl

end Run

end TypedClient
