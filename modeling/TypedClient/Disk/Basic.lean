import TypedClient.Disk.Path
import TypedClient.Keyed
import TypedClient.Text.Utf8

/-!
Files and folders. Nothing is linked and nobody is kept out: a place holds a folder, a file, or
nothing. Every change that cannot be made says why and leaves all as it was.
-/

namespace TypedClient

open Text

/-- A place: the names from the root down. -/
abbrev Place := List String

/-- What stands at a place. -/
inductive Node where
  | folder
  | file (content : List UInt8)
  deriving DecidableEq, Repr

/-- Why something cannot be done at a path. -/
inductive DiskFault where
  | missing
  | alreadyThere
  | notFolder
  | folder
  | longName
  | zeroInName
  | notText
  deriving DecidableEq, Repr

/-- Why something cannot be done at a path, in words. -/
def DiskFault.message : DiskFault → String
  | .missing => "No such file or directory (os error 2)"
  | .alreadyThere => "File exists (os error 17)"
  | .notFolder => "Not a directory (os error 20)"
  | .folder => "Is a directory (os error 21)"
  | .longName => "File name too long (os error 36)"
  | .zeroInName => "file name contained an unexpected NUL byte"
  | .notText => "stream did not contain valid UTF-8"

/-- What is on a disk, and the place that paths without root start from. -/
structure Disk where
  nodes : Keyed Place Node
  here : Place
  deriving DecidableEq, Repr

/-- The end of a path: a folder that is there, or a name in one. -/
inductive Spot where
  | folder (place : Place)
  | entry (place : Place)
  deriving DecidableEq, Repr

namespace Disk

/-- The path of the place that paths without root start from. -/
def herePath (d : Disk) : Path :=
  ⟨true, d.here⟩

/-- A path as seen from there. -/
def absolute (d : Disk) (p : Path) : Path :=
  d.herePath.join p

/-- What stands at a place. At the root there is always a folder. -/
def node? (d : Disk) (place : Place) : Option Node :=
  if place = [] then some .folder else d.nodes.get? place

/-- The disk with a node at a place. -/
def put (d : Disk) (place : Place) (n : Node) : Disk :=
  { d with nodes := Keyed.put place n d.nodes }

/-- What is put at a place stands there, and all else stays. -/
theorem node?_put (d : Disk) (place q : Place) (n : Node) (h : place ≠ []) :
    (d.put place n).node? q = if q = place then some n else d.node? q := by
  unfold node? put
  by_cases hq : q = []
  · have : q ≠ place := fun e => h (e ▸ hq)
    simp [hq, h.symm]
  · simp [hq, Keyed.get?_put]

/-- The longest name, in bytes. -/
def longestName : Nat := 255

/-- The longest path, in bytes. -/
def longestPath : Nat := 4095

/-- The folder that a name leads to from another. -/
def enter (d : Disk) (place : Place) (name : String) : Except DiskFault Place :=
  if name = "." then .ok place
  else if name = ".." then .ok place.dropLast
  else if longestName < name.utf8ByteSize then .error .longName
  else match d.node? (place ++ [name]) with
    | none => .error .missing
    | some (.file _) => .error .notFolder
    | some .folder => .ok (place ++ [name])

/-- The folder that names lead to, one after the other. -/
def walk (d : Disk) (place : Place) : List String → Except DiskFault Place
  | [] => .ok place
  | name :: names =>
    match d.enter place name with
    | .ok next => d.walk next names
    | .error e => .error e

/-- Why a path cannot be followed at all. -/
def pathFault? (p : Path) : Option DiskFault :=
  if p.text.toList.any (·.toNat = 0) then some .zeroInName
  else if p.text = "" then some .missing
  else if longestPath < p.text.utf8ByteSize then some .longName
  else none

/-- Where a path ends: the last name is not looked up. -/
def locate (d : Disk) (p : Path) : Except DiskFault Spot :=
  match pathFault? p with
  | some e => .error e
  | none =>
    let start := if p.rooted then [] else d.here
    match p.names.getLast? with
    | none => .ok (.folder start)
    | some last =>
      match d.walk start p.names.dropLast with
      | .error e => .error e
      | .ok place =>
        if last = "." then .ok (.folder place)
        else if last = ".." then .ok (.folder place.dropLast)
        else .ok (.entry (place ++ [last]))

/-- Whether the last name of a place is too long. -/
def isLong (place : Place) : Bool :=
  longestName < (place.getLast?.getD "").utf8ByteSize

/-- What a path leads to. -/
def find (d : Disk) (p : Path) : Except DiskFault Node :=
  match d.locate p with
  | .error e => .error e
  | .ok (.folder _) => .ok .folder
  | .ok (.entry place) =>
    if isLong place then .error .longName
    else match d.node? place with
      | none => .error .missing
      | some .folder => .ok .folder
      | some (.file content) =>
        if p.endsInSlash then .error .notFolder else .ok (.file content)

/-- Whether a path leads anywhere. -/
def isThere (d : Disk) (p : Path) : Bool :=
  match d.find p with
  | .ok _ => true
  | .error _ => false

/-- Whether a path leads to a folder. -/
def isFolder (d : Disk) (p : Path) : Bool :=
  match d.find p with
  | .ok .folder => true
  | _ => false

/-- The content of a file. -/
def read (d : Disk) (p : Path) : Except DiskFault (List UInt8) :=
  match d.find p with
  | .ok (.file content) => .ok content
  | .ok .folder => .error .folder
  | .error e => .error e

/-- The text in a file. -/
def readText (d : Disk) (p : Path) : Except DiskFault String :=
  match d.read p with
  | .error e => .error e
  | .ok content =>
    match decodeUtf8? content with
    | some cs => .ok (String.ofList cs)
    | none => .error .notText

/-- Gives a file a content, whatever it had before; makes the file if it is not there. -/
def write (d : Disk) (p : Path) (content : List UInt8) : Except DiskFault Disk :=
  match d.locate p with
  | .error e => .error e
  | .ok (.folder _) => .error .folder
  | .ok (.entry place) =>
    if p.endsInSlash then .error .folder
    else if isLong place then .error .longName
    else match d.node? place with
      | some .folder => .error .folder
      | _ => .ok (d.put place (.file content))

/-- Makes a folder in one that is there. -/
def makeFolder (d : Disk) (p : Path) : Except DiskFault Disk :=
  match d.locate p with
  | .error e => .error e
  | .ok (.folder _) => .error .alreadyThere
  | .ok (.entry place) =>
    if isLong place then .error .longName
    else match d.node? place with
      | some _ => .error .alreadyThere
      | none => .ok (d.put place .folder)

/-- What became of making folders: those made on the way stay, also if the last one fails. -/
structure Made where
  disk : Disk
  fault : Option DiskFault

/-- Makes a folder, unless it is there. -/
def ensureFolder (d : Disk) (p : Path) : Made :=
  match d.makeFolder p with
  | .ok made => ⟨made, none⟩
  | .error e => ⟨d, if d.isFolder p then none else some e⟩

/-- Makes a folder and all folders on the way to it, unless they are there. -/
def makeFolders (d : Disk) (p : Path) : Made :=
  if p.text = "" then ⟨d, none⟩
  else match d.makeFolder p with
    | .ok made => ⟨made, none⟩
    | .error .missing =>
      match h : p.parent? with
      | none => ⟨d, some .missing⟩
      | some q =>
        have := Path.parent?_length_lt h
        let above := d.makeFolders q
        match above.fault with
        | some e => ⟨above.disk, some e⟩
        | none => above.disk.ensureFolder p
    | .error e => ⟨d, if d.isFolder p then none else some e⟩
termination_by p.pieces.length

/-- Removes a file. -/
def remove (d : Disk) (p : Path) : Except DiskFault Disk :=
  match d.locate p with
  | .error e => .error e
  | .ok (.folder _) => .error .folder
  | .ok (.entry place) =>
    if isLong place then .error .longName
    else match d.node? place with
      | none => .error .missing
      | some .folder => .error .folder
      | some (.file _) =>
        if p.endsInSlash then .error .notFolder
        else .ok { d with nodes := d.nodes.erase place }

/-- The path of a node below a place, with a slash behind a folder; none if the node is not below
the place. -/
def nameBelow? (place : Place) (node : Place × Node) : Option String :=
  if place.isPrefixOf node.1 ∧ node.1.length ≠ place.length then
    let name := joined "/" (node.1.drop place.length)
    some (match node.2 with
      | .folder => name ++ "/"
      | .file _ => name)
  else none

/-- All that stands below the place that paths without root start from, sorted. -/
def listing (d : Disk) : List String :=
  (d.nodes.filterMap (nameBelow? d.here)).mergeSort fun a b => decide (a ≤ b)

/-- A disk that holds nothing but a folder and those on the way to it, and starts there. -/
def empty (place : Place) : Disk :=
  ⟨(List.range place.length).map fun n => (place.take (n + 1), .folder), place⟩

end Disk

end TypedClient
