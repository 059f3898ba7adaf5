import TypedClient.Command.Program

/-!
The command line on a real machine. It looks at the files that the arguments are about, lets the
run be computed, and then does what is in its journal. It reaches no network and asks no questions:
a description to generate from has to be in a file, and settings have to be given in full.
-/

open TypedClient

/-- The paths that a command is about, as seen from the working directory. -/
def concernedPaths (d : Disk) : Command → List Path
  | .fetch settings target => [Command.settingsPath d settings, Command.outputPath d target]
  | .configure settings _ => [Command.settingsPath d settings]
  | .generate input target => [d.absolute input, Command.outputPath d target]

/-- The places on the way to a path, and its own. -/
def placesOf (p : Path) : List Place :=
  (List.range p.names.length).map fun n => p.names.take (n + 1)

/-- What really stands at a place. -/
def lookAt (place : Place) : IO (Option (Place × Node)) := do
  let path := (← IO.currentDir) / (Path.text ⟨true, place⟩)
  if ← path.isDir then return some (place, .folder)
  else if ← path.pathExists then
    return some (place, .file (← IO.FS.readBinFile path).toList)
  else return none

/-- The part of the real disk that a command is about. -/
def survey (args : List String) : IO Disk := do
  let here := (Path.ofString (← IO.currentDir).toString).names
  let bare : Disk := ⟨[], here⟩
  let paths := match Arguments.read args with
    | .ok command => concernedPaths bare command
    | .error _ => []
  let found ← ((bare.herePath :: paths).flatMap placesOf).eraseDups.filterMapM lookAt
  return ⟨found, here⟩

/-- Does a deed for real, with the filter for the log. -/
def doForReal (filter : Filter) (elapsed : String) : Deed → IO Unit
  | .logged e => do
    if filter.admits e then IO.eprintln (e.level.name ++ " " ++ e.target ++ ": " ++ e.text)
  | .said line => IO.print (line.render elapsed)
  | .showed text => IO.eprint text
  | .made path => IO.FS.createDirAll path.text
  | .wrote path content => IO.FS.writeBinFile path.text ⟨content.toArray⟩
  | .read _ => return ()
  | .asked _ => return ()

/-- Runs the program. -/
def main (args : List String) : IO UInt32 := do
  let begun ← IO.monoMsNow
  let setting ← IO.getEnv "A2I_LOG"
  let disk ← survey args
  let ending := runProgram ⟨setting, false, false⟩ ⟨⟨none, true⟩, none⟩ args disk
  let elapsed := elapsedText ((← IO.monoMsNow) - begun)
  ending.deeds.forM (doForReal (Filter.ofSetting setting).1 elapsed)
  return ending.code.toUInt32
