import Precompiler.CommandLine.Run

/-! The program on real files.

A run of the program takes files to files. So this module reads the files that a run can
look at, runs, shows what there is to show, and then makes the changes. What a run can look
at is what stands below the working directory, the user's config, and the engine's program
on the search path. -/
namespace Precompiler.CommandLine

/-- The location that an absolute path names. -/
def spotOf (path : Path) : Location := (path.splitOn "/").filter (· != "")

/-- The path of a location. -/
def pathOf (spot : Location) : Path := "/" ++ "/".intercalate spot

/-- The directories above a location. -/
def above (spot : Location) : List (Location × Entry) :=
  (List.range spot.length).map fun n => (spot.take n, .directory false)

/-- Whether a path leads to something. -/
def isThere (path : Path) : IO Bool := do
  try
    discard (IO.FS.realPath path)
    return true
  catch _ => return false

/-- What stands at a location and below it. -/
partial def gather (spot : Location) : IO (List (Location × Entry)) := do
  let path := pathOf spot
  if !(← isThere path) then return []
  let real ← IO.FS.realPath path
  if real.toString != path then return [(spot, .link real.toString)]
  if ← real.isDir then
    let mut entries := [(spot, Entry.directory false)]
    for item in ← real.readDir do
      entries := entries ++ (← gather (spot ++ [item.fileName]))
    return entries
  else
    return [(spot, .file (← IO.FS.readBinFile path) true)]

/-- A program at a path. Only the content of a script is of interest. -/
def gatherProgram (path : Path) : IO (List (Location × Entry)) := do
  if !(← isThere path) then return []
  let handle ← IO.FS.Handle.mk path .read
  let start ← handle.read 2
  let content ← if start == "#!".toUTF8 then IO.FS.readBinFile path else pure ByteArray.empty
  return [(spotOf path, .file content true)]

/-- The programs that may interpret a script. -/
def shells : List Path := ["/bin/sh", "/bin/bash", "/usr/bin/env"]

/-- The tree with what was gathered at a location and below it. What stood there before goes, so nothing is
listed twice. -/
def graft (tree : FileTree) (spot : Location) (entries : List (Location × Entry)) : FileTree :=
  ⟨(tree.eraseBelow spot).entries ++ entries⟩

/-- The tree with the directories above its entries. -/
def complete (tree : FileTree) : FileTree :=
  let missing := (tree.entries.flatMap fun (spot, _) => above spot).filter fun (spot, _) => spot != []
  missing.foldl (fun tree (spot, entry) =>
    if (tree.get? spot).isSome then tree else tree.put spot entry) tree

/-- The name of the engine's program, as far as it can be found out. -/
def programName (environment : Environment) (files : Files) (words : List String) : String :=
  match Arguments.ofWords words with
  | .error _ => EngineSettings.empty.nodeProgram
  | .ok arguments =>
    match settingsOf environment files (pathOf (files.here.getD [])) arguments with
    | .error _ => EngineSettings.empty.nodeProgram
    | .ok settings => settings.engine.nodeProgram

/-- Makes a changed entry real. A file appears at once and as a whole. -/
def establish (spot : Location) : Entry → IO Unit
  | .directory _ => IO.FS.createDirAll (pathOf spot)
  | .file content _ => do
    let path := pathOf spot
    IO.FS.writeBinFile (path ++ "~") content
    IO.FS.rename (path ++ "~") path
  | .link _ => return ()

/-- Shows an entry of the journal. -/
def present (filter : LogFilter) : Event → IO Unit
  | .output text => do (← IO.getStdout).putStr text
  | .diagnostic text => do (← IO.getStderr).putStr text
  | .note note => do if filter.admits note then (← IO.getStderr).putStr (note.line ++ "\n")

/-- Reports a failure. -/
def report (failure : Failure) : IO Unit := do
  let err ← IO.getStderr
  err.putStr ("Error: " ++ failure.message ++ "\n")
  failure.help.forM fun help => err.putStr ("  help: " ++ help ++ "\n")

/-- Runs the program on real files. -/
def runReal (words : List String) : IO UInt32 := do
  let here := spotOf (← IO.currentDir).toString
  let configHome : Path := ((← IO.getEnv "XDG_CONFIG_HOME").getD
    (Path.join ((← IO.getEnv "HOME").getD "/") ".config"))
  let searchPath := ((← IO.getEnv "PATH").getD "").splitOn ":"
  let environment : Environment := ⟨configHome, searchPath⟩
  let configSpot := spotOf (Path.join configHome "hbsc")
  let settled := graft ⟨← gather here⟩ configSpot (← gather configSpot)
  let program := programName environment ⟨complete settled, some here⟩ words
  let places := shells ++ if program.toList.contains '/' then [] else searchPath.map (Path.join · program)
  let programs := (← places.mapM gatherProgram).flatten
  let before := complete (programs.foldl (fun tree (spot, entry) => graft tree spot [(spot, entry)]) settled)
  let ending := run environment (← IO.getEnv "RUST_LOG") ⟨before, some here⟩ words
  ending.world.journal.forM (present ending.filter)
  for (spot, entry) in ending.world.files.tree.entries do
    if before.get? spot != some entry then establish spot entry
  ending.failure.forM report
  return UInt32.ofNat ending.exitCode

end Precompiler.CommandLine

/-- The program on the words after its name. -/
def main (words : List String) : IO UInt32 := Precompiler.CommandLine.runReal words
