import Std.Time.DateTime.Timestamp
import Discovery.Program
import Discovery.Wildcard.Token
/-!
# The command line

The program on a real machine: it loads the files that a run may read or extend into a
tree, reads standard input when the word list comes from it, takes the time and four
random names, runs, prints, and writes back every directory and file the run made or
changed. Requests still go out on a network where nothing can be reached.
-/

namespace Discovery.Command

open Discovery.Files

/-- The paths of a run that may already hold something it reads or extends. -/
def touchedPaths (o : Options) : List String :=
  let root := o.outputFolder
  [o.wordlist, root, joinPath root "output_matches", joinPath root "output_waybackurls",
    joinPath root "all_time_matches.txt"] ++
    ([o.waybackUrls, o.randomAgentsFile, o.jsonOutput, o.outputFilename.map (joinPath root ·)].filterMap id)

/-- Copy one path of the disk, with its parent directories, into the tree. -/
def load (fs : Tree) (path : String) : IO Tree := do
  if path.isEmpty || path = "-" then return fs
  let here ← IO.currentDir
  let parts := resolveParts fs.cwd path
  let mut fs := fs
  for i in List.range parts.length do
    let p := parts.take (i + 1)
    if (fs.lookupParts p).isSome then continue
    let onDisk := { here with toString := "/" ++ "/".intercalate p }
    if ← onDisk.isDir then
      fs := fs.setParts p .dir
    else if ← onDisk.pathExists then
      let bytes ← try IO.FS.readBinFile onDisk catch _ => pure ByteArray.empty
      fs := fs.setParts p (.file bytes.toList)
      break
    else break
  return fs

/-- Write back every entry that the run made or changed. -/
def store (before after : Tree) : IO Unit := do
  let here ← IO.currentDir
  for (parts, node) in after.nodes do
    if before.lookupParts parts = some node then continue
    let onDisk := { here with toString := "/" ++ "/".intercalate parts }
    match node with
    | .dir => IO.FS.createDirAll onDisk
    | .file bytes => IO.FS.writeBinFile onDisk (ByteArray.mk bytes.toArray)

/-- Four random calibration names of 16, 8, 15 and 7 characters. -/
def randomTokens : IO Wildcard.Tokens := do
  let draw : IO Nat := do
    let mut r := 0
    for _ in List.range 8 do
      r := r * 65536 + (← IO.rand 0 65535)
    return r
  return ⟨Wildcard.token (← draw) 16, Wildcard.token (← draw) 8, Wildcard.token (← draw) 15,
    Wildcard.token (← draw) 7⟩

/-- Run the program with the process's arguments, files, input and clock. -/
def runCommand (args : List String) : IO UInt32 := do
  let here ← IO.currentDir
  let cwd := (here.toString.splitOn "/").filter (!·.isEmpty)
  let base : Tree := { cwd, nodes := [] }
  let (fs, stdin) ← match Cli.parse args with
    | .ok inv =>
      let fs ← (touchedPaths inv.options).foldlM load base
      let stdin ← if inv.options.wordlist = "-" then
          pure (← (← IO.getStdin).readBinToEnd).toList
        else pure []
      pure (fs, stdin)
    | .error _ => pure (base, [])
  let now := (← Std.Time.Timestamp.now).toSecondsSinceUnixEpoch.val
  let tokens ← randomTokens
  let exit := Program.run args { files := fs, stdin, now, tokens }
  let out ← IO.getStdout
  for line in exit.stdout do out.putStrLn line
  let err ← IO.getStderr
  for line in exit.stderr do err.putStrLn line
  store fs exit.files
  return exit.code.toUInt32

end Discovery.Command

/-- The entry point. -/
def main (args : List String) : IO UInt32 := Discovery.Command.runCommand args
