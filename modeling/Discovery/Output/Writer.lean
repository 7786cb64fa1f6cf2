import Discovery.Output.Files
import Discovery.Output.JsonLines
import Discovery.Output.Log
import Discovery.Plugin
/-!
# Writing findings

Every finding of a run is rendered. A finding that fails to render is logged and
skipped; one whose shown line is empty is skipped silently. Every other one is
counted, printed, and recorded: its shown line goes into the matches file, its archive
line (when there is one) into the archive, and its JSON line into the findings file
when there is one. Recording stops at the first write that fails, and the failure is
logged. Errors of a run are counted, and logged as warnings when the run is verbose.
-/

namespace Discovery.Output

open Discovery.Files Discovery.Time

/-- What writing the findings of a run left behind. -/
structure Written where
  tree : Tree
  log : Log
  reported : Nat := 0
  printed : List String := []

/-- Add a line to a file. -/
def appendLine (fs : Tree) (path line : String) : Except IoError Tree :=
  fs.append path (Text.encode (line ++ "\n"))

/-- Record one shown finding in the output files. The first write that fails stops the
recording, and what was written before it stays. -/
def record (fs : Tree) (f : OutputFiles) (rd : Rendered) (r : Finding) : Tree × Option IoError :=
  match appendLine fs f.matchFile rd.display with
  | .error e => (fs, some e)
  | .ok fs =>
    match (if rd.archive.isEmpty then .ok fs else appendLine fs f.archive rd.archive) with
    | .error e => (fs, some e)
    | .ok fs =>
      match f.json with
      | none => (fs, none)
      | some path =>
        match fs.append path (Text.encode r.jsonLine) with
        | .error e => (fs, some e)
        | .ok fs => (fs, none)

/-- Write one finding: a shown one is counted and printed before it is recorded. -/
def writeFinding (p : Plugin) (now : DateTime) (f : OutputFiles) (w : Written) (r : Finding) :
    Written :=
  match p.render now r with
  | .error e =>
    { w with log := w.log.add .error "failed to render result" [("entity", r.entity), ("error", e.message)] }
  | .ok rd =>
    if rd.isReported then
      let w := { w with reported := w.reported + 1, printed := w.printed ++ [rd.display] }
      match record w.tree f rd r with
      | (fs, none) => { w with tree := fs }
      | (fs, some e) =>
        { w with tree := fs,
                 log := w.log.add .error "failed to write result" [("entity", r.entity), ("error", e.message)] }
    else w

/-- Write the findings of a run, in order. -/
def writeFindings (p : Plugin) (now : DateTime) (f : OutputFiles) (w : Written)
    (rs : List Finding) : Written :=
  rs.foldl (writeFinding p now f) w

/-- Log the errors of a run when it is verbose. -/
def logErrors (verbose : Bool) (log : Log) (errors : List ScanError) : Log :=
  if verbose then errors.foldl (fun log e => log.add .warn "[!] probe error" [("error", e.message)]) log
  else log

end Discovery.Output
