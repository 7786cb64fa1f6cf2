import Discovery.Corpus.Entry
import Discovery.Files.Tree
import Discovery.Options.Basic
/-!
# Output files

A scan writes into its output folder: the shown lines of this run into a matches file
(named by the options, else after the time and the target's slug under
`output_matches/`), the archive lines of every run ever into `all_time_matches.txt`,
and, when asked, findings as JSON lines into a file of their own. Preparing makes the
folder and its `output_matches/` and `output_waybackurls/` subfolders where nothing is
in the way yet; opening empties the matches file and creates the others when missing.
Opening the matches file comes first, so its failure wins.
-/

namespace Discovery.Output

open Discovery.Files

/-- Where a scan's findings go. -/
structure OutputFiles where
  matchFile : String
  archive : String
  json : Option String
  deriving DecidableEq, Repr

/-- The files of a scan started at time `stamp`, without touching the tree. -/
def OutputFiles.ofOptions (o : Options) (stamp : Int) : OutputFiles :=
  let root := o.outputFolder
  { matchFile := match o.outputFilename with
      | some name => joinPath root name
      | none => joinPath (joinPath root "output_matches")
          ("matches_" ++ toString stamp ++ "_" ++ Corpus.slug o.url ++ ".txt"),
    archive := joinPath root "all_time_matches.txt",
    json := o.jsonOutput }

/-- Make the output folders, then name the files. -/
def OutputFiles.prepare (fs : Tree) (o : Options) (stamp : Int) :
    Except IoError (Tree × OutputFiles) :=
  let root := o.outputFolder
  match fs.ensureDir root with
  | .error e => .error e
  | .ok fs =>
    match fs.ensureDir (joinPath root "output_matches") with
    | .error e => .error e
    | .ok fs =>
      match fs.ensureDir (joinPath root "output_waybackurls") with
      | .error e => .error e
      | .ok fs => .ok (fs, OutputFiles.ofOptions o stamp)

/-- Open the files in turn: empty the matches file, then create the archive and the
JSON lines file when missing. A failure stops the opening, and the files opened before it
stay. -/
def OutputFiles.open (fs : Tree) (f : OutputFiles) : Tree × Option IoError :=
  match fs.write f.matchFile [] with
  | .error e => (fs, some e)
  | .ok fs =>
    match fs.append f.archive [] with
    | .error e => (fs, some e)
    | .ok fs =>
      match f.json with
      | none => (fs, none)
      | some path =>
        match fs.append path [] with
        | .error e => (fs, some e)
        | .ok fs => (fs, none)

end Discovery.Output
