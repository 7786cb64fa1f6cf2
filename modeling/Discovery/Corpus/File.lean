import Discovery.Corpus.Entry
import Discovery.Error
import Discovery.Files.Tree
import Discovery.Text.Lines
/-!
# Corpus files

A corpus file holds archived addresses, one per line; blank lines and lines starting
with `#` are comments. Its bytes are read as UTF-8, bad sequences replaced. The
normalized corpus is kept in the output folder, under `output_waybackurls/`, in a file
named after the time and the target's slug, one address per line.
-/

namespace Discovery.Corpus

open Discovery.Files

/-- Read and normalize a corpus file. -/
def normalizeFile (fs : Tree) (path : String) : Except ScanError (List String) :=
  match fs.read path with
  | .error e => .error (.corpus path e.message)
  | .ok bs => .ok (normalize (Text.meaningfulLines (Text.decodeLossyString bs)))

/-- The file that keeps a normalized corpus written at time `stamp`. -/
def parsedPath (folder base : String) (stamp : Int) : String :=
  joinPath (joinPath folder "output_waybackurls")
    ("waybackurls_parsed_" ++ toString stamp ++ "_" ++ slug base ++ ".txt")

/-- Keep a normalized corpus; the file and the tree with it. -/
def writeParsed (fs : Tree) (folder base : String) (urls : List String) (stamp : Int) :
    Except IoError (Tree × String) :=
  match fs.ensureDir (joinPath folder "output_waybackurls") with
  | .error e => .error e
  | .ok fs =>
    let path := parsedPath folder base stamp
    match fs.write path (Text.encode ("\n".intercalate urls ++ "\n")) with
    | .error e => .error e
    | .ok fs => .ok (fs, path)

end Discovery.Corpus
