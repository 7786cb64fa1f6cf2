import Discovery.Cli.Parse
import Discovery.Corpus.File
import Discovery.Dns.SpecialUse
import Discovery.Http.Client
import Discovery.Options.Validate
import Discovery.Output.Writer
import Discovery.Pool.Run
import Discovery.Wordlist.Source
/-!
# The program

A run of the program reads its command line, checks the options, prints a banner
(unless quiet) and scans. A path scan builds its web client and calibrates against the
target first; a name scan needs no calibration. The scan prepares its output files,
chains the archived addresses (when given) ahead of the word list, opens the files,
probes every candidate, writes what it found, and ends with a summary line (unless
quiet) and a log line of its counters.

The world of a run is given to it: the files, standard input, the time and the
made-up names of calibration. Requests go out on a network where nothing can be
reached, and names are resolved as special-use names are without a network. The run
gives back what it printed on standard output and standard error, its exit code and
the files it leaves.

Exit codes: 0 for a finished scan and for help or version, 1 for a failed scan, 2 for a
command line that cannot be read.

`run_nil` says that an empty command line shows help and exits with code 2.
-/

namespace Discovery.Program

open Discovery.Files Discovery.Output Discovery.Time

/-- The line around the banner and the summary. -/
def ruler : String := "====================================================="

/-- What a run is given. -/
structure World where
  files : Tree
  stdin : List UInt8 := []
  now : Int := 0
  tokens : Wildcard.Tokens

/-- What a run leaves. -/
structure Exit where
  code : Nat
  stdout : List String := []
  stderr : List String := []
  files : Tree

/-- A run that ends with an error after printing `out` and logging `log`. -/
def failed (fs : Tree) (out : List String) (log : Log) (e : ScanError) : Exit :=
  { code := 1, stdout := out ++ log.lines, stderr := Text.lines ("Error: " ++ e.message), files := fs }

/-- The banner of a run: the name and version, then the summary of the options. -/
def banner (o : Options) : List String :=
  [ruler, "ybuster v0.1.0", ruler] ++ Text.lines (Options.summary o) ++ [ruler]

/-- The notes logged for debugging while a candidate is probed. -/
def notes {σ : Type} (t : Transport σ) (p : Plugin) (c : Candidate) (s : σ) :
    List (String × List (String × String)) :=
  let failure := match (p.process t c s).1 with
    | .error e => [("probe failed", [("worker", "0"), ("candidate", c.value), ("error", e.message)])]
    | .ok rs =>
      match p with
      | .dir sc => rs.map fun r => ("probed", [("url", sc.probedUrl r), ("status", toString r.status)])
      | .dns _ => []
  (match p with
    | .dns sc => sc.notes c
    | .dir _ => []) ++ failure

/-- The candidates from archived addresses, when the options name a file of them. -/
def corpusCandidates (w : World) (o : Options) (fs : Tree) (log : Log) :
    Except ScanError (Tree × Log × List String) :=
  match o.waybackUrls with
  | none => .ok (fs, log, [])
  | some path =>
    match fs.read path with
    | .error e => .error (.corpus path e.message)
    | .ok bs =>
      let raw := Text.meaningfulLines (Text.decodeLossyString bs)
      let urls := Corpus.normalize raw
      let log := log.add .info "URL corpus normalized"
        [("path", path), ("loaded", toString raw.length), ("unique", toString urls.length)]
      match Corpus.writeParsed fs o.outputFolder o.url urls w.now with
      | .error e => .error (.io e.message)
      | .ok (fs, written) =>
        .ok (fs, log.add .info "canonical URL list written"
          [("path", written), ("count", toString urls.length)], urls)

/-- The candidates of a scan, the archived addresses (when given) ahead of the word list's,
and the counters sized for them: every archived address is expected, and so is every
candidate of a word list file, counted before it is read; standard input is not counted.
The files and the log are those left behind, also when a source fails. -/
def candidateSources (w : World) (o : Options) (fs : Tree) (log : Log) :
    Tree × Log × Except ScanError (List Candidate × Tally) :=
  match corpusCandidates w o fs log with
  | .error e => (fs, log, .error e)
  | .ok (fs, log, urls) =>
    let expansion : Wordlist.Expansion := { extensions := o.extensionsParsed, blank := o.blankExtension }
    match Wordlist.countExpected fs o.wordlist expansion, Wordlist.Source.open fs o.wordlist with
    | .error e, _ => (fs, log, .error e)
    | _, .error e => (fs, log, .error e)
    | .ok expected, .ok source =>
      let bytes := match source with
        | .stdin => w.stdin
        | .bytes bs => bs
      let tally := (({} : Tally).addExpected urls.length).addExpected (expected.getD 0)
      (fs, log, .ok (urls.map Candidate.address ++ expansion.candidates bytes, tally))

/-- Scan with a ready plugin: prepare and open the output, probe every candidate, write
the findings and sum up. -/
def enumerate {σ : Type} (w : World) (o : Options) (p : Plugin) (t : Transport σ) (s : σ)
    (out : List String) (log : Log) : Exit :=
  let now := DateTime.ofSeconds w.now
  match OutputFiles.prepare w.files o w.now with
  | .error e => failed w.files out log (.io e.message)
  | .ok (fs, files) =>
    match candidateSources w o fs log with
    | (fs, log, .error e) => failed fs out log e
    | (fs, log, .ok (candidates, tally)) =>
      match files.open fs with
      | (fs, some e) => failed fs out log (.io e.message)
      | (fs, none) =>
        let out := if o.quiet then out else out ++ [now.slashed ++ " Starting ybuster", ruler]
        let (outcome, _) := Pool.runInOrder (p.process t) (fun _ => false) candidates s { tally }
        let taken := candidates.take outcome.taken
        let log := (taken.flatMap fun c => notes t p c s).foldl
          (fun log (msg, fields) => log.add .debug msg fields) log
        let log := log.add .debug "intake closed"
          [("queued", toString candidates.length), ("cancelled", "false")]
        let log := log.add .debug "all workers finished" [("workers", toString (max 1 o.workers))]
        let written := writeFindings p now files { tree := fs, log } outcome.results
        let log := logErrors o.verbose written.log outcome.errors
        let log := log.add .info "run complete" [("issued", toString outcome.tally.issued),
          ("errors", toString outcome.tally.errors), ("reported", toString written.reported)]
        let tail := if o.quiet then []
          else [ruler, now.slashed ++ " Finished (" ++ toString written.reported ++ " found, " ++
            toString outcome.errors.length ++ " errors, matches in " ++ files.matchFile ++ ")", ruler]
        { code := 0, stdout := out ++ written.printed ++ log.lines ++ tail, files := written.tree }

/-- Run the program on a command line. -/
def run (args : List String) (w : World) : Exit :=
  match Cli.parse args with
  | .error e =>
    if e.isInformational then { code := 0, stdout := Text.lines e.render, files := w.files }
    else { code := 2, stderr := Text.lines e.render, files := w.files }
  | .ok inv =>
    let now := DateTime.ofSeconds w.now
    let shown : Level := if inv.debug then .debug else if inv.options.verbose then .info else .warn
    let log : Log := { shown, now }
    match Options.validate w.files inv.options with
    | (_, some e) => failed w.files [] log e
    | (o, none) =>
      let out := if o.quiet then [] else banner o
      match o.mode with
      | .dir =>
        match Http.Client.ofOptions o with
        | .error e => failed w.files out log e
        | .ok client =>
          let sc : Dir.Scanner := { options := o }
          match sc.setup client.transport w.tokens () with
          | (.error e, _) => failed w.files out log e
          | (.ok sc, _) =>
            let log := if sc.signature.any (!·.isWildcard) then
                log.add .debug "no wildcard responses detected" [("url", o.url)]
              else log
            enumerate w o (.dir sc) client.transport () out log
      | .dns =>
        let log := log.add .debug "dns mode needs no calibration" [("domain", o.url)]
        enumerate w o (.dns { options := o, resolver := Dns.specialUse })
          (fun _ s => (.error (.request ""), s)) () out log

theorem run_nil (w : World) : (run [] w).code = 2 := by
  simp [run, Cli.parse_nil, Cli.CliError.isInformational]

end Discovery.Program
