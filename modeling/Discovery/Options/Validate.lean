import Discovery.Error
import Discovery.Files.Tree
import Discovery.Options.Basic
import Discovery.Options.Lists
import Discovery.Target
import Discovery.Text.Lines
/-!
# Checking options and showing them

Checking looks at every option and collects every problem before failing, in a fixed
order: workers, word list, target, excluded codes, the two display flags, the target's
scheme and credentials (in `dir` mode), the archive file and the random agents file.
Along the way it fills in the parsed extensions and excluded codes, the base address of
a `dir` target and the random agents read from their file.

The summary shows the mode, target, workers and word list, then the `dir` options that
are set or the `dns` display flags, one `[+]` line each.
-/

namespace Discovery.Options

open Discovery.Files

/-- Check every option against the files; the options as filled in, and the problems. -/
def check (fs : Tree) (o : Options) : Options × List String :=
  let problems : List String := []
  let problems := if o.workers = 0 then
      problems ++ ["Workers (-t): Invalid value: " ++ toString o.workers] else problems
  let problems :=
    if o.wordlist.isEmpty then problems ++ ["Wordlist (-w): Must be specified (use `-w -` for stdin)"]
    else if o.wordlist ≠ "-" && !fs.exists o.wordlist then
      problems ++ ["Wordlist (-w): File does not exist: " ++ o.wordlist]
    else problems
  let problems := if o.url.isEmpty then problems ++ ["Url/Domain (-u): Must be specified"] else problems
  let (o, problems) :=
    if o.excludedStatusCodes.isEmpty then (o, problems)
    else
      match statusCodeSet o.excludedStatusCodes with
      | .ok codes => ({ o with excludedStatusParsed := codes }, problems)
      | .error e => (o, problems ++ [e])
  let o := if o.extensions.isEmpty then o else { o with extensionsParsed := extensionSet o.extensions }
  let problems := if o.showIps && o.showCname then
      problems ++ ["Show IPs (-i) and show CNAME (--cn) cannot be used together"] else problems
  let (o, problems) :=
    if o.mode = .dir && !o.url.isEmpty then
      let (o, problems) := match Target.baseUrl o.url with
        | .ok url => ({ o with url }, problems)
        | .error e => (o, problems ++ [e])
      let problems := if o.username.isSome && o.password.isNone then
          problems ++ ["username was provided but password is missing"] else problems
      (o, problems)
    else (o, problems)
  let problems := match o.waybackUrls with
    | some p => if fs.exists p then problems
        else problems ++ ["Wayback urls (--wayback-urls): File does not exist: " ++ p]
    | none => problems
  match o.randomAgentsFile with
  | some p =>
    if !fs.exists p then
      (o, problems ++ ["Random agent (--random-agent): File does not exist: " ++ p])
    else
      match fs.readText p with
      | .ok text => ({ o with randomAgents := Text.meaningfulLines text }, problems)
      | .error e => (o, problems ++ ["failed to read random agents: " ++ e.message])
  | none => (o, problems)

/-- Check the options: the filled-in options, and an error listing every problem. -/
def validate (fs : Tree) (o : Options) : Options × Option ScanError :=
  let (o, problems) := check fs o
  (o, if problems.isEmpty then none else some (.invalidOptions problems))

/-- One summary line. -/
def line (label value : String) : String := "[+] " ++ label ++ ": " ++ value

/-- The summary of the options, one line each. -/
def summary (o : Options) : String :=
  let head := [
    line "Mode                  " o.mode.name,
    line "Url/Domain            " o.url,
    line "Workers               " (toString o.workers),
    line "Wordlist              " (if o.wordlist = "-" then "stdin (pipe)" else o.wordlist)]
  let opt := fun (label : String) (v : Option String) => match v with
    | some s => [line label s]
    | none => []
  let flag := fun (label : String) (b : Bool) => if b then [line label "true"] else []
  let rest :=
    if o.mode = .dir then
      (if o.excludedStatusParsed.isEmpty then []
        else [line "Excluded status codes " (",".intercalate (o.excludedStatusParsed.map toString))]) ++
      opt "Proxy                 " o.proxy ++
      opt "Cookies               " o.cookies ++
      opt "User Agent            " o.userAgent ++
      opt "Auth User             " o.username ++
      (if o.extensionsParsed.isEmpty then []
        else [line "Extensions            " (",".intercalate o.extensionsParsed)]) ++
      flag "Show length           " o.includeLength ++
      flag "Add Slash             " o.useSlash ++
      flag "Follow Redir          " o.followRedirect ++
      flag "Blank extension       " o.blankExtension ++
      flag "Verbose               " o.verbose ++
      [line "Timeout               " (toString o.timeout ++ "s")] ++
      opt "Wayback urls          " o.waybackUrls ++
      opt "Random agent          " o.randomAgentsFile ++
      opt "Exclude string        " o.excludeString ++
      [line "Output folder         " o.outputFolder]
    else
      flag "Show IPs              " o.showIps ++ flag "Show CNAME            " o.showCname
  "\n".intercalate (head ++ rest)

end Discovery.Options
