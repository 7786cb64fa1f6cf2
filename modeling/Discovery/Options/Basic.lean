/-!
# Scan options

A scan runs in one of two modes: `dir` probes paths under a web address, `dns` looks up
names under a domain. Its options name the target, the word list (`-` for standard
input), the number of workers, the output places, the request details and the flags
that shape what is shown. Three options are read from others when they are checked:
the set of extensions, the set of excluded status codes and the list of random user
agents. Paths are kept as the text given.
-/

namespace Discovery

/-- What a scan enumerates. -/
inductive Mode where
  | dir
  | dns
  deriving DecidableEq, Repr

/-- The name of a mode. -/
def Mode.name : Mode → String
  | .dir => "dir"
  | .dns => "dns"

/-- The options of a scan, with their defaults. -/
structure Options where
  mode : Mode := .dir
  /-- The base address in `dir` mode, the domain in `dns` mode. -/
  url : String := ""
  workers : Nat := 10
  /-- `-` reads the word list from standard input. -/
  wordlist : String := ""
  waybackUrls : Option String := none
  outputFolder : String := "./results"
  outputFilename : Option String := none
  jsonOutput : Option String := none
  excludedStatusCodes : String := ""
  excludeString : Option String := none
  extensions : String := ""
  blankExtension : Bool := false
  cookies : Option String := none
  username : Option String := none
  password : Option String := none
  userAgent : Option String := none
  randomAgentsFile : Option String := none
  proxy : Option String := none
  /-- Whole seconds. -/
  timeout : Nat := 10
  followRedirect : Bool := false
  includeLength : Bool := false
  insecureTls : Bool := false
  useSlash : Bool := false
  showIps : Bool := false
  showCname : Bool := false
  verbose : Bool := false
  quiet : Bool := false
  noProgress : Bool := false
  extensionsParsed : List String := []
  excludedStatusParsed : List Nat := []
  randomAgents : List String := []
  deriving DecidableEq, Repr

end Discovery
