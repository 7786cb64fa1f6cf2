/-!
# The command-line grammar

The program takes one command, `dir` or `dns`, or `help`. Each command has its
arguments: flags, which take no value, and options, which take one; each has a long
name, maybe a short one, and the name of the option field it sets. Two flags, `--debug`
and `--verbose`, are global: they may stand before or after the command. Every command
also has `--help`, and the program `--version`. The help screens are fixed texts.
-/

namespace Discovery.Cli

/-- What an option's value must be. -/
inductive ValueKind where
  | text
  /-- A count of 64 bits. -/
  | count
  deriving DecidableEq, Repr

/-- What an argument does. -/
inductive ArgKind where
  | flag
  | option (valueName : String) (kind : ValueKind)
  | help
  | version
  deriving DecidableEq, Repr

/-- One argument of a command. -/
structure Arg where
  id : String
  long : String
  short : Option Char := none
  kind : ArgKind := .flag
  required : Bool := false
  deriving DecidableEq, Repr

/-- How an argument is named in messages: its long name and value. -/
def Arg.display (a : Arg) : String :=
  "--" ++ a.long ++
    match a.kind with
    | .option v _ => " <" ++ v ++ ">"
    | _ => ""

/-- A command: its name, the arguments in the order they were declared, and its help. -/
structure Command where
  name : String
  path : String
  args : List Arg
  help : String
  deriving Repr

/-- A text option. -/
def opt (id long : String) (short : Option Char) (value : String) : Arg :=
  { id, long, short, kind := .option value .text }

/-- The global flags. -/
def globalArgs : List Arg :=
  [{ id := "debug", long := "debug" }, { id := "verbose", long := "verbose", short := some 'v' }]

/-- The help flag. -/
def helpArg : Arg := { id := "help", long := "help", short := some 'h', kind := .help }

/-- The arguments both commands share. -/
def commonArgs : List Arg :=
  [{ opt "wordlist" "wordlist" (some 'w') "WORDLIST" with required := true },
   { id := "workers", long := "threads", short := some 't', kind := .option "WORKERS" .count },
   opt "output_folder" "output-folder" none "OUTPUT_FOLDER",
   opt "output_filename" "output" (some 'o') "OUTPUT_FILENAME",
   opt "json_output" "json" none "JSON_OUTPUT",
   { id := "quiet", long := "quiet", short := some 'q' },
   { id := "no_progress", long := "no-progress" }]

/-- The help screen of the program. -/
def topHelp : String :=
  "Usage: ybuster [OPTIONS] <COMMAND>\n\nCommands:\n" ++
  "  dir   Brute-force directories and files on a web server\n" ++
  "  dns   Brute-force subdomains through DNS\n" ++
  "  help  Print this message or the help of the given subcommand(s)\n\nOptions:\n" ++
  "      --debug    Enable detailed debug logging (global)\n" ++
  "  -v, --verbose  Verbose output: also print MISSED / FALSE POSITIVE lines and errors (global)\n" ++
  "  -h, --help     Print help\n  -V, --version  Print version\n"

/-- The help screen of `dir`. -/
def dirHelp : String :=
  "Brute-force directories and files on a web server\n\n" ++
  "Usage: ybuster dir [OPTIONS] --url <URL> --wordlist <WORDLIST>\n\nOptions:\n" ++
  "  -u, --url <URL>\n          Target URL (e.g. http://example.com, or example.com:443)\n" ++
  "  -w, --wordlist <WORDLIST>\n          Path to the wordlist, or `-` for stdin\n" ++
  "      --debug\n          Enable detailed debug logging (global)\n" ++
  "  -t, --threads <WORKERS>\n          Number of concurrent workers [default: 10]\n" ++
  "      --output-folder <OUTPUT_FOLDER>\n          Output directory [default: ./results]\n" ++
  "  -v, --verbose\n          Verbose output: also print MISSED / FALSE POSITIVE lines and errors (global)\n" ++
  "  -o, --output <OUTPUT_FILENAME>\n          Matches file name inside the output directory\n" ++
  "      --json <JSON_OUTPUT>\n          Also write reported results as JSON lines to this file\n" ++
  "  -q, --quiet\n          Don't print the banner and other noise\n" ++
  "      --no-progress\n          Don't display progress\n" ++
  "  -x, --exclude-status <EXCLUDED_STATUS_CODES>\n" ++
  "          Comma-separated status codes to hide (e.g. 404,400) [default: \"\"]\n" ++
  "      --exclude-string <EXCLUDE_STRING>\n          Hide responses whose body contains this string\n" ++
  "  -e, --ext <EXTENSIONS>\n" ++
  "          Comma-separated extensions substituted for %EXT% in words [default: \"\"]\n" ++
  "      --blank-ext\n          Also request words with `.%EXT%` removed\n" ++
  "  -c, --cookies <COOKIES>\n          Cookie header sent with each request\n" ++
  "  -U, --username <USERNAME>\n          Basic auth username\n" ++
  "  -P, --password <PASSWORD>\n          Basic auth password\n" ++
  "  -a, --user-agent <USER_AGENT>\n          User-Agent header\n" ++
  "      --random-agent <RANDOM_AGENTS_FILE>\n          File of user agents to pick from at random per request\n" ++
  "  -p, --proxy <PROXY>\n          Proxy for requests [http(s)://host:port]\n" ++
  "      --timeout <TIMEOUT>\n          HTTP timeout in seconds [default: 10]\n" ++
  "  -r, --follow-redirect\n          Follow redirects\n" ++
  "  -l, --include-length\n          Report the Content-Length header as size when present\n" ++
  "  -k, --insecure\n          Skip TLS certificate verification\n" ++
  "  -f, --add-slash\n          Append a forward slash to each request\n" ++
  "      --waybackurls <WAYBACK_URLS>\n          Deduplicate this URL corpus and probe it before the wordlist\n" ++
  "  -h, --help\n          Print help\n"

/-- The help screen of `dns`. -/
def dnsHelp : String :=
  "Brute-force subdomains through DNS\n\n" ++
  "Usage: ybuster dns [OPTIONS] --domain <DOMAIN> --wordlist <WORDLIST>\n\nOptions:\n" ++
  "  -d, --domain <DOMAIN>                Target domain (e.g. example.com)\n" ++
  "  -w, --wordlist <WORDLIST>            Path to the wordlist, or `-` for stdin\n" ++
  "      --debug                          Enable detailed debug logging (global)\n" ++
  "  -t, --threads <WORKERS>              Number of concurrent workers [default: 10]\n" ++
  "      --output-folder <OUTPUT_FOLDER>  Output directory [default: ./results]\n" ++
  "  -v, --verbose                        Verbose output: also print MISSED / FALSE POSITIVE lines and errors (global)\n" ++
  "  -o, --output <OUTPUT_FILENAME>       Matches file name inside the output directory\n" ++
  "      --json <JSON_OUTPUT>             Also write reported results as JSON lines to this file\n" ++
  "  -q, --quiet                          Don't print the banner and other noise\n" ++
  "      --no-progress                    Don't display progress\n" ++
  "  -i, --show-ips                       Show the IP addresses of found subdomains\n" ++
  "      --show-cname                     Show the CNAME of found subdomains (not with --show-ips)\n" ++
  "  -h, --help                           Print help\n"

/-- The help screen of `help`. -/
def helpHelp : String :=
  "Print this message or the help of the given subcommand(s)\n\n" ++
  "Usage: ybuster help [COMMAND]...\n\nArguments:\n  [COMMAND]...  Print help for the subcommand(s)\n"

/-- The `dir` command. -/
def dirCommand : Command where
  name := "dir"
  path := "ybuster dir"
  args :=
    [{ opt "url" "url" (some 'u') "URL" with required := true }] ++ commonArgs ++
    [opt "excluded_status_codes" "exclude-status" (some 'x') "EXCLUDED_STATUS_CODES",
     opt "exclude_string" "exclude-string" none "EXCLUDE_STRING",
     opt "extensions" "ext" (some 'e') "EXTENSIONS",
     { id := "blank_extension", long := "blank-ext" },
     opt "cookies" "cookies" (some 'c') "COOKIES",
     opt "username" "username" (some 'U') "USERNAME",
     opt "password" "password" (some 'P') "PASSWORD",
     opt "user_agent" "user-agent" (some 'a') "USER_AGENT",
     opt "random_agents_file" "random-agent" none "RANDOM_AGENTS_FILE",
     opt "proxy" "proxy" (some 'p') "PROXY",
     { id := "timeout", long := "timeout", kind := .option "TIMEOUT" .count },
     { id := "follow_redirect", long := "follow-redirect", short := some 'r' },
     { id := "include_length", long := "include-length", short := some 'l' },
     { id := "insecure_tls", long := "insecure", short := some 'k' },
     { id := "use_slash", long := "add-slash", short := some 'f' },
     opt "wayback_urls" "waybackurls" none "WAYBACK_URLS"] ++ globalArgs ++ [helpArg]
  help := dirHelp

/-- The `dns` command. -/
def dnsCommand : Command where
  name := "dns"
  path := "ybuster dns"
  args :=
    [{ opt "url" "domain" (some 'd') "DOMAIN" with required := true }] ++ commonArgs ++
    [{ id := "show_ips", long := "show-ips", short := some 'i' },
     { id := "show_cname", long := "show-cname" }] ++ globalArgs ++ [helpArg]
  help := dnsHelp

/-- The program itself, before a command. -/
def topCommand : Command where
  name := "ybuster"
  path := "ybuster"
  args := globalArgs ++ [helpArg, { id := "version", long := "version", short := some 'V', kind := .version }]
  help := topHelp

/-- The names of the commands. -/
def commandNames : List String := ["dir", "dns", "help"]

/-- The version line. -/
def versionText : String := "ybuster 0.1.0\n"

end Discovery.Cli
