import Discovery.Json.Number
import Discovery.Decimal.Shortest
import Discovery.Options.Basic
import Discovery.Text.Quoted
/-!
# The options document

Options can be given as a JSON document: an object whose members name options, or an
array that gives them in their order. Absent options keep their defaults, unknown
members are ignored, and members are read in ascending order of their names, the first
bad one giving the error. A text option takes a string, an optional one also null; a
count takes a non-negative integer; a flag takes a boolean; the mode takes `"dir"` or
`"dns"`, or an object with one such member whose value is null. Errors name what was
found and what was expected; a number that is no 64-bit integer is named by its binary64
value, written out with a point.
-/

namespace Discovery.Options

/-- The text of a binary value in an error: written out without an exponent, with a
point and a fractional digit always, and `inf` beyond the finite range. -/
def binaryText (negative : Bool) (v : Option Decimal.Binary) : String :=
  let sign := if negative then "-" else ""
  match v with
  | none => sign ++ "inf"
  | some x =>
    let t := x.plainText
    sign ++ (if t.contains '.' then t else t ++ ".0")

/-- How a found value is named in an error. -/
def unexpected (j : Json) : String :=
  match j.numeric? with
  | some (.unsigned n) => "integer `" ++ toString n ++ "`"
  | some (.signed n) => "integer `" ++ toString n ++ "`"
  | some (.binary neg v) => "floating point `" ++ binaryText neg v ++ "`"
  | none =>
    match j with
    | .null => "null"
    | .bool b => "boolean `" ++ (if b then "true" else "false") ++ "`"
    | .str s => "string " ++ Text.quoted s
    | .arr _ => "sequence"
    | _ => "map"

/-- The error of a value of the wrong kind. -/
def invalidType (j : Json) (expected : String) : String :=
  "invalid type: " ++ unexpected j ++ ", expected " ++ expected

/-- A text. -/
def readText (j : Json) : Except String String :=
  match j with
  | .str s => .ok s
  | _ => .error (invalidType j "a string")

/-- A text or null. -/
def readOptText (j : Json) : Except String (Option String) :=
  match j with
  | .null => .ok none
  | .str s => .ok (some s)
  | _ => .error (invalidType j "a string")

/-- A path. -/
def readPath (j : Json) : Except String String :=
  match j with
  | .str s => .ok s
  | _ => .error (invalidType j "path string")

/-- A path or null. -/
def readOptPath (j : Json) : Except String (Option String) :=
  match j with
  | .null => .ok none
  | .str s => .ok (some s)
  | _ => .error (invalidType j "path string")

/-- A truth value. -/
def readFlag (j : Json) : Except String Bool :=
  match j with
  | .bool b => .ok b
  | _ => .error (invalidType j "a boolean")

/-- A count of 64 bits; `kind` names it. -/
def readCount (kind : String) (j : Json) : Except String Nat :=
  match j.numeric? with
  | some (.unsigned n) => .ok n
  | some (.signed _) => .error ("invalid value: " ++ unexpected j ++ ", expected " ++ kind)
  | _ => .error (invalidType j kind)

/-- A mode by name. -/
def modeNamed (name : String) : Except String Mode :=
  if name = "dir" then .ok .dir
  else if name = "dns" then .ok .dns
  else .error ("unknown variant `" ++ name ++ "`, expected `dir` or `dns`")

/-- A mode: its name, or an object with the name as its one member and null as value. -/
def readMode (j : Json) : Except String Mode :=
  match j with
  | .str s => modeNamed s
  | .obj fields =>
    match Json.members fields with
    | [(name, v)] =>
      match modeNamed name with
      | .error e => .error e
      | .ok m =>
        match v with
        | .null => .ok m
        | _ => .error (invalidType v "unit")
    | _ => .error "invalid value: map, expected map with a single key"
  | _ => .error (invalidType j "string or map")

/-- Set one option from its member. -/
def setField (o : Options) (name : String) (j : Json) : Except String Options :=
  match name with
  | "mode" => (readMode j).map fun v => { o with mode := v }
  | "url" => (readText j).map fun v => { o with url := v }
  | "workers" => (readCount "usize" j).map fun v => { o with workers := v }
  | "wordlist" => (readText j).map fun v => { o with wordlist := v }
  | "wayback_urls" => (readOptPath j).map fun v => { o with waybackUrls := v }
  | "output_folder" => (readPath j).map fun v => { o with outputFolder := v }
  | "output_filename" => (readOptText j).map fun v => { o with outputFilename := v }
  | "json_output" => (readOptPath j).map fun v => { o with jsonOutput := v }
  | "excluded_status_codes" => (readText j).map fun v => { o with excludedStatusCodes := v }
  | "exclude_string" => (readOptText j).map fun v => { o with excludeString := v }
  | "extensions" => (readText j).map fun v => { o with extensions := v }
  | "blank_extension" => (readFlag j).map fun v => { o with blankExtension := v }
  | "cookies" => (readOptText j).map fun v => { o with cookies := v }
  | "username" => (readOptText j).map fun v => { o with username := v }
  | "password" => (readOptText j).map fun v => { o with password := v }
  | "user_agent" => (readOptText j).map fun v => { o with userAgent := v }
  | "random_agents_file" => (readOptPath j).map fun v => { o with randomAgentsFile := v }
  | "proxy" => (readOptText j).map fun v => { o with proxy := v }
  | "timeout" => (readCount "u64" j).map fun v => { o with timeout := v }
  | "follow_redirect" => (readFlag j).map fun v => { o with followRedirect := v }
  | "include_length" => (readFlag j).map fun v => { o with includeLength := v }
  | "insecure_tls" => (readFlag j).map fun v => { o with insecureTls := v }
  | "use_slash" => (readFlag j).map fun v => { o with useSlash := v }
  | "show_ips" => (readFlag j).map fun v => { o with showIps := v }
  | "show_cname" => (readFlag j).map fun v => { o with showCname := v }
  | "verbose" => (readFlag j).map fun v => { o with verbose := v }
  | "quiet" => (readFlag j).map fun v => { o with quiet := v }
  | "no_progress" => (readFlag j).map fun v => { o with noProgress := v }
  | _ => .ok o

/-- The option names in their order. -/
def fieldNames : List String :=
  ["mode", "url", "workers", "wordlist", "wayback_urls", "output_folder", "output_filename",
   "json_output", "excluded_status_codes", "exclude_string", "extensions", "blank_extension",
   "cookies", "username", "password", "user_agent", "random_agents_file", "proxy", "timeout",
   "follow_redirect", "include_length", "insecure_tls", "use_slash", "show_ips", "show_cname",
   "verbose", "quiet", "no_progress"]

/-- Set options from named members in turn, stopping at the first bad one. -/
def setFields (o : Options) : List (String × Json) → Except String Options
  | [] => .ok o
  | (k, v) :: rest =>
    match setField o k v with
    | .ok o => setFields o rest
    | .error e => .error e

/-- The options of a document. -/
def ofJson (j : Json) : Except String Options :=
  match j with
  | .obj fields => setFields {} (Json.members fields)
  | .arr items =>
    if items.length > fieldNames.length then
      .error ("invalid length " ++ toString items.length ++ ", expected fewer elements in array")
    else setFields {} (fieldNames.zip items)
  | _ => .error (invalidType j "struct Options")

/-- The document of the options, with the three parsed options beside the others. -/
def toJson (o : Options) : Json :=
  let text := fun (s : String) => Json.str s
  let opt := fun (v : Option String) => match v with | some s => Json.str s | none => Json.null
  .obj [("mode", text o.mode.name), ("url", text o.url), ("workers", .num o.workers),
    ("wordlist", text o.wordlist), ("wayback_urls", opt o.waybackUrls),
    ("output_folder", text o.outputFolder), ("output_filename", opt o.outputFilename),
    ("json_output", opt o.jsonOutput), ("excluded_status_codes", text o.excludedStatusCodes),
    ("exclude_string", opt o.excludeString), ("extensions", text o.extensions),
    ("blank_extension", .bool o.blankExtension), ("cookies", opt o.cookies),
    ("username", opt o.username), ("password", opt o.password), ("user_agent", opt o.userAgent),
    ("random_agents_file", opt o.randomAgentsFile), ("proxy", opt o.proxy),
    ("timeout", .num o.timeout), ("follow_redirect", .bool o.followRedirect),
    ("include_length", .bool o.includeLength), ("insecure_tls", .bool o.insecureTls),
    ("use_slash", .bool o.useSlash), ("show_ips", .bool o.showIps),
    ("show_cname", .bool o.showCname), ("verbose", .bool o.verbose), ("quiet", .bool o.quiet),
    ("no_progress", .bool o.noProgress),
    ("extensions_parsed", .arr (o.extensionsParsed.map .str)),
    ("excluded_status_parsed", .arr (o.excludedStatusParsed.map fun (n : Nat) => .num n)),
    ("random_agents", .arr (o.randomAgents.map .str))]

end Discovery.Options
