import Discovery.Cli.Error
import Discovery.Cli.Grammar
import Discovery.Cli.Similar
import Discovery.Options.Basic
import Discovery.Text.Number
/-!
# Reading a command line

Arguments are read left to right. A long name may carry its value after `=`; a short
name may be bundled with other short flags, and an option's value may follow it in the
same word (after an optional `=`) or in the next word. An option's value is checked
when the next argument is met or the line ends; an argument given twice, a missing or
bad value, an unknown name and a stray word are errors, and so are required options
that were never given. The first word that is not an argument names the command. An
unknown long name is answered with the most similar known one, if any is similar
enough. Usage lines name the required arguments and those given so far, or, when
nothing was given, all options in short.

`parse_nil` says that an empty command line asks for the help screen.
-/

namespace Discovery.Cli

/-- What has been read at one level of the command line. -/
structure Parsed where
  /-- Values by argument, in the order first given; flags hold `true`. -/
  given : List (String × String) := []
  /-- An option waiting for its value, and the value once read. -/
  pending : Option (Arg × List String) := none
  trailing : Bool := false
  deriving Repr

/-- The argument was given. -/
def Parsed.has (p : Parsed) (id : String) : Bool := p.given.any (·.1 = id)

/-- The value given for an argument. -/
def Parsed.value? (p : Parsed) (id : String) : Option String := (p.given.find? (·.1 = id)).map (·.2)

/-- The argument with this name. -/
def Command.find? (c : Command) (id : String) : Option Arg := c.args.find? (·.id = id)

/-- The usage line showing options in short. -/
def Command.helpUsage (c : Command) : String :=
  "Usage: " ++ c.path ++ " [OPTIONS]" ++
    String.join ((c.args.filter (·.required)).map fun a => " " ++ a.display) ++
    (if c.name = "ybuster" then " <COMMAND>" else "")

/-- The usage line naming the required arguments and those in `used`. -/
def Command.usageWith (c : Command) (used : List String) : String :=
  if used.isEmpty then c.helpUsage
  else
    let ids := ((c.args.filter (·.required)).map (·.id) ++ used).foldl
      (fun acc id => if acc.contains id then acc else acc ++ [id]) []
    "Usage: " ++ c.path ++ String.join (ids.filterMap fun id => (c.find? id).map (" " ++ ·.display)) ++
      (if c.name = "ybuster" then " <COMMAND>" else "")

/-- A value is checked against its option. -/
def checkValue (a : Arg) (v : String) : Except CliError Unit :=
  match a.kind with
  | .option _ .count =>
    match Text.readUnsigned 64 v with
    | .ok _ => .ok ()
    | .error e => .error (.valueValidation a.display v e.message)
  | _ => .ok ()

/-- Take an argument with its values. -/
def record (c : Command) (p : Parsed) (a : Arg) (vals : List String) : Except CliError Parsed :=
  match a.kind with
  | .help => .error (.displayHelp c.help)
  | .version => .error (.displayVersion versionText)
  | .flag =>
    if p.has a.id then .error (.argumentConflict a.display c.helpUsage)
    else .ok { p with given := p.given ++ [(a.id, "true")] }
  | .option .. =>
    match vals with
    | [] => .error (.emptyValue a.display)
    | v :: _ =>
      if p.has a.id then .error (.argumentConflict a.display c.helpUsage)
      else
        match checkValue a v with
        | .error e => .error e
        | .ok () => .ok { p with given := p.given ++ [(a.id, v)] }

/-- Take the option that waits for its value. -/
def resolve (c : Command) (p : Parsed) : Except CliError Parsed :=
  match p.pending with
  | none => .ok p
  | some (a, vals) => record c { p with pending := none } a vals

/-- Take the waiting option if it can be taken, else drop it. -/
def resolveLoose (c : Command) (p : Parsed) : Parsed :=
  match resolve c p with
  | .ok p => p
  | .error _ => { p with pending := none }

/-- Take an argument after the waiting option. -/
def react (c : Command) (p : Parsed) (a : Arg) (vals : List String) : Except CliError Parsed :=
  match resolve c p with
  | .error e => .error e
  | .ok p => record c p a vals

/-- The most similar long name of a command's arguments. -/
def similarLong (c : Command) (name : String) : Option String :=
  (similarNames name (c.args.map (·.long))).getLast?

/-- An unknown long name on a command's level. -/
def unknownLong (c : Command) (p : Parsed) (name : String) : CliError :=
  let p := resolveLoose c p
  let used := p.given.map (·.1)
  match similarLong c name with
  | some s =>
    let sid := ((c.args.find? (·.long = s)).map (·.id)).toList
    let used := if used.any (sid.contains ·) then used else used ++ sid
    .unknownArgument ("--" ++ name) ["a similar argument exists: '--" ++ s ++ "'"] (c.usageWith used)
  | none => .unknownArgument ("--" ++ name) [] (c.usageWith used)

/-- Split `name=value`. -/
def splitEq (s : List Char) : String × Option String :=
  let name := s.takeWhile (· ≠ '=')
  match s.drop name.length with
  | '=' :: v => (String.ofList name, some (String.ofList v))
  | _ => (String.ofList name, none)

/-- A long argument on a command's level. -/
def readLong (c : Command) (p : Parsed) (body : List Char)
    (unknown : Parsed → String → CliError) : Except CliError Parsed :=
  let (name, value) := splitEq body
  match c.args.find? (·.long = name) with
  | none => .error (unknown p name)
  | some a =>
    match a.kind, value with
    | .option .., some v => react c p a [v]
    | .option .., none =>
      match resolve c p with
      | .error e => .error e
      | .ok p => .ok { p with pending := some (a, []) }
    | _, some v =>
      let used := (p.given.map (·.1)).filter fun id => !((c.find? id).map (·.required)).getD false
      .error (.tooManyValues v a.display (c.usageWith (used ++ [a.id])))
    | _, none => react c p a []

/-- A word of bundled short arguments on a command's level. -/
def readShorts (c : Command) : Parsed → List Char → Except CliError Parsed
  | p, [] => .ok p
  | p, ch :: rest =>
    match c.args.find? (·.short = some ch) with
    | none => .error (.unknownArgument ("-" ++ ch.toString) [] c.helpUsage)
    | some a =>
      match a.kind with
      | .option .. =>
        if rest.isEmpty then
          match resolve c p with
          | .error e => .error e
          | .ok p => .ok { p with pending := some (a, []) }
        else
          let v := match rest with
            | '=' :: more => more
            | more => more
          react c p a [String.ofList v]
      | _ =>
        match react c p a [] with
        | .error e => .error e
        | .ok p => readShorts c p rest

/-- What kind of word an argument is. -/
inductive Word where
  | escape
  | long (body : List Char)
  | shorts (chars : List Char)
  | plain (text : String)

/-- Classify a word. -/
def classify (w : String) : Word :=
  match w.toList with
  | ['-', '-'] => .escape
  | '-' :: '-' :: body => .long body
  | '-' :: c :: rest => .shorts (c :: rest)
  | _ => .plain w

/-- Read the words of a command's level after the command name. -/
def readLevel (c : Command) : Parsed → List String → Except CliError Parsed
  | p, [] => .ok p
  | p, w :: rest =>
    if p.trailing then .error (.unknownArgument w [] c.helpUsage)
    else
      match classify w with
      | .escape => readLevel c { p with trailing := true } rest
      | .long body =>
        match readLong c p body (unknownLong c) with
        | .error e => .error e
        | .ok p => readLevel c p rest
      | .shorts cs =>
        match readShorts c p cs with
        | .error e => .error e
        | .ok p => readLevel c p rest
      | .plain text =>
        match p.pending with
        | some (a, []) => readLevel c { p with pending := some (a, [text]) } rest
        | _ => .error (.unknownArgument text [] c.helpUsage)

/-- Finish a command's level: take the waiting option and check required arguments. -/
def finishLevel (c : Command) (p : Parsed) : Except CliError Parsed :=
  match resolve c p with
  | .error e => .error e
  | .ok p =>
    let missing := c.args.filter fun a => a.required && !p.has a.id
    if missing.isEmpty then .ok p
    else .error (.missingRequired (missing.map (·.display))
      (c.usageWith (p.given.map (·.1) ++ missing.map (·.id))))

/-- The result of reading a command line. -/
structure Invocation where
  debug : Bool
  options : Options
  deriving Repr

/-- The options that the values of a command set. -/
def optionsOf (mode : Mode) (top sub : Parsed) : Invocation :=
  let flag := fun id => sub.has id
  let text := fun id => (sub.value? id).getD ""
  let count := fun id (d : Nat) => match sub.value? id with
    | some v => match Text.readUnsigned 64 v with
      | .ok n => n
      | .error _ => d
    | none => d
  { debug := top.has "debug" || sub.has "debug"
    options :=
      { mode
        url := text "url"
        workers := count "workers" 10
        wordlist := text "wordlist"
        waybackUrls := sub.value? "wayback_urls"
        outputFolder := (sub.value? "output_folder").getD "./results"
        outputFilename := sub.value? "output_filename"
        jsonOutput := sub.value? "json_output"
        excludedStatusCodes := text "excluded_status_codes"
        excludeString := sub.value? "exclude_string"
        extensions := text "extensions"
        blankExtension := flag "blank_extension"
        cookies := sub.value? "cookies"
        username := sub.value? "username"
        password := sub.value? "password"
        userAgent := sub.value? "user_agent"
        randomAgentsFile := sub.value? "random_agents_file"
        proxy := sub.value? "proxy"
        timeout := count "timeout" 10
        followRedirect := flag "follow_redirect"
        includeLength := flag "include_length"
        insecureTls := flag "insecure_tls"
        useSlash := flag "use_slash"
        showIps := flag "show_ips"
        showCname := flag "show_cname"
        verbose := top.has "verbose" || sub.has "verbose"
        quiet := flag "quiet"
        noProgress := flag "no_progress" } }

/-- The commands a word names. -/
def commandNamed? (name : String) : Option Command :=
  if name = "dir" then some dirCommand else if name = "dns" then some dnsCommand else none

/-- The help that `help` followed by command names asks for. -/
def helpFor : List String → Except CliError Unit
  | [] => .error (.displayHelp topHelp)
  | [name] =>
    match commandNamed? name with
    | some c => .error (.displayHelp c.help)
    | none =>
      if name = "help" then .error (.displayHelp helpHelp)
      else .error (.invalidSubcommand name [] [] topCommand.helpUsage)
  | name :: next :: _ =>
    match commandNamed? name with
    | some c => .error (.invalidSubcommand next [] [] c.helpUsage)
    | none =>
      if name = "help" then .error (.invalidSubcommand next [] [] "Usage: ybuster help [COMMAND]...")
      else .error (.invalidSubcommand name [] [] topCommand.helpUsage)

/-- An unknown long name before the command: a similar name of the program, or of a
command named later on the line. -/
def unknownTopLong (rest : List String) (p : Parsed) (name : String) : CliError :=
  let c := topCommand
  let p := resolveLoose c p
  let used := p.given.map (·.1)
  match similarLong c name with
  | some s => .unknownArgument ("--" ++ name) ["a similar argument exists: '--" ++ s ++ "'"]
      (c.usageWith used)
  | none =>
    let scored := [dirCommand, dnsCommand].filterMap fun sc =>
      match similarLong sc name, rest.idxOf? sc.name with
      | some s, some i => some (i, sc.name ++ " --" ++ s)
      | _, _ => none
    let best := scored.foldl (fun (acc : Option (Nat × String)) x =>
      match acc with
      | some y => if x.1 < y.1 then some x else some y
      | none => some x) none
    match best with
    | some (_, tip) => .unknownArgument ("--" ++ name) ["'" ++ tip ++ "' exists"] (c.usageWith used)
    | none => .unknownArgument ("--" ++ name) [] (c.usageWith used)

/-- Read the words before the command. -/
def readTop : Parsed → List String → Except CliError Invocation
  | p, [] =>
    match resolve topCommand p with
    | .error e => .error e
    | .ok p =>
      if p.given.isEmpty then .error (.helpOnEmpty topHelp)
      else .error (.missingSubcommand "ybuster" commandNames topCommand.helpUsage)
  | p, w :: rest =>
    let c := topCommand
    if p.trailing then
      if commandNames.contains w then
        .error (.unknownArgument w ["subcommand '" ++ w ++ "' exists; to use it, remove the '--' before it"]
          c.helpUsage)
      else .error (.invalidSubcommand w [] [] c.helpUsage)
    else
      match commandNamed? w with
      | some sc =>
        match readLevel sc {} rest with
        | .error e => .error e
        | .ok sub =>
          match finishLevel sc sub with
          | .error e => .error e
          | .ok sub => .ok (optionsOf (if sc.name = "dir" then .dir else .dns) p sub)
      | none =>
        if w = "help" then
          match helpFor rest with
          | .error e => .error e
          | .ok () => .error (.displayHelp topHelp)
        else
          match classify w with
          | .escape => readTop { p with trailing := true } rest
          | .long body =>
            match readLong c p body (unknownTopLong rest) with
            | .error e => .error e
            | .ok p => readTop p rest
          | .shorts cs =>
            match readShorts c p cs with
            | .error e => .error e
            | .ok p => readTop p rest
          | .plain text =>
            let similar := similarNames text commandNames
            if similar.isEmpty then .error (.invalidSubcommand text [] [] c.helpUsage)
            else .error (.invalidSubcommand text similar
              ["to pass '" ++ text ++ "' as a value, use 'ybuster -- " ++ text ++ "'"] c.helpUsage)

/-- Read a command line, without the program name. -/
def parse (args : List String) : Except CliError Invocation := readTop {} args

theorem parse_nil : parse [] = .error (.helpOnEmpty topHelp) := rfl

end Discovery.Cli
