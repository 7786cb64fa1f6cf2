/-!
# Command-line failures

A command line that cannot be run ends with a message: the help or version text when
those were asked for, or an error line, optional tips, a usage line and a pointer to
`--help`. Each failure has a kind name.
-/

namespace Discovery.Cli

/-- Why a command line was not run. -/
inductive CliError where
  | displayHelp (text : String)
  | displayVersion (text : String)
  | helpOnEmpty (text : String)
  | unknownArgument (arg : String) (tips : List String) (usage : String)
  | invalidSubcommand (name : String) (similar : List String) (tips : List String) (usage : String)
  | argumentConflict (arg : String) (usage : String)
  | missingRequired (args : List String) (usage : String)
  | emptyValue (arg : String)
  | valueValidation (arg value reason : String)
  | tooManyValues (value arg : String) (usage : String)
  | missingSubcommand (name : String) (commands : List String) (usage : String)
  deriving DecidableEq, Repr

/-- The name of each kind of failure. -/
def CliError.kind : CliError → String
  | .displayHelp _ => "DisplayHelp"
  | .displayVersion _ => "DisplayVersion"
  | .helpOnEmpty _ => "DisplayHelpOnMissingArgumentOrSubcommand"
  | .unknownArgument .. => "UnknownArgument"
  | .invalidSubcommand .. => "InvalidSubcommand"
  | .argumentConflict .. => "ArgumentConflict"
  | .missingRequired .. => "MissingRequiredArgument"
  | .emptyValue _ => "InvalidValue"
  | .valueValidation .. => "ValueValidation"
  | .tooManyValues .. => "TooManyValues"
  | .missingSubcommand .. => "MissingSubcommand"

/-- The failure is a request for help or version, answered on standard output. -/
def CliError.isInformational : CliError → Bool
  | .displayHelp _ | .displayVersion _ => true
  | _ => false

/-- Tips, each on its own line after a blank line. -/
def tipLines (tips : List String) : String :=
  if tips.isEmpty then "" else "\n" ++ String.join (tips.map fun t => "\n  tip: " ++ t)

/-- An error line with tips and usage. -/
def errorText (line tips usage : String) : String :=
  "error: " ++ line ++ tips ++ (if usage.isEmpty then "" else "\n\n" ++ usage) ++
    "\n\nFor more information, try '--help'.\n"

/-- Names quoted and joined by commas. -/
def quotedList (xs : List String) : String := ", ".intercalate (xs.map fun x => "'" ++ x ++ "'")

/-- The text of a failure. -/
def CliError.render : CliError → String
  | .displayHelp text => text
  | .displayVersion text => text
  | .helpOnEmpty text => text
  | .unknownArgument arg tips usage =>
    errorText ("unexpected argument '" ++ arg ++ "' found") (tipLines tips) usage
  | .invalidSubcommand name similar tips usage =>
    let similarTip :=
      if similar.isEmpty then []
      else if similar.length > 1 then ["some similar subcommands exist: " ++ quotedList similar]
      else ["a similar subcommand exists: " ++ quotedList similar]
    errorText ("unrecognized subcommand '" ++ name ++ "'") (tipLines (similarTip ++ tips)) usage
  | .argumentConflict arg usage =>
    errorText ("the argument '" ++ arg ++ "' cannot be used multiple times") "" usage
  | .missingRequired args usage =>
    errorText ("the following required arguments were not provided:" ++
      String.join (args.map ("\n  " ++ ·))) "" usage
  | .emptyValue arg => errorText ("a value is required for '" ++ arg ++ "' but none was supplied") "" ""
  | .valueValidation arg value reason =>
    errorText ("invalid value '" ++ value ++ "' for '" ++ arg ++ "': " ++ reason) "" ""
  | .tooManyValues value arg usage =>
    errorText ("unexpected value '" ++ value ++ "' for '" ++ arg ++ "' found; no more were expected") ""
      usage
  | .missingSubcommand name commands usage =>
    errorText ("'" ++ name ++ "' requires a subcommand but one was not provided\n  [subcommands: " ++
      ", ".intercalate commands ++ "]") "" usage

end Discovery.Cli
