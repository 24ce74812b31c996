/-
  RouteShortcuts.CommandLine.Argument — the commands of the program and the arguments they take.

  An argument is written `--long`, or `-s` if it has a short name. One that takes a value is followed
  by it, or has it after an equals sign, or right behind its short name.
-/

namespace RouteShortcuts.CommandLine

inductive Command where
  | scan
  | generate
  | init
  | serve
  | help
  deriving DecidableEq, Repr

namespace Command

def all : List Command := [.scan, .generate, .init, .serve, .help]

def name : Command → String
  | .scan => "scan"
  | .generate => "generate"
  | .init => "init"
  | .serve => "serve"
  | .help => "help"

def about : Command → String
  | .scan => "Detect shortcut routes and list them"
  | .generate => "Generate web manifest shortcuts from detected routes"
  | .init => "Initialize a new .shortcutsrc.json configuration file"
  | .serve => "Start MCP server for AI coding agents"
  | .help => "Print this message or the help of the given subcommand(s)"

def ofName? (name : String) : Option Command := all.find? (·.name == name)

end Command

inductive Argument where
  | root
  | routeFiles
  | functionName
  | defaultIcon
  | denyWarnings
  | verbose
  | format
  | output
  | help
  | version
  deriving DecidableEq, Repr

namespace Argument

def long : Argument → String
  | .root => "root"
  | .routeFiles => "route-files"
  | .functionName => "function-name"
  | .defaultIcon => "default-icon"
  | .denyWarnings => "deny-warnings"
  | .verbose => "verbose"
  | .format => "format"
  | .output => "output"
  | .help => "help"
  | .version => "version"

def short? : Argument → Option Char
  | .verbose => some 'v'
  | .output => some 'o'
  | .help => some 'h'
  | .version => some 'V'
  | _ => none

/-- What the value of an argument is called, if it takes one. -/
def valueName? : Argument → Option String
  | .root => some "ROOT"
  | .routeFiles => some "PATTERN"
  | .functionName => some "FUNCTION_NAME"
  | .defaultIcon => some "DEFAULT_ICON"
  | .format => some "FORMAT"
  | .output => some "OUTPUT"
  | _ => none

def takesValue (a : Argument) : Bool := a.valueName?.isSome

def mayRepeat : Argument → Bool
  | .routeFiles => true
  | _ => false

/-- Paths must not be empty. -/
def isPath : Argument → Bool
  | .root | .output => true
  | _ => false

/-- The values that may be given, if they are few, and what they mean. -/
def choices : Argument → List (String × String)
  | .format =>
    [("json", "Plain JSON array"), ("module", "ES module with the JSON array as its default export")]
  | _ => []

/-- The value that holds if none is given, as help shows it. -/
def fallback? : Argument → Option String
  | .format => some "json"
  | _ => none

def about : Argument → String
  | .root => "Project root directory (default: current directory)"
  | .routeFiles =>
    "Route file glob pattern, relative to the root (overrides config file). Can be specified "
      ++ "multiple times"
  | .functionName => "Name of the shortcut declaration function (overrides config file)"
  | .defaultIcon =>
    "Default icon path used when a shortcut declares no icons (overrides config file)"
  | .denyWarnings => "Exit with status 1 when any route file could not be parsed"
  | .verbose => "Enable verbose output"
  | .format => "Output format"
  | .output => "Write the manifest to a file instead of stdout"
  | .help => "Print help"
  | .version => "Print version"

/-- The value as usage shows it, after a blank. -/
def valueShown (a : Argument) : String :=
  match a.valueName? with
  | some n => " <" ++ n ++ ">"
  | none => ""

/-- An argument as messages show it. -/
def shown (a : Argument) : String := "--" ++ a.long ++ a.valueShown

end Argument

/-- The program itself, or one of its commands. -/
abbrev Level := Option Command

namespace Level

def programName : String := "pwa-shortcuts"

def name : Level → String
  | none => programName
  | some c => programName ++ " " ++ c.name

def about : Level → String
  | none => "Detect PWA shortcut routes in JS/TS sources and generate web manifest shortcuts"
  | some c => c.about

/-- The arguments that both kinds of scan take. -/
def scanArguments : List Argument :=
  [.root, .routeFiles, .functionName, .defaultIcon, .denyWarnings, .verbose]

def arguments : Level → List Argument
  | none => [.help, .version]
  | some .scan => scanArguments ++ [.help]
  | some .generate => scanArguments ++ [.format, .output, .help]
  | some .init => [.help]
  | some .serve => [.help]
  | some .help => []

def longs (l : Level) : List String := (Level.arguments l).map Argument.long

def ofLong? (l : Level) (long : String) : Option Argument :=
  (Level.arguments l).find? (·.long == long)

def ofShort? (l : Level) (short : Char) : Option Argument :=
  (Level.arguments l).find? (·.short? == some short)

/-- What usage shows for arguments that are not named. -/
def rest : Level → String
  | none => " [COMMAND]"
  | some .scan => " [OPTIONS]"
  | some .generate => " [OPTIONS]"
  | some .help => " [COMMAND]..."
  | some .init => ""
  | some .serve => ""

end Level
end RouteShortcuts.CommandLine
