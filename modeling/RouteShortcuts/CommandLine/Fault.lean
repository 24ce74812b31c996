/-
  RouteShortcuts.CommandLine.Fault — why arguments are not taken.
-/

import RouteShortcuts.CommandLine.Help

namespace RouteShortcuts.CommandLine

open RouteShortcuts.Styled

inductive Fault where
  /-- There is no such command; `similar` are commands that may be meant. -/
  | unknownCommand (name : String) (similar : List String)
  /-- There is no such argument; `similar` may be meant. -/
  | unknownArgument (shown : String) (similar : Option Argument)
  /-- The argument belongs to a command that comes only later. -/
  | misplacedArgument (shown : String) (command : Command) (similar : String)
  /-- A command stands after `--`. -/
  | commandAfterDashes (name : String)
  | repeated (a : Argument)
  | missingValue (a : Argument)
  | invalidValue (a : Argument) (given : String) (similar : Option String)
  | valueNotTaken (a : Argument) (given : String)
  deriving DecidableEq, Repr

namespace Fault

def message : Fault → Styled
  | .unknownCommand name _ =>
    plain "unrecognized subcommand '" ++ inked .yellow name ++ plain "'"
  | .unknownArgument shown _ | .misplacedArgument shown _ _ | .commandAfterDashes shown =>
    plain "unexpected argument '" ++ inked .yellow shown ++ plain "' found"
  | .repeated a =>
    plain "the argument '" ++ inked .yellow a.shown ++ plain "' cannot be used multiple times"
  | .missingValue a =>
    plain "a value is required for '" ++ inked .yellow a.shown ++ plain "' but none was supplied"
  | .invalidValue a given _ =>
    plain "invalid value '" ++ inked .yellow given ++ plain "' for '" ++ inked .bold a.shown
      ++ plain "'"
  | .valueNotTaken a given =>
    plain "unexpected value '" ++ inked .yellow given ++ plain "' for '" ++ inked .bold a.shown
      ++ plain "' found; no more were expected"

/-- The values that may be given instead. -/
def choices : Fault → Styled
  | .missingValue a | .invalidValue a _ _ =>
    if a.choices.isEmpty then []
    else plain "\n  [possible values: "
      ++ (plain ", ").intercalate (a.choices.map fun c => inked .green c.1) ++ plain "]"
  | _ => []

/-- A line that may help, after a blank line. -/
def tip (text : Styled) : Styled := plain "\n\n  " ++ inked .green "tip:" ++ plain " " ++ text

/-- Something of a kind that may be meant. -/
def similarTip (kind : String) : List String → Styled
  | [] => []
  | [s] => tip (plain ("a similar " ++ kind ++ " exists: '") ++ inked .green s ++ plain "'")
  | all => tip (plain ("some similar " ++ kind ++ "s exist: ")
      ++ (plain ", ").intercalate (all.map fun s => plain "'" ++ inked .green s ++ plain "'"))

def advice : Fault → Styled
  | .unknownCommand _ similar => similarTip "subcommand" similar
  | .unknownArgument _ similar =>
    similarTip "argument" (similar.toList.map fun a => "--" ++ a.long)
  | .misplacedArgument _ command similar =>
    tip (plain "'" ++ inked .green (command.name ++ " --" ++ similar) ++ plain "' exists")
  | .commandAfterDashes name =>
    tip (plain "subcommand '" ++ inked .green name ++ plain "' exists; to use it, remove the '"
      ++ inked .yellow "--" ++ plain "' before it")
  | .invalidValue _ _ similar => similarTip "value" similar.toList
  | _ => []

/-- Is usage shown? -/
def showsUsage : Fault → Bool
  | .missingValue _ | .invalidValue .. => false
  | _ => true

/-- The whole report; `used` are the arguments that usage shows. -/
def report (f : Fault) (l : Level) (used : List Argument) : Styled :=
  inked .alarm "error:" ++ plain " " ++ f.message ++ f.choices ++ f.advice
    ++ (if f.showsUsage then plain "\n\n" ++ usageLine l used else [])
    ++ plain "\n\nFor more information, try '" ++ inked .bold "--help" ++ plain "'.\n"

end Fault
end RouteShortcuts.CommandLine
