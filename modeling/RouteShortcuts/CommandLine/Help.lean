/-
  RouteShortcuts.CommandLine.Help — usage lines and help texts.

  Help comes in a short form, where each argument takes one line, and for commands whose values need
  explaining also in a long form, where the explanations stand below the arguments.
-/

import RouteShortcuts.CommandLine.Argument
import RouteShortcuts.Styled

namespace RouteShortcuts.CommandLine

open RouteShortcuts.Styled

def blanks (n : Nat) : String := String.ofList (List.replicate n ' ')

/-! ## Usage -/

/-- An argument as usage shows it. -/
def Argument.usage (a : Argument) : Styled :=
  inked .bold ("--" ++ a.long) ++ plain a.valueShown

/-- The usage of a level, with the arguments that were used if there are any. -/
def usageLine (l : Level) (used : List Argument) : Styled :=
  inked .underlined "Usage:" ++ plain " " ++ inked .bold (Level.name l)
    ++ if used.isEmpty then plain (Level.rest l) else used.flatMap fun a => plain " " ++ a.usage

/-! ## Help -/

def hasLongHelp (l : Level) : Bool := (Level.arguments l).any (!·.choices.isEmpty)

/-- An argument with its short name, as help lists it. -/
def Argument.listed (a : Argument) : Styled :=
  (match a.short? with
    | some c => inked .bold ("-" ++ String.singleton c) ++ plain ", "
    | none => plain "    ")
    ++ a.usage

def Argument.listedWidth (a : Argument) : Nat := 4 + a.shown.length

/-- What help says about an argument; the help argument says where to find the other form. -/
def Argument.helpText (long : Bool) (l : Level) (a : Argument) : String :=
  if a = .help ∧ hasLongHelp l then
    if long then "Print help (see a summary with '-h')" else "Print help (see more with '--help')"
  else a.about

/-- The values of an argument on one line. -/
def Argument.notes (long : Bool) (a : Argument) : List String :=
  (match a.fallback? with
    | some s => ["[default: " ++ s ++ "]"]
    | none => [])
    ++ if long ∨ a.choices.isEmpty then []
      else ["[possible values: " ++ ", ".intercalate (a.choices.map (·.1)) ++ "]"]

/-- An argument in the short form, its text in the column `column`. -/
def Argument.shortHelp (l : Level) (column : Nat) (a : Argument) : Styled :=
  plain "  " ++ a.listed ++ plain (blanks (column - 2 - a.listedWidth))
    ++ plain (" ".intercalate (a.helpText false l :: a.notes false)) ++ plain "\n"

/-- How far the long form indents what it says about an argument. -/
def longIndent : String := blanks 10

/-- A value and what it means, in the long form. -/
def choiceHelp (width : Nat) (choice : String × String) : Styled :=
  plain ("\n" ++ longIndent ++ "- ") ++ inked .bold choice.1
    ++ plain (": " ++ blanks (width - choice.1.length) ++ choice.2)

/-- The values of an argument in the long form. -/
def Argument.choicesHelp (a : Argument) : Styled :=
  if a.choices.isEmpty then []
  else
    let width := (a.choices.map (·.1.length)).foldl max 0
    plain ("\n\n" ++ longIndent ++ "Possible values:") ++ a.choices.flatMap (choiceHelp width)

def Argument.longHelp (l : Level) (a : Argument) : Styled :=
  plain "  " ++ a.listed ++ plain ("\n" ++ longIndent)
    ++ plain
      (("\n" ++ longIndent ++ "\n" ++ longIndent).intercalate (a.helpText true l :: a.notes true))
    ++ a.choicesHelp ++ plain "\n"

def argumentsHelp (long : Bool) (l : Level) : Styled :=
  let as := Level.arguments l
  if long then (plain "\n").intercalate (as.map (Argument.longHelp l))
  else
    let column := (as.map Argument.listedWidth).foldl max 0 + 4
    as.flatMap (Argument.shortHelp l column)

def commandsHelp : Styled :=
  let width := (Command.all.map (·.name.length)).foldl max 0
  Command.all.flatMap fun c =>
    plain "  " ++ inked .bold c.name ++ plain (blanks (width + 2 - c.name.length) ++ c.about ++ "\n")

/-- The help of a level; the long form is given where there is one. -/
def help (long : Bool) (l : Level) : Styled :=
  let options := plain "\n" ++ inked .underlined "Options:" ++ plain "\n"
    ++ argumentsHelp (long && hasLongHelp l) l
  plain (Level.about l ++ "\n\n") ++ usageLine l [] ++ plain "\n"
    ++ match l with
      | none => plain "\n" ++ inked .underlined "Commands:" ++ plain "\n" ++ commandsHelp ++ options
      | some .help => plain "\n" ++ inked .underlined "Arguments:"
          ++ plain "\n  [COMMAND]...  Print help for the subcommand(s)\n"
      | some _ => options

def version : Styled := plain (Level.programName ++ " 0.1.0\n")

end RouteShortcuts.CommandLine
